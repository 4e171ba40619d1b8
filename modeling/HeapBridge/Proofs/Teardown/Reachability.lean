import HeapBridge.Proofs.Teardown.Releases
import Mathlib.Order.WellFoundedSet
/-!
Reachability. The objects of both heaps own one another: proxies their host values, host objects what they
refer to, and handles the native objects that they release. Some host objects are kept by what no owner
drops: by converters, by the scripts of classes, and by iterators that no slot names. The main statement
is that after everything has been dropped just those objects are left that can be reached from these, if
no object owns itself.
-/
namespace HeapBridge

open Host (Ref)
open Relation (ReflTransGen TransGen)

variable {world : World} {before after : Session} {address number : Nat}

/-- An object of one of the two heaps. -/
inductive Node where
  | host (address : Nat)
  | native (address : Nat)
  deriving DecidableEq, Repr

/-- A native object is owned by a handle that points to it. -/
theorem Host.Object.exists_handle {object : Host.Object} {owned : Nat}
    (hOwned : .reference owned ∈ object.holdings) :
    ∃ handle, object.body = .handle handle ∧ handle.pointer = .native owned := by
  unfold holdings at hOwned
  split at hOwned
  next handle hBody =>
    refine ⟨handle, hBody, ?_⟩
    unfold Handle.holdings at hOwned
    split at hOwned
    next => simp at hOwned
    next => simp at hOwned
    next hPointer => simpa [hPointer, eq_comm] using hOwned
    next => simp at hOwned
  next => simp at hOwned

/-- An object that refers to a backing has it for its own. -/
theorem Native.Heap.backing?_of_mem {heap : Native.Heap} {object : Native.Object} {ref : Ref}
    (hObject : heap.object? address = some object) (hRef : ref ∈ object.payload.references) :
    heap.backing? address = some ref := by
  obtain ⟨retainCount, payload⟩ := object
  cases payload with
  | foreignSet backing =>
    obtain rfl := List.mem_singleton.mp hRef
    rw [backing?, hObject]
  | _ => cases hRef

namespace World

def Has (world : World) : Node → Prop
  | .host address => world.host.isLive (.object address) = true
  | .native address => ∃ object, world.native.object? address = some object

theorem not_has_host : ¬ world.Has (.host address) ↔ world.host.object? address = none := by
  simp only [Has, Host.Heap.isLive, Bool.not_eq_true, Option.isSome_eq_false_iff,
    Option.isNone_iff_eq_none]

/-- Whether an object owns another one directly. -/
inductive Owns (world : World) : Node → Node → Prop where
  /-- A host object refers to another one: a container to its elements, an iterator to what it goes over. -/
  | refers {address inner : Nat} {object : Host.Object}
      (hObject : world.host.object? address = some object) (hRef : .object inner ∈ object.references) :
      Owns world (.host address) (.host inner)
  /-- A handle has retained a native object. -/
  | retains {address owned : Nat} {object : Host.Object}
      (hObject : world.host.object? address = some object)
      (hOwned : .reference owned ∈ object.holdings) : Owns world (.host address) (.native owned)
  /-- A proxy holds a reference to its host value. -/
  | proxies {address backing : Nat} {object : Native.Object}
      (hObject : world.native.object? address = some object)
      (hRef : .object backing ∈ object.payload.references) :
      Owns world (.native address) (.host backing)

/-- Whether no object owns itself, directly or through others. -/
def Acyclic (world : World) : Prop := ∀ node, ¬ TransGen world.Owns node node

/-- Only objects that are there own others. -/
theorem Owns.has {node other : Node} (hOwns : world.Owns node other) : world.Has node := by
  cases hOwns with
  | refers hObject _ => exact Option.isSome_iff_exists.mpr ⟨_, hObject⟩
  | retains hObject _ => exact Option.isSome_iff_exists.mpr ⟨_, hObject⟩
  | proxies hObject _ => exact ⟨_, hObject⟩

/-- A world has finitely many objects. -/
theorem finite_has (world : World) : {node | world.Has node}.Finite := by
  have hHost := (Set.finite_Iio world.host.cells.size).image Node.host
  have hNative := (Set.finite_Iio world.native.cells.size).image Node.native
  refine (hHost.union hNative).subset fun node hNode => ?_
  cases node with
  | host address =>
    obtain ⟨object, hObject⟩ := Option.isSome_iff_exists.mp hNode
    exact .inl ⟨address, Host.Heap.lt_size_of_object? hObject, rfl⟩
  | native address =>
    obtain ⟨object, hObject⟩ := hNode
    have hCell := Native.Heap.object?_eq_some_iff.mp hObject
    exact .inr ⟨address, Native.Heap.lt_size_of_cell? hCell, rfl⟩

/-- If no object owns itself, what is true of an object if it is true of its owners is true of all. -/
theorem Acyclic.induction {motive : Node → Prop} (hAcyclic : world.Acyclic)
    (hOwned : ∀ node, world.Has node → (∀ owner, world.Owns owner node → motive owner) → motive node)
    {node : Node} (hNode : world.Has node) : motive node := by
  have hStrict : IsStrictOrder Node (TransGen world.Owns) :=
    { irrefl := hAcyclic, trans := fun _ _ _ => TransGen.trans }
  have hFounded : {node | world.Has node}.WellFoundedOn (TransGen world.Owns) :=
    world.finite_has.wellFoundedOn
  refine hFounded.induction hNode fun node hHas ih => hOwned node hHas fun owner hOwns => ?_
  exact ih owner hOwns.has (.single hOwns)

/-- Whether a number that each object is given grows along with ownership. -/
def ascends (rank : Node → Nat) (world : World) : Bool :=
  (world.host.addresses.all fun address =>
    let object := world.host.view (.object address)
    (object.references.all fun ref =>
      match ref with
      | .object inner => decide (rank (.host address) < rank (.host inner))
      | .atom _ => true) &&
    match object.body with
    | .handle { pointer := .native owned, .. } => decide (rank (.host address) < rank (.native owned))
    | _ => true) &&
  (List.range world.native.cells.size).all fun address =>
    match world.native.backing? address with
    | some (.object backing) => decide (rank (.native address) < rank (.host backing))
    | _ => true

/-- Along with ownership such a number grows. -/
theorem Owns.rank_lt {rank : Node → Nat} {node other : Node} (hOwns : world.Owns node other)
    (hAscends : world.ascends rank = true) : rank node < rank other := by
  rw [ascends, Bool.and_eq_true, List.all_eq_true, List.all_eq_true] at hAscends
  have hHost {address : Nat} {object : Host.Object}
      (hObject : world.host.object? address = some object) :=
    hAscends.1 address (Host.Heap.mem_addresses.mpr (by simp [Host.Heap.isLive, hObject]))
  cases hOwns with
  | refers hObject hRef =>
    have hAll := hHost hObject
    rw [Host.Heap.view_of_object? hObject, Bool.and_eq_true, List.all_eq_true] at hAll
    simpa using hAll.1 _ hRef
  | retains hObject hOwned =>
    have hAll := hHost hObject
    obtain ⟨handle, hBody, hPointer⟩ := Host.Object.exists_handle hOwned
    obtain ⟨typeId, typeName, pointer, ownership⟩ := handle
    obtain rfl : pointer = .native _ := hPointer
    rw [Host.Heap.view_of_object? hObject] at hAll
    dsimp only at hAll
    rw [hBody, Bool.and_eq_true] at hAll
    exact of_decide_eq_true hAll.2
  | proxies hObject hRef =>
    have hIn := Native.Heap.lt_size_of_cell? (Native.Heap.object?_eq_some_iff.mp hObject)
    have hAll := hAscends.2 _ (List.mem_range.mpr hIn)
    rw [Native.Heap.backing?_of_mem hObject hRef] at hAll
    exact of_decide_eq_true hAll

/-- A world in which a number grows along ownership has no cycles. -/
theorem acyclic_of_ascends {rank : Node → Nat} (hAscends : world.ascends rank = true) :
    world.Acyclic := by
  intro node hCycle
  have hLess {other : Node} (hPath : TransGen world.Owns node other) : rank node < rank other := by
    induction hPath with
    | single hOwns => exact hOwns.rank_lt hAscends
    | tail _ hOwns ih => exact ih.trans (hOwns.rank_lt hAscends)
  exact Nat.lt_irrefl _ (hLess hCycle)

end World

namespace Session

/-- Whether a host object is referred to by something that no owner drops. -/
inductive Anchors (session : Session) (address : Nat) : Prop where
  | converter (hRef : .object address ∈ session.world.registry.references)
  | script {script : Host.Script} (hScript : script ∈ session.world.host.scripts)
      (hRef : .object address ∈ script.references)
  | stray {number : Nat} (hStray : ¬ session.HasIterator number)
      (hRef : .object address ∈ (session.world.cursor number).references)

/-- Whether an object is owned by what no owner drops, directly or through others. -/
def Keeps (session : Session) (node : Node) : Prop :=
  ∃ address, session.Anchors address ∧ ReflTransGen session.world.Owns (.host address) node

theorem Keeps.step {session : Session} {node other : Node} (hKeeps : session.Keeps node)
    (hOwns : session.world.Owns node other) : session.Keeps other := by
  obtain ⟨address, hAnchors, hPath⟩ := hKeeps
  exact ⟨address, hAnchors, hPath.tail hOwns⟩

end Session

/-- What handles own, some handle that is there owns. -/
theorem Host.Heap.exists_of_mem_holdings {heap : Host.Heap} {holding : Holding}
    (hHolding : holding ∈ heap.holdings) :
    ∃ address object, heap.object? address = some object ∧ holding ∈ object.holdings := by
  have hCells (cells : List (Option Host.Object))
      (hSum : holding ∈ (cells.map fun cell => cell.elim 0 Host.Object.holdings).sum) :
      ∃ object, some object ∈ cells ∧ holding ∈ object.holdings := by
    induction cells with
    | nil => simp at hSum
    | cons cell rest ih =>
      rw [List.map_cons, List.sum_cons, Multiset.mem_add] at hSum
      rcases hSum with hFirst | hRest
      · cases cell with
        | none => simp at hFirst
        | some object => exact ⟨object, List.mem_cons_self, hFirst⟩
      · obtain ⟨object, hObject, hOwned⟩ := ih hRest
        exact ⟨object, List.mem_cons_of_mem _ hObject, hOwned⟩
  obtain ⟨object, hObject, hOwned⟩ := hCells heap.cells.toList hHolding
  obtain ⟨address, hIn, hCell⟩ := List.mem_iff_getElem.mp hObject
  refine ⟨address, object, ?_, hOwned⟩
  have hSize : address < heap.cells.size := by simpa using hIn
  rw [object?, Array.getElem?_eq_getElem hSize, show heap.cells[address] = some object by simpa using hCell]
  rfl

namespace Session.Drains

/-! When everything has been dropped, nothing is owned or held from outside. -/

theorem remaining_eq_nil (hDrains : Drains before after) : after.remaining = [] := by
  refine List.eq_nil_iff_forall_not_mem.mpr fun owner hOwner => ?_
  have hCount := List.count_pos_iff.mpr hOwner
  rw [count_remaining, hDrains.cleared] at hCount
  exact Nat.lt_irrefl 0 hCount

private theorem entries_eq_nil {α : Type} {slots : Slots α} {times : α → Nat}
    (hDrains : Drains before after) (owner : String → Owner) (hTimes : ∀ content, 0 < times content)
    (hOwes : ∀ name, after.owes (owner name) = (slots.get? name).elim 0 times) : slots.entries = [] := by
  refine Slots.entries_eq_nil fun name => ?_
  have hNone := hOwes name
  rw [hDrains.cleared] at hNone
  cases hContent : slots.get? name with
  | none => rfl
  | some content =>
    have hPositive := hTimes content
    rw [hContent, Option.elim_some] at hNone
    omega

/-- A session that has dropped everything owns nothing in the native heap. -/
theorem holdings_eq_zero (hDrains : Drains before after) : after.holdings = 0 := by
  have hObjects : after.objects.entries = [] :=
    hDrains.entries_eq_nil .object (fun content => content.hOwned) fun _ => rfl
  have hValues : after.values.entries = [] :=
    hDrains.entries_eq_nil .value (fun _ => Nat.one_pos) fun _ => rfl
  have hStorage : after.storage.entries = [] :=
    hDrains.entries_eq_nil .storage (fun _ => Nat.one_pos) fun _ => rfl
  simp [holdings, Slots.total, hObjects, hValues, hStorage]

/-- It holds no host object, either. -/
theorem held_eq_nil (hDrains : Drains before after) (hSettled : after.Settled) :
    after.world.held = [] := by
  have hHosts : after.hosts.entries = [] :=
    hDrains.entries_eq_nil .host (fun _ => Nat.one_pos) fun _ => rfl
  have hValues : after.values.entries = [] :=
    hDrains.entries_eq_nil .value (fun _ => Nat.one_pos) fun _ => rfl
  simpa [Settled, claims, Slots.total, hHosts, hValues] using hSettled

/-- A native object that is left is owned by a handle that is left. -/
theorem exists_handle (hDrains : Drains before after) (hBalanced : before.account.Balanced)
    {object : Native.Object} (hObject : after.world.native.object? address = some object) :
    ∃ handle found, after.world.host.object? handle = some found ∧
      .reference address ∈ found.holdings := by
  have hOwned := Native.Heap.OwnedBy.reference_mem (hDrains.fades.balanced hBalanced) hObject
  change _ ∈ after.holdings + after.world.host.holdings at hOwned
  rw [hDrains.holdings_eq_zero, zero_add] at hOwned
  exact Host.Heap.exists_of_mem_holdings hOwned

variable {node : Node}

/-- Draining makes no objects. -/
theorem has_before (hDrains : Drains before after) (hHas : after.world.Has node) :
    before.world.Has node := by
  cases node with
  | host address => exact hDrains.fades.shrinks.isLive hHas
  | native address =>
    obtain ⟨object, hObject⟩ := hHas
    obtain ⟨old, hOld, _⟩ := hDrains.fades.shrinks.native hObject
    exact ⟨old, hOld⟩

/-- Draining makes no new owners. -/
theorem owns_before (hDrains : Drains before after) {other : Node}
    (hOwns : after.world.Owns node other) : before.world.Owns node other := by
  have hShrinks := hDrains.fades.shrinks
  cases hOwns with
  | refers hObject hRef => exact .refers (hShrinks.object _ _ hObject) hRef
  | retains hObject hOwned => exact .retains (hShrinks.object _ _ hObject) hOwned
  | proxies hObject hRef =>
    obtain ⟨old, hOld, hPayload⟩ := hShrinks.native hObject
    exact .proxies hOld (hPayload ▸ hRef)

/-- An object that is left is owned by one that is left, or nothing that is dropped owns it. -/
theorem anchors_or_owned (hDrains : Drains before after) (hBalanced : before.account.Balanced)
    (hSettled : after.Settled) (hSwept : after.world.Swept) (hHas : after.world.Has node) :
    (∃ address, node = .host address ∧ before.Anchors address) ∨
      ∃ owner, after.world.Owns owner node := by
  have hShrinks := hDrains.fades.shrinks
  cases node with
  | native address =>
    obtain ⟨object, hObject⟩ := hHas
    obtain ⟨handle, found, hFound, hOwned⟩ := hDrains.exists_handle hBalanced hObject
    exact .inr ⟨.host handle, .retains hFound hOwned⟩
  | host address =>
    have hReferenced := World.isReferenced_iff.mp (hSwept address hHas)
    rw [hDrains.held_eq_nil hSettled] at hReferenced
    cases hReferenced.resolve_left List.not_mem_nil with
    | proxy hObject hRef => exact .inr ⟨_, .proxies hObject hRef⟩
    | object hObject hRef => exact .inr ⟨_, .refers hObject hRef⟩
    | converter hRef => exact .inl ⟨address, rfl, .converter (hShrinks.registry ▸ hRef)⟩
    | script hScript hRef => exact .inl ⟨address, rfl, .script (hShrinks.scripts ▸ hScript) hRef⟩
    | cursor number hRef =>
      have hStray : ¬ before.HasIterator number := by
        intro hIterator
        rw [hDrains.finished number hIterator] at hRef
        cases hRef
      rw [hDrains.stray number hStray] at hRef
      exact .inl ⟨address, rfl, .stray hStray hRef⟩

/-- What is left is kept by what no owner drops, if no object owns itself. -/
theorem keeps_of_has (hDrains : Drains before after) (hAcyclic : before.world.Acyclic)
    (hBalanced : before.account.Balanced) (hSettled : after.Settled) (hSwept : after.world.Swept)
    (hHas : after.world.Has node) : before.Keeps node := by
  have hBefore := hDrains.has_before hHas
  revert hHas
  refine hAcyclic.induction (motive := fun node => after.world.Has node → before.Keeps node)
    (fun node _ ih hHas => ?_) hBefore
  rcases hDrains.anchors_or_owned hBalanced hSettled hSwept hHas with
    ⟨address, rfl, hAnchors⟩ | ⟨owner, hOwns⟩
  · exact ⟨address, hAnchors, .refl⟩
  · exact (ih owner (hDrains.owns_before hOwns) hOwns.has).step (hDrains.owns_before hOwns)

/-- What is anchored is mentioned to the end. -/
theorem mentions_of_anchors (hDrains : Drains before after) (hAnchors : before.Anchors address) :
    after.world.Mentions (.object address) := by
  have hShrinks := hDrains.fades.shrinks
  cases hAnchors with
  | converter hRef => exact .converter (hShrinks.registry ▸ hRef)
  | script hScript hRef => exact .script (hShrinks.scripts ▸ hScript) hRef
  | @stray number hStray hRef => exact .cursor number (hDrains.stray number hStray ▸ hRef)

/-- What an object owns that is left is left, too. -/
theorem has_of_owns (hDrains : Drains before after) (hBalanced : before.account.Balanced)
    {other : Node} (hOwns : before.world.Owns node other) (hOther : before.world.Has other)
    (hHas : after.world.Has node) : after.world.Has other := by
  have hShrinks := hDrains.fades.shrinks
  cases hOwns with
  | refers hObject hRef =>
    have hLeft := (hShrinks.object?_eq hHas).trans hObject
    exact hDrains.fades.isLive hOther (World.isReferenced_iff.mpr (.inr (.object hLeft hRef)))
  | retains hObject hOwned =>
    have hLeft := (hShrinks.object?_eq hHas).trans hObject
    exact Account.Balanced.exists_owned (hDrains.fades.balanced hBalanced) hLeft _ hOwned
  | proxies hObject hRef =>
    obtain ⟨left, hLeft⟩ := hHas
    obtain ⟨old, hOld, hPayload⟩ := hShrinks.native hLeft
    change before.world.native.object? _ = some old at hOld
    obtain rfl := Option.some.inj (hObject.symm.trans hOld)
    have hMentions : after.world.Mentions (.object _) := .proxy hLeft (hPayload ▸ hRef)
    exact hDrains.fades.isLive hOther (World.isReferenced_iff.mpr (.inr hMentions))

/-- What is kept by what no owner drops is left. -/
theorem has_of_keeps (hDrains : Drains before after) (hBalanced : before.account.Balanced)
    (hKeeps : before.Keeps node) (hHas : before.world.Has node) : after.world.Has node := by
  obtain ⟨address, hAnchors, hPath⟩ := hKeeps
  induction hPath with
  | refl =>
    have hMentions := hDrains.mentions_of_anchors hAnchors
    exact hDrains.fades.isLive hHas (World.isReferenced_iff.mpr (.inr hMentions))
  | tail _ hOwns ih => exact hDrains.has_of_owns hBalanced hOwns hHas (ih hOwns.has)

/-- Just what is kept is left. -/
theorem has_iff (hDrains : Drains before after) (hAcyclic : before.world.Acyclic)
    (hBalanced : before.account.Balanced) (hSettled : after.Settled) (hSwept : after.world.Swept) :
    after.world.Has node ↔ before.world.Has node ∧ before.Keeps node :=
  ⟨fun hHas => ⟨hDrains.has_before hHas,
    hDrains.keeps_of_has hAcyclic hBalanced hSettled hSwept hHas⟩,
    fun hKept => hDrains.has_of_keeps hBalanced hKept.2 hKept.1⟩

end Session.Drains

end HeapBridge
