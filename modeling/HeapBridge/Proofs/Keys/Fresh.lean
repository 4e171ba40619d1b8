import HeapBridge.Proofs.Handles.Crossing
import HeapBridge.Proofs.Sets.Shedding
import HeapBridge.Proofs.Teardown.Cascades
/-!
Fresh handles. A world is told as another one with some handles in it that were made since, each of which
owns one reference to a native object. When such a handle is not referred to any more it is given up with its
reference, and the rest of the world stays as it is.
-/
namespace HeapBridge

open Host (Context Heap Object Ops Ref)

variable {base world : World} {fresh : List (Nat × Handle)} {address : Nat} {handle : Handle} {ref : Ref}
  {refs others : List Ref}

/-- Whether a handle owns a reference to a native object that is there. -/
structure Handle.Retains (handle : Handle) (native : Native.Heap) : Prop where
  counted : handle.ownership = some .nativeObject ∨ handle.ownership = some .frameworkObject
  pointer : ∃ address, handle.pointer = .native address ∧ 0 < native.retainCount address

theorem Handle.Retains.owns_eq {native : Native.Heap} (hRetains : handle.Retains native)
    (hPointer : handle.pointer = .native address) (other : Nat) :
    handle.owns other = if other = address then 1 else 0 := by
  rcases hRetains.counted with hOwnership | hOwnership <;>
    simp only [owns, hOwnership, hPointer, Pointer.native.injEq, eq_comm]

theorem Handle.Retains.retainCount_pos {native : Native.Heap} (hRetains : handle.Retains native)
    (hPointer : handle.pointer = .native address) : 0 < native.retainCount address := by
  obtain ⟨owned, hOwned, hPositive⟩ := hRetains.pointer
  cases hPointer.symm.trans hOwned
  exact hPositive

/-- To make such a handle adds a reference. -/
theorem Handle.Retains.exists_retainOwned {native : Native.Heap} (hRetains : handle.Retains native)
    (hPointer : handle.pointer = .native address) (world : World) :
    ∃ calls, world.retainOwned handle = { world with native := world.native.retain address, calls } := by
  obtain ⟨_, _, pointer, ownership⟩ := handle
  cases hPointer
  rcases hRetains.counted with hOwnership | hOwnership <;> cases hOwnership <;> exact ⟨_, rfl⟩

/-- The end of such a handle takes a reference away. -/
theorem Handle.Retains.exists_reclaim {native : Native.Heap} (hRetains : handle.Retains native)
    (hPointer : handle.pointer = .native address) {place : Nat}
    (hObject : world.host.object? place = some { body := .handle handle }) :
    ∃ log calls, world.reclaim place =
      { world with host := world.host.free place, log, calls }.dropNative address := by
  obtain ⟨_, _, pointer, ownership⟩ := handle
  cases hPointer
  unfold World.reclaim
  rw [Heap.view_of_object? hObject]
  rcases hRetains.counted with hOwnership | hOwnership <;> cases hOwnership <;> exact ⟨_, _, rfl⟩

def ownedBy (fresh : List (Nat × Handle)) (address : Nat) : Nat :=
  (fresh.map fun entry => entry.2.owns address).sum

@[simp] theorem ownedBy_cons (entry : Nat × Handle) (fresh : List (Nat × Handle)) (address : Nat) :
    ownedBy (entry :: fresh) address = entry.2.owns address + ownedBy fresh address := by
  simp [ownedBy]

theorem ownedBy_perm {others : List (Nat × Handle)} (hPerm : fresh.Perm others) (address : Nat) :
    ownedBy fresh address = ownedBy others address := (hPerm.map _).sum_nat

namespace Native

/-- The cell with some more references to the object in it. -/
def Cell.retained (count : Nat) : Cell → Cell
  | .live object => .live { object with retainCount := object.retainCount + count }
  | cell => cell

@[simp] theorem Cell.retained_zero (cell : Cell) : cell.retained 0 = cell := by
  cases cell <;> rfl

namespace Heap

variable {base heap : Heap} {owned : Nat} {count : Nat → Nat}

theorem exists_object_of_pos (hPositive : 0 < heap.retainCount address) :
    ∃ object, heap.object? address = some object ∧ 0 < object.retainCount := by
  cases hObject : heap.object? address with
  | none => simp [retainCount, hObject] at hPositive
  | some object => exact ⟨object, rfl, by rwa [retainCount_of_object? hObject] at hPositive⟩

/-- Whether a heap is another one in which each object has so many references more. -/
def Raises (base heap : Heap) (count : Nat → Nat) : Prop :=
  ∀ address, heap.cell? address = (base.cell? address).map (·.retained (count address))

namespace Raises

theorem object? (hRaises : base.Raises heap count) (address : Nat) :
    heap.object? address = (base.object? address).map fun object =>
      { object with retainCount := object.retainCount + count address } := by
  simp only [Heap.object?, hRaises address]
  rcases base.cell? address with _ | ⟨nativeClass⟩ | ⟨object⟩ <;> rfl

/-- One more reference from outside raises one count by one. -/
theorem retain (hRaises : base.Raises heap count) (hPositive : 0 < base.retainCount owned) :
    base.Raises (heap.retain owned) fun other => (if other = owned then 1 else 0) + count other := by
  intro other
  obtain ⟨object, hObject, _⟩ := exists_object_of_pos hPositive
  have hMore := hRaises.object? owned
  rw [hObject] at hMore
  rw [cell?_retain hMore]
  dsimp only
  by_cases hOther : other = owned
  · subst hOther
    simp only [if_true, object?_eq_some_iff.mp hObject, Option.map_some, Cell.retained]
    congr 3
    omega
  · rw [if_neg hOther, if_neg hOther, Nat.zero_add, hRaises]

/-- What was added can be taken away, and there is a reference left. -/
theorem release (hPositive : 0 < base.retainCount owned)
    (hRaises : base.Raises heap fun other => (if other = owned then 1 else 0) + count other) :
    (heap.release owned).1 = none ∧ base.Raises (heap.release owned).2 count := by
  obtain ⟨object, hObject, hCount⟩ := exists_object_of_pos hPositive
  have hMore := hRaises.object? owned
  rw [hObject, if_pos rfl] at hMore
  have hLeft : ¬ object.retainCount + (1 + count owned) ≤ 1 := by omega
  constructor
  · rw [release_fst hMore, if_neg hLeft]
  · intro other
    rw [cell?_release hMore, Object.afterRelease, if_neg hLeft]
    by_cases hOther : other = owned
    · subst hOther
      have hSame : object.retainCount + (1 + count other) - 1 = object.retainCount + count other := by omega
      simp only [if_true, hSame, object?_eq_some_iff.mp hObject, Option.map_some, Cell.retained]
    · rw [if_neg hOther, hRaises]
      simp only [if_neg hOther, Nat.zero_add]

end Raises

end Heap

end Native

namespace World

/-- Whether a world is another one with fresh handles in it, each at its address. What is held and what is
recorded may be anything. -/
structure Wraps (base : World) (fresh : List (Nat × Handle)) (world : World) : Prop where
  cursors : world.cursors = base.cursors
  registry : world.registry = base.registry
  scripts : world.host.scripts = base.host.scripts
  size : base.host.cells.size ≤ world.host.cells.size
  old : ∀ address < base.host.cells.size, world.host.object? address = base.host.object? address
  new : ∀ address object, base.host.cells.size ≤ address →
    (world.host.object? address = some object ↔
      ∃ handle, (address, handle) ∈ fresh ∧ object = { body := .handle handle })
  nodup : (fresh.map (·.1)).Nodup
  beyond : ∀ entry ∈ fresh, base.host.cells.size ≤ entry.1
  retains : ∀ entry ∈ fresh, entry.2.Retains base.native
  /-- Each native object has the references of the fresh handles besides. -/
  native : base.native.Raises world.native (ownedBy fresh)
  /-- Of what was made since nothing is referred to but the handles. -/
  mentioned : ∀ address, base.host.cells.size ≤ address → base.Mentions (.object address) →
    ∃ handle, (address, handle) ∈ fresh

namespace Wraps

theorem of_held (hWraps : base.Wraps fresh world) (held : List Ref) :
    base.Wraps fresh { world with held } where
  __ := hWraps

theorem of_base_held (hWraps : base.Wraps fresh world) (held : List Ref) :
    ({ base with held } : World).Wraps fresh world where
  __ := hWraps
  mentioned address hNew hMentions := by
    have hShrinks : base.Shrinks { base with held } := .aside rfl rfl rfl rfl
    exact hWraps.mentioned address hNew (hShrinks.mentions hMentions)

/-- The order of the handles does not matter. -/
theorem perm {others : List (Nat × Handle)} (hWraps : base.Wraps fresh world) (hPerm : fresh.Perm others) :
    base.Wraps others world where
  cursors := hWraps.cursors
  registry := hWraps.registry
  scripts := hWraps.scripts
  size := hWraps.size
  old := hWraps.old
  new address object hNew := by simpa only [hPerm.mem_iff] using hWraps.new address object hNew
  nodup := (hPerm.map _).nodup_iff.mp hWraps.nodup
  beyond entry hEntry := hWraps.beyond entry (hPerm.mem_iff.mpr hEntry)
  retains entry hEntry := hWraps.retains entry (hPerm.mem_iff.mpr hEntry)
  native address := by rw [hWraps.native, ownedBy_perm hPerm]
  mentioned address hNew hMentions := by
    simpa only [hPerm.mem_iff] using hWraps.mentioned address hNew hMentions

theorem object?_of_mem (hWraps : base.Wraps fresh world) (hEntry : (address, handle) ∈ fresh) :
    world.host.object? address = some { body := .handle handle } :=
  (hWraps.new address _ (hWraps.beyond _ hEntry)).mpr ⟨handle, hEntry, rfl⟩

theorem isHandle (hWraps : base.Wraps fresh world) (hEntry : (address, handle) ∈ fresh) :
    world.host.IsHandle (.object address) handle := by
  have hView := Heap.view_of_object? (hWraps.object?_of_mem hEntry)
  exact ⟨by rw [Heap.body, hView], by rw [hView]⟩

/-- A handle is told by its address. -/
theorem eq_of_mem (hWraps : base.Wraps fresh world) {other : Handle} (hEntry : (address, handle) ∈ fresh)
    (hOther : (address, other) ∈ fresh) : handle = other := by
  have hBody := (hWraps.isHandle hEntry).1
  rw [(hWraps.isHandle hOther).1] at hBody
  exact (Host.Body.handle.inj hBody).symm

theorem backing? (hWraps : base.Wraps fresh world) (address : Nat) :
    world.native.backing? address = base.native.backing? address := by
  simp only [Native.Heap.backing?]
  rw [hWraps.native.object?]
  rcases base.native.object? address with _ | ⟨count, payload⟩
  · rfl
  · cases payload <;> rfl

/-- What no handle points to no handle owns a reference to. -/
theorem ownedBy_eq_zero (hWraps : base.Wraps fresh world)
    (hNone : ∀ entry ∈ fresh, entry.2.pointer ≠ .native address) : ownedBy fresh address = 0 := by
  apply List.sum_eq_zero
  intro count hCount
  obtain ⟨entry, hEntry, rfl⟩ := List.mem_map.mp hCount
  have hRetains := hWraps.retains entry hEntry
  obtain ⟨owned, hPointer, _⟩ := hRetains.pointer
  rw [hRetains.owns_eq hPointer, if_neg]
  rintro rfl
  exact hNone entry hEntry hPointer

/-- Each native object has the references that the handles own besides. -/
theorem retainCount (hWraps : base.Wraps fresh world) (address : Nat) :
    world.native.retainCount address = base.native.retainCount address + ownedBy fresh address := by
  rw [Native.Heap.retainCount, hWraps.native.object?, Native.Heap.retainCount]
  cases hObject : base.native.object? address with
  | some object => rfl
  | none =>
    have hNone : ownedBy fresh address = 0 := by
      apply hWraps.ownedBy_eq_zero
      intro entry hEntry hPointer
      have hPositive := (hWraps.retains entry hEntry).retainCount_pos hPointer
      simp [Native.Heap.retainCount, hObject] at hPositive
    rw [hNone]
    rfl

/-- Handles refer to nothing, so nothing is referred to besides. -/
theorem mentions_iff (hWraps : base.Wraps fresh world) : world.Mentions ref ↔ base.Mentions ref := by
  constructor
  · rintro (⟨hObject, hRef⟩ | ⟨number, hRef⟩ | hRef | ⟨hObject, hRef⟩ | ⟨hScript, hRef⟩)
    · rw [hWraps.native.object?] at hObject
      obtain ⟨object, hOld, rfl⟩ := Option.map_eq_some_iff.mp hObject
      exact .proxy hOld hRef
    · exact .cursor number (by rwa [cursor, hWraps.cursors] at hRef)
    · exact .converter (hWraps.registry ▸ hRef)
    case object address object =>
      rcases Nat.lt_or_ge address base.host.cells.size with hOld | hNew
      · exact .object (hWraps.old address hOld ▸ hObject) hRef
      · obtain ⟨handle, _, rfl⟩ := (hWraps.new address object hNew).mp hObject
        cases hRef
    · exact .script (hWraps.scripts ▸ hScript) hRef
  · rintro (⟨hObject, hRef⟩ | ⟨number, hRef⟩ | hRef | ⟨hObject, hRef⟩ | ⟨hScript, hRef⟩)
    case proxy address object =>
      have hMore := hWraps.native.object? address
      rw [hObject] at hMore
      exact .proxy hMore hRef
    · exact .cursor number (by rwa [cursor, hWraps.cursors])
    · exact .converter (hWraps.registry.symm ▸ hRef)
    · exact .object ((hWraps.old _ (Heap.lt_size_of_object? hObject)).trans hObject) hRef
    · exact .script (hWraps.scripts.symm ▸ hScript) hRef

theorem isReferenced_iff (hWraps : base.Wraps fresh world) :
    world.isReferenced ref = true ↔ ref ∈ world.held ∨ base.Mentions ref := by
  rw [World.isReferenced_iff, hWraps.mentions_iff]

/-- What the other world refers to is referred to in this one. -/
theorem isReferenced (hWraps : base.Wraps fresh world) (hHeld : base.held ⊆ world.held)
    (hReferenced : base.isReferenced ref = true) : world.isReferenced ref = true :=
  hWraps.isReferenced_iff.mpr ((World.isReferenced_iff.mp hReferenced).imp_left (hHeld ·))

/-- Where there are fewer handles nothing lives besides. -/
theorem isLive_of_subset {less : List (Nat × Handle)} {after : World} (hWraps : base.Wraps fresh world)
    (hAfter : base.Wraps less after) (hLess : less ⊆ fresh)
    (hLive : after.host.isLive (.object address) = true) : world.host.isLive (.object address) = true := by
  obtain ⟨object, hObject⟩ := Option.isSome_iff_exists.mp hLive
  apply Option.isSome_iff_exists.mpr
  rcases Nat.lt_or_ge address base.host.cells.size with hOld | hNew
  · exact ⟨object, (hWraps.old address hOld).trans ((hAfter.old address hOld).symm.trans hObject)⟩
  · obtain ⟨handle, hEntry, _⟩ := (hAfter.new address object hNew).mp hObject
    exact ⟨_, hWraps.object?_of_mem (hLess hEntry)⟩

/-- A pointer crosses as one more handle. -/
theorem handed (hWraps : base.Wraps fresh world) (hRetains : handle.Retains base.native) :
    base.Wraps ((world.host.cells.size, handle) :: fresh) (world.handed handle) where
  cursors := by
    obtain ⟨owned, hPointer, _⟩ := hRetains.pointer
    obtain ⟨calls, hMade⟩ := hRetains.exists_retainOwned hPointer world
    rw [World.handed, hMade]
    exact hWraps.cursors
  registry := (retainOwned_registry world handle).trans hWraps.registry
  scripts := hWraps.scripts
  size := by
    change _ ≤ (world.host.cells.push _).size
    rw [Array.size_push]
    exact hWraps.size.trans (Nat.le_succ _)
  old address hOld := by
    rw [← hWraps.old address hOld]
    exact Heap.object?_allocate_of_lt (hOld.trans_le hWraps.size)
  new address object hNew := by
    change (world.host.allocate { body := .handle handle }).2.object? address = some object ↔ _
    have hBound : ∀ entry ∈ fresh, entry.1 < world.host.cells.size := by
      intro entry hEntry
      exact Heap.lt_size_of_object? (hWraps.object?_of_mem hEntry)
    rcases Nat.lt_trichotomy address world.host.cells.size with hThere | rfl | hBeyond
    · rw [Heap.object?_allocate_of_lt hThere, hWraps.new address object hNew]
      simp only [List.mem_cons, Prod.mk.injEq, Nat.ne_of_lt hThere, false_and, false_or]
    · rw [Heap.object?_allocate_self]
      constructor
      · rintro ⟨⟩
        exact ⟨handle, List.mem_cons_self, rfl⟩
      · rintro ⟨other, hEntry, rfl⟩
        rcases List.mem_cons.mp hEntry with hFirst | hRest
        · cases hFirst
          rfl
        · exact absurd (hBound _ hRest) (Nat.lt_irrefl _)
    · refine iff_of_false (fun hObject => ?_) ?_
      · have hIn := Heap.lt_size_of_object? hObject
        simp only [Heap.allocate, Array.size_push] at hIn
        omega
      · rintro ⟨other, hEntry, _⟩
        rcases List.mem_cons.mp hEntry with hFirst | hRest
        · cases hFirst
          exact Nat.lt_irrefl _ hBeyond
        · exact Nat.lt_asymm hBeyond (hBound _ hRest)
  nodup := by
    rw [List.map_cons, List.nodup_cons]
    refine ⟨fun hThere => ?_, hWraps.nodup⟩
    obtain ⟨entry, hEntry, hSame⟩ := List.mem_map.mp hThere
    have hIn := Heap.lt_size_of_object? (hWraps.object?_of_mem hEntry)
    omega
  beyond entry hEntry := by
    rcases List.mem_cons.mp hEntry with rfl | hRest
    · exact hWraps.size
    · exact hWraps.beyond entry hRest
  retains entry hEntry := by
    rcases List.mem_cons.mp hEntry with rfl | hRest
    · exact hRetains
    · exact hWraps.retains entry hRest
  native := by
    obtain ⟨owned, hPointer, hPositive⟩ := hRetains.pointer
    obtain ⟨calls, hMade⟩ := hRetains.exists_retainOwned hPointer world
    have hMore := hWraps.native.retain hPositive
    rw [World.handed, hMade]
    intro other
    rw [ownedBy_cons, hRetains.owns_eq hPointer]
    exact hMore other
  mentioned address hNew hMentions := by
    obtain ⟨other, hEntry⟩ := hWraps.mentioned address hNew hMentions
    exact ⟨other, List.mem_cons_of_mem _ hEntry⟩

/-- A handle that nothing refers to is given up with the reference that it owns. -/
theorem reclaim (hWraps : base.Wraps fresh world) (hEntry : (address, handle) ∈ fresh)
    (hUnmentioned : ¬ base.Mentions (.object address)) :
    (world.reclaim address).1 = [] ∧
      base.Wraps (fresh.erase (address, handle)) (world.reclaim address).2 := by
  have hPerm := List.perm_cons_erase hEntry
  have hNodup := (hPerm.map Prod.fst).nodup_iff.mp hWraps.nodup
  have hRetains := hWraps.retains _ hEntry
  have hNew := hWraps.beyond _ hEntry
  obtain ⟨owned, hPointer, hPositive⟩ := hRetains.pointer
  obtain ⟨log, calls, hReclaim⟩ := hRetains.exists_reclaim hPointer (hWraps.object?_of_mem hEntry)
  have hRaises : base.native.Raises world.native fun other =>
      (if other = owned then 1 else 0) + ownedBy (fresh.erase (address, handle)) other := by
    intro other
    rw [hWraps.native, ownedBy_perm hPerm, ownedBy_cons, hRetains.owns_eq hPointer]
  obtain ⟨hNone, hLeft⟩ := hRaises.release hPositive
  have hDrop : world.reclaim address = ([], { world with
      host := world.host.free address, log, calls, native := (world.native.release owned).2 }) := by
    rw [hReclaim, dropNative]
    dsimp only
    rw [hNone]
  have hOthers (other : Handle) : (address, other) ∉ fresh.erase (address, handle) := by
    intro hThere
    exact (List.nodup_cons.mp hNodup).1 (List.mem_map.mpr ⟨_, hThere, rfl⟩)
  rw [hDrop]
  refine ⟨rfl, ?_⟩
  exact {
    cursors := hWraps.cursors
    registry := hWraps.registry
    scripts := hWraps.scripts
    size := by
      change _ ≤ (world.host.cells.setIfInBounds address none).size
      rw [Array.size_setIfInBounds]
      exact hWraps.size
    old := by
      intro other hOld
      rw [← hWraps.old other hOld]
      exact Heap.object?_free_of_ne (by omega)
    new := by
      intro other object hBeyond
      change (world.host.free address).object? other = some object ↔ _
      by_cases hSame : address = other
      · subst hSame
        rw [Heap.object?_free_self]
        refine iff_of_false (Option.some_ne_none object).symm ?_
        rintro ⟨found, hFound, _⟩
        exact hOthers found hFound
      · rw [Heap.object?_free_of_ne hSame, hWraps.new other object hBeyond]
        simp only [hPerm.mem_iff, List.mem_cons, Prod.mk.injEq, Ne.symm hSame, false_and, false_or]
    nodup := (List.nodup_cons.mp hNodup).2
    beyond := fun entry hThere => hWraps.beyond entry (List.mem_of_mem_erase hThere)
    retains := fun entry hThere => hWraps.retains entry (List.mem_of_mem_erase hThere)
    native := hLeft
    mentioned := by
      intro other hBeyond hMentions
      obtain ⟨found, hFound⟩ := hWraps.mentioned other hBeyond hMentions
      rcases List.mem_cons.mp (hPerm.mem_iff.mp hFound) with hFirst | hRest
      · cases hFirst
        exact absurd hMentions hUnmentioned
      · exact ⟨found, hRest⟩ }

/-- Where all objects of the other world are referred to, what is abandoned is a fresh handle. -/
theorem exists_of_abandoned (hWraps : base.Wraps fresh world) (hSwept : base.Swept)
    (hHeld : base.held ⊆ world.held) (hAbandoned : Host.isAbandoned address world = true) :
    ∃ handle, (address, handle) ∈ fresh ∧ ¬ base.Mentions (.object address) := by
  simp only [Host.isAbandoned, Bool.and_eq_true, Bool.not_eq_true'] at hAbandoned
  obtain ⟨hLive, hFree⟩ := hAbandoned
  obtain ⟨object, hObject⟩ := Option.isSome_iff_exists.mp hLive
  have hUnmentioned : ¬ base.Mentions (.object address) := by
    intro hMentions
    have hReferenced := hWraps.isReferenced hHeld (World.isReferenced_iff.mpr (.inr hMentions))
    rw [hFree] at hReferenced
    cases hReferenced
  rcases Nat.lt_or_ge address base.host.cells.size with hOld | hNew
  · rw [hWraps.old address hOld] at hObject
    have hThere : base.host.isLive (.object address) = true := Option.isSome_iff_exists.mpr ⟨object, hObject⟩
    have hReferenced := hWraps.isReferenced hHeld (hSwept address hThere)
    rw [hFree] at hReferenced
    cases hReferenced
  · obtain ⟨handle, hEntry, _⟩ := (hWraps.new address object hNew).mp hObject
    exact ⟨handle, hEntry, hUnmentioned⟩

/-- Fresh handles are not told that they are about to be given up. -/
theorem eval_finalize (hWraps : base.Wraps fresh world) (hEntry : (address, handle) ∈ fresh) (ops : Ops)
    (context : Context) : (Host.finalize ops address).eval context world = (.ok (), world) := by
  have hObject := hWraps.object?_of_mem hEntry
  have hView := Heap.view_of_object? hObject
  apply Host.eval_finalize_builtin
  exact ⟨Option.isSome_iff_exists.mpr ⟨_, hObject⟩, by rw [hView], by rw [hView]⟩

theorem unholdAll (refs : List Ref) (hWraps : base.Wraps fresh world) :
    base.Wraps fresh (world.unholdAll refs) := by
  induction refs generalizing world with
  | nil => exact hWraps
  | cons ref rest ih => exact ih (hWraps.of_held _)

end Wraps

def WrapsWithin (base : World) (fresh : List (Nat × Handle)) (world : World) : Prop :=
  ∃ left ⊆ fresh, base.Wraps left world

namespace WrapsWithin

theorem of_held (hWraps : base.WrapsWithin fresh world) (held : List Ref) :
    base.WrapsWithin fresh { world with held } := by
  obtain ⟨left, hLeft, hWorld⟩ := hWraps
  exact ⟨left, hLeft, hWorld.of_held held⟩

/-- What is abandoned is a fresh handle, and there is one less when it is given up. -/
theorem reclaim (hWraps : base.WrapsWithin fresh world) (hSwept : base.Swept)
    (hHeld : base.held ⊆ world.held) (hAbandoned : Host.isAbandoned address world = true) :
    (world.reclaim address).1 = [] ∧ base.WrapsWithin fresh (world.reclaim address).2 := by
  obtain ⟨left, hLeft, hWorld⟩ := hWraps
  obtain ⟨handle, hEntry, hUnmentioned⟩ := hWorld.exists_of_abandoned hSwept hHeld hAbandoned
  obtain ⟨hNothing, hAfter⟩ := hWorld.reclaim hEntry hUnmentioned
  refine ⟨hNothing, _, ?_, hAfter⟩
  intro entry hThere
  exact hLeft (List.mem_of_mem_erase hThere)

/-- A handle is given up without being told, and gives up nothing else. -/
theorem giveUp (hWraps : base.WrapsWithin fresh world) (hSwept : base.Swept) (hHeld : base.held ⊆ world.held)
    (hAbandoned : Host.isAbandoned address world = true) (ops : Ops) (context : Context) :
    ∃ after, Host.giveUp address ((Host.finalize ops address).eval context world).2 = ([], after) ∧
      base.WrapsWithin fresh after ∧ after.held = world.held := by
  obtain ⟨hNothing, hAfter⟩ := hWraps.reclaim hSwept hHeld hAbandoned
  obtain ⟨left, _, hWorld⟩ := hWraps
  obtain ⟨handle, hEntry, _⟩ := hWorld.exists_of_abandoned hSwept hHeld hAbandoned
  refine ⟨_, ?_, hAfter, held_reclaim address world⟩
  rw [hWorld.eval_finalize hEntry, Host.giveUp, if_pos hAbandoned]
  dsimp only
  rw [hNothing]
  rfl

/-- References are let go of. Nothing but fresh handles is given up. -/
theorem letGo (ops : Ops) (context : Context) (steps : Nat) (hWraps : base.WrapsWithin fresh world)
    (hSwept : base.Swept) (hHeld : world.held.Perm (refs ++ others)) (hKept : base.held ⊆ others) :
    base.WrapsWithin fresh (Host.letGo ops context steps refs world) := by
  fun_induction Host.letGo ops context steps refs world with
  | case1 refs world =>
    obtain ⟨left, hLeft, hWorld⟩ := hWraps
    exact ⟨left, hLeft, hWorld.unholdAll refs⟩
  | case2 steps world => exact hWraps
  | case3 steps value rest world ih => exact ih (hWraps.of_held _) (held_unhold hHeld)
  | case4 steps address rest world middle hAbandoned freed after hGiveUp ih =>
    have hRest : middle.held.Perm (rest ++ others) := held_unhold hHeld
    have hStays : base.held ⊆ middle.held := by
      intro ref hRef
      exact hRest.mem_iff.mpr (List.mem_append_right _ (hKept hRef))
    have hMiddle : base.WrapsWithin fresh middle := hWraps.of_held _
    obtain ⟨next, hGiven, hAfter, hNext⟩ := hMiddle.giveUp hSwept hStays hAbandoned ops context
    rw [hGiven] at hGiveUp
    cases hGiveUp
    exact ih hAfter (hNext.symm ▸ hRest)
  | case5 steps address rest world middle hStays ih => exact ih (hWraps.of_held _) (held_unhold hHeld)

/-- When a reference is let go of nothing is left over, unless it was before. -/
theorem swept_letGo (ops : Ops) (context : Context) (hWraps : base.WrapsWithin fresh world)
    (hSwept : base.Swept) (hHeld : world.held.Perm (ref :: others)) (hKept : base.held ⊆ others)
    (hOthers : ∀ address, world.host.isLive (.object address) = true → ref ≠ .object address →
      world.isReferenced (.object address) = true) :
    (Host.letGo ops context Host.stepLimit [ref] world).Swept := by
  obtain ⟨left, hLeft, hWorld⟩ := hWraps
  have hFlight : world.held.Perm ([ref] ++ others) := hHeld
  obtain ⟨less, hLess, hAfter⟩ : base.WrapsWithin left _ :=
    letGo ops context Host.stepLimit ⟨left, List.Subset.refl _, hWorld⟩ hSwept hFlight hKept
  have hStill := Host.held_letGo ops context Host.stepLimit [ref] world hFlight
  intro address hLive
  by_cases hSame : ref = .object address
  · subst hSame
    obtain ⟨steps, hSteps⟩ := Host.exists_stepLimit
    rw [hSteps] at hLive ⊢
    exact Host.isReferenced_of_letGo ops context steps hLive
  · have hThere := hOthers address (hWorld.isLive_of_subset hAfter hLess hLive) hSame
    refine hAfter.isReferenced_iff.mpr ((hWorld.isReferenced_iff.mp hThere).imp_left fun hRef => ?_)
    rcases List.mem_cons.mp (hHeld.mem_iff.mp hRef) with hFirst | hRest
    · exact absurd hFirst.symm hSame
    · exact hStill.mem_iff.mpr hRest

/-- A reference that is held is given back, and nothing is left over. -/
theorem giveBack {place : Nat} (hWraps : base.WrapsWithin fresh world) (hSwept : base.Swept)
    (hWorld : world.Swept) (hHeld : world.held.Perm (.object place :: others)) (hKept : base.held ⊆ others) :
    base.WrapsWithin fresh (world.letGo (.object place)) ∧ (world.letGo (.object place)).Swept ∧
      (world.letGo (.object place)).held.Perm others := by
  obtain ⟨ops, hRelease⟩ := exists_release
  have hFlight : ((world.unhold (.object place)).holdAll [.object place]).held.Perm
      (.object place :: others) := (held_unhold hHeld).cons _
  have hFirst : base.WrapsWithin fresh ((world.unhold (.object place)).holdAll [.object place]) :=
    hWraps.of_held _
  have hLetGo : world.letGo (.object place) = Host.letGo ops {} Host.stepLimit [.object place]
      ((world.unhold (.object place)).holdAll [.object place]) := hRelease _ _
  rw [hLetGo]
  refine ⟨hFirst.letGo ops {} Host.stepLimit hSwept hFlight hKept, ?_, Host.held_letGo _ _ _ _ _ hFlight⟩
  apply hFirst.swept_letGo ops {} hSwept hFlight hKept
  intro address hLive _
  have hThere : world.held ⊆ ((world.unhold (.object place)).holdAll [.object place]).held :=
    (hHeld.trans hFlight.symm).subset
  exact world.isReferenced_of_held hThere (hWorld address hLive)

theorem sweep (steps : Nat) (hWraps : base.WrapsWithin fresh world) (hSwept : base.Swept)
    (hHeld : base.held ⊆ world.held) : base.WrapsWithin fresh (Host.sweep steps world) := by
  fun_induction Host.sweep steps world with
  | case2 steps world address rest hFirst hAbandoned ih =>
    exact ih (hWraps.reclaim hSwept hHeld hAbandoned).2 ((held_reclaim address world).symm ▸ hHeld)
  | _ => exact hWraps

/-- References in flight are let go of. -/
theorem eval_release (hWraps : base.WrapsWithin fresh world) (hSwept : base.Swept)
    (hHeld : base.held ⊆ world.held) (level : Nat) (context : Context) (refs : List Ref) :
    ∃ after, ((Ops.ofDepth (level + 1)).release refs).eval context world = (.ok (), after) ∧
      base.WrapsWithin fresh after ∧ after.held.Perm world.held := by
  refine ⟨_, rfl, ?_, ?_⟩
  · exact (hWraps.of_held _).letGo _ context Host.stepLimit hSwept (.refl _) hHeld
  · exact Host.held_letGo _ context Host.stepLimit _ _ (.refl _)

/-- So is a reference to one object, after which nothing is left over. -/
theorem eval_release_object {place : Nat} (hWraps : base.WrapsWithin fresh world) (hSwept : base.Swept)
    (hHeld : base.held ⊆ world.held) (hOthers : ∀ address, world.host.isLive (.object address) = true →
      Ref.object place ≠ .object address → world.isReferenced (.object address) = true)
    (level : Nat) (context : Context) :
    ∃ after, ((Ops.ofDepth (level + 1)).release [.object place]).eval context world = (.ok (), after) ∧
      base.WrapsWithin fresh after ∧ after.Swept ∧ after.held.Perm world.held := by
  have hFlight : base.WrapsWithin fresh (world.holdAll [.object place]) := hWraps.of_held _
  refine ⟨_, rfl, ?_, ?_, ?_⟩
  · exact hFlight.letGo _ context Host.stepLimit hSwept (.refl _) hHeld
  · apply hFlight.swept_letGo _ context hSwept (.refl _) hHeld
    intro address hLive hOther
    exact isReferenced_holdAll (hOthers address hLive hOther) [.object place]
  · exact Host.held_letGo _ context Host.stepLimit _ _ (.refl _)

/-- After settling no handles are left but those that something refers to. -/
theorem settle (hWraps : base.WrapsWithin fresh world) (hSwept : base.Swept)
    (hHeld : world.held.Perm base.held) :
    world.settle.held.Perm base.held ∧ ∃ left ⊆ fresh, base.Wraps left world.settle ∧
      ∀ entry ∈ left, base.isReferenced (.object entry.1) = true := by
  have hSettled : world.settle.held.Perm base.held :=
    ((Host.settle Host.ops).balanced {} world).trans hHeld
  obtain ⟨ops, steps, hSettle⟩ := world.exists_settle
  let refs := world.unreferenced.filter Ref.isObject
  have hMiddle : base.WrapsWithin fresh (Host.letGo ops {} Host.stepLimit refs (world.holdAll refs)) :=
    (hWraps.of_held (refs ++ world.held)).letGo ops {} Host.stepLimit hSwept (.refl _) hHeld.symm.subset
  have hKept : base.held ⊆ (Host.letGo ops {} Host.stepLimit refs (world.holdAll refs)).held := by
    intro ref hRef
    have hLater := Host.held_letGo ops {} Host.stepLimit refs (world.holdAll refs) (.refl _)
    exact (hLater.trans hHeld).mem_iff.mpr hRef
  obtain ⟨left, hLeft, hEnd⟩ : base.WrapsWithin fresh world.settle :=
    hSettle ▸ hMiddle.sweep steps hSwept hKept
  refine ⟨hSettled, left, hLeft, hEnd, ?_⟩
  intro entry hEntry
  have hLive : world.settle.host.isLive (.object entry.1) = true :=
    Option.isSome_iff_exists.mpr ⟨_, hEnd.object?_of_mem hEntry⟩
  have hReferenced := world.swept_settle entry.1 hLive
  rw [isReferenced_iff, hEnd.mentions_iff, hSettled.mem_iff] at hReferenced
  exact isReferenced_iff.mpr hReferenced

end WrapsWithin

/-- An object comes to its end, which is not noticed, and all fresh handles do that nothing else refers to. -/
theorem Wraps.settle_release {rest : World} {object : Object} (hObject : world.host.object? address = some object)
    (hBody : object.body.isHandle = false) (hQuiet : object.finalized = true ∨
      world.host.scripted? (.object address) "__del__" = none)
    (hFree : world.isReferenced (.object address) = false)
    (hRest : rest.Wraps fresh { world with host := world.host.free address }) (hSwept : rest.Swept)
    (hHeld : world.held.Perm rest.held) :
    ∃ left ⊆ fresh, rest.Wraps left (world.release [.object address]).settle ∧
      ∀ entry ∈ left, rest.isReferenced (.object entry.1) = true := by
  obtain ⟨ops, hRelease⟩ := exists_release
  obtain ⟨steps, hSteps⟩ := Host.exists_stepLimit
  have hView := Heap.view_of_object? hObject
  have hAbandoned : Host.isAbandoned address world = true := by
    rw [Host.isAbandoned, hFree, Heap.isLive, hObject]
    rfl
  let freed := object.references.filter Ref.isObject
  let after := ({ world with host := world.host.free address } : World).holdAll freed
  have hGiveUp : Host.giveUp address ((Host.finalize ops address).eval {} world).2 = (freed, after) := by
    rw [Host.eval_finalize_quiet (hView.symm ▸ hQuiet), Host.giveUp, if_pos hAbandoned,
      Host.World.reclaim_of_not_isHandle (by rw [Heap.body, hView]; exact hBody), hView]
  have hLetGo : world.release [.object address] = Host.letGo ops {} steps (freed ++ []) after := by
    have hBack : (world.holdAll [.object address]).unhold (.object address) = world :=
      unholdAll_holdAll [.object address] world
    have hObjects : [Ref.object address].filter Ref.isObject = [.object address] := rfl
    rw [hRelease, hObjects, hSteps, Host.letGo]
    dsimp only
    rw [hBack, if_pos hAbandoned, hGiveUp]
  have hFlight : after.held.Perm (freed ++ [] ++ rest.held) := by
    rw [List.append_nil]
    exact hHeld.append_left freed
  have hWithin : rest.WrapsWithin fresh after := ⟨fresh, List.Subset.refl _, hRest.of_held _⟩
  rw [hLetGo]
  exact ((hWithin.letGo ops {} steps hSwept hFlight (List.Subset.refl _)).settle hSwept
    (Host.held_letGo _ _ _ _ _ hFlight)).2

end World

end HeapBridge
