import HeapBridge.Proofs.Handles.Atomicity
import HeapBridge.Proofs.Members.Copying
/-!
Quiet host code. An operation is quiet if it leaves every object, and every reference to one, as it was, whatever
it comes to, and if telling its fault does so, too. Looking for something in a set is quiet if hashing it is and
comparing elements with it is; adding and taking out are until they succeed.
-/
namespace HeapBridge

open Host (Body Context Fault Heap HostM Object Ops Probe Ref SetTable nestingLimit)

variable {base world before middle after later : World} {ref set key : Ref} {refs : List Ref} {table : SetTable}
  {context : Context} {α β : Type} {free : Prop} {fault : Fault} {hash : Int} {body : Body}

namespace World

/-- A world stays whole as live objects are held. -/
theorem IsWhole.holdAll (hWhole : world.IsWhole) (hRefs : ∀ ref ∈ refs, world.host.isLive ref = true) :
    (world.holdAll refs).IsWhole := by
  intro ref hReferenced
  rcases World.isReferenced_iff.mp hReferenced with hHeld | hMentions
  · rcases List.mem_append.mp hHeld with hNew | hOld
    · exact hRefs ref hNew
    · exact hWhole ref (World.isReferenced_iff.mpr (.inl hOld))
  · exact hWhole ref (World.isReferenced_iff.mpr (.inr (World.mentions_held.mp hMentions)))

/-- A new object whose references are live leaves the heap whole. -/
theorem IsWhole.allocate (hWhole : world.IsWhole) (hRefs : ∀ ref ∈ body.references, world.host.isLive ref = true) :
    IsWhole { world with host := (world.host.allocate { body }).2 } := by
  intro ref hReferenced
  apply (world.extends_allocate body).remains
  rcases World.isReferenced_iff.mp hReferenced with hHeld | hMentions
  · exact hWhole ref (World.isReferenced_iff.mpr (.inl hHeld))
  · rcases hMentions.cases rfl with hBefore | ⟨address, object, hObject, hRef⟩
    · exact hWhole ref (World.isReferenced_iff.mpr (.inr hBefore))
    · rw [Heap.object?_allocate] at hObject
      split at hObject
      · cases hObject
        exact hRefs ref hRef
      · exact hWhole ref (World.isReferenced_iff.mpr (.inr (.object hObject hRef)))

/-- Whether there is but more in a world, and nothing in it refers to what is gone. -/
structure Enlarges (base later : World) : Prop where
  more : base.Extends later
  whole : later.IsWhole

namespace Enlarges

theorem undisturbed (hLater : base.Enlarges later) (hCalm : later.Undisturbed after) : base.Enlarges after :=
  ⟨hLater.more.trans hCalm.grows.extends, hLater.whole.undisturbed hCalm⟩

theorem holdAll (hLater : base.Enlarges later) (hRefs : ∀ ref ∈ refs, later.host.isLive ref = true) :
    base.Enlarges (later.holdAll refs) :=
  ⟨hLater.more.trans (later.extends_holdAll refs), hLater.whole.holdAll hRefs⟩

theorem allocate (hLater : base.Enlarges later) (hRefs : ∀ ref ∈ body.references, later.host.isLive ref = true) :
    base.Enlarges { later with host := (later.host.allocate { body }).2 } :=
  ⟨hLater.more.trans (later.extends_allocate body), hLater.whole.allocate hRefs⟩

/-- Something is made and held. -/
theorem made (hLater : base.Enlarges later) (hRefs : ∀ ref ∈ body.references, later.host.isLive ref = true) :
    base.Enlarges (World.holdAll [.object later.host.cells.size]
      { later with host := (later.host.allocate { body }).2 }) := by
  refine (hLater.allocate hRefs).holdAll fun ref hRef => ?_
  rw [List.mem_singleton.mp hRef]
  exact Option.isSome_iff_exists.mpr ⟨_, Heap.object?_allocate_self later.host { body }⟩

end Enlarges

end World

namespace Host

/-- Whether what is run for the report of a fault changes nothing, wherever there is but more. -/
def Fault.TellsQuietly (base : World) (fault : Fault) : Prop :=
  ∀ later, base.Enlarges later → later.Undisturbed (fault.reported later)

/-- Only a key that was looked up in vain is asked to show itself. -/
theorem Fault.tellsQuietly (hCause : ∀ key, fault.cause ≠ .missingKey key) : fault.TellsQuietly base := by
  intro later _
  rw [fault.reported_of_ne_missingKey hCause]
  exact .refl later

/-- Whether an operation that has ended so has changed nothing since some world, nor has its report. One that may
change things if it succeeds is free. -/
def Spared (base before : World) (free : Prop) : Except Fault α × World → Prop
  | (.ok _, after) => free ∨ before.Undisturbed after
  | (.error fault, after) => before.Undisturbed after ∧ fault.TellsQuietly base

theorem Spared.trans {outcome : Except Fault α × World} (hCalm : before.Undisturbed middle)
    (hSpared : Spared base middle free outcome) : Spared base before free outcome := by
  obtain ⟨fault | value, after⟩ := outcome
  · exact ⟨hCalm.trans hSpared.1, hSpared.2⟩
  · exact hSpared.imp_right hCalm.trans

theorem Spared.given {result : Except Fault α} (hSpared : Spared base (before.holdAll refs) free (result, after)) :
    Spared base before free (result, after.unholdAll refs) := by
  cases result with
  | error fault => exact ⟨hSpared.1.unholdAll, hSpared.2⟩
  | ok value => exact hSpared.imp_right World.Undisturbed.unholdAll

namespace HostM

variable {action : HostM α} {next : α → HostM β} {value : α}

/-- Whether an operation changes nothing, and its report does not either, unless it is free to. -/
def Spares (base : World) (free : Prop) (action : HostM α) (context : Context) (world : World) : Prop :=
  Spared base world free (action.eval context world)

namespace Spares

theorem pure : (Pure.pure value : HostM α).Spares base free context world := .inr (.refl world)

theorem throw (hTells : fault.TellsQuietly base) :
    (MonadExcept.throw fault : HostM α).Spares base free context world := ⟨.refl world, hTells⟩

theorem of_ok (hEval : action.eval context world = (.ok value, after)) : action.Spares base True context world := by
  rw [Spares, hEval]
  exact .inl trivial

/-- What an operation answers makes no difference. -/
theorem discarded (hAction : action.Spares base free context world) :
    (Functor.discard action).Spares base free context world := by
  change Spared base world free (((fun _ => ()) <$> action).eval context world)
  rw [eval_map]
  rw [Spares] at hAction
  rcases hEval : action.eval context world with ⟨fault | value, after⟩ <;> rw [hEval] at hAction <;> exact hAction

/-- What comes first is not free, what comes then may be. -/
theorem bind (hAction : action.Spares base False context world)
    (hNext : ∀ value after, action.eval context world = (.ok value, after) → world.Undisturbed after →
      (next value).Spares base free context after) : (action >>= next).Spares base free context world := by
  rw [Spares, eval_bind]
  rw [Spares] at hAction
  rcases hEval : action.eval context world with ⟨fault | value, after⟩ <;> rw [hEval] at hAction
  · exact hAction
  · have hCalm := hAction.resolve_left id
    exact (hNext value after hEval hCalm).trans hCalm

theorem heap {next : Heap → HostM β} (hNext : (next world.host).Spares base free context world) :
    (Host.heap >>= next).Spares base free context world := hNext

theorem holdingAll (hAction : action.Spares base free context (world.holdAll refs)) :
    (Host.holdingAll refs action).Spares base free context world := by
  change Spared base world free
    ((action.eval context (world.holdAll refs)).1, (action.eval context (world.holdAll refs)).2.unholdAll refs)
  exact Spared.given hAction

/-- What is held meanwhile is let go of again. -/
theorem holding (hAction : action.Spares base free context (world.holdAll (refs.filter Ref.isObject))) :
    (Host.holding refs action).Spares base free context world := by
  unfold Host.holding
  dsimp only
  split
  next hNone =>
    rw [List.isEmpty_iff.mp hNone] at hAction
    exact hAction
  next => exact hAction.holdingAll

/-- Something is referred to meanwhile, and let go of afterwards, which undoes what was done before. -/
theorem keeping_of_release (hAction : action.Spares base free context (world.holdAll (refs.filter Ref.isObject)))
    (hRelease : ∀ middle, world.Undisturbed middle → ∃ after,
      (Host.ops.release (refs.filter Ref.isObject)).eval context middle = (.ok (), after) ∧ before.Undisturbed after)
    (hNone : refs.filter Ref.isObject = [] → before.Undisturbed world) :
    Spared base before free ((Host.keeping Host.ops refs action).eval context world) := by
  unfold Host.keeping
  dsimp only
  split
  next hEmpty =>
    have hNothing := List.isEmpty_iff.mp hEmpty
    rw [hNothing] at hAction
    exact Spared.trans (hNone hNothing) hAction
  next =>
    have hHeld := hAction.holdingAll
    rw [Spares] at hHeld
    rw [eval_bind, eval_attempt]
    rcases hEval : (Host.holdingAll (refs.filter Ref.isObject) action).eval context world with
      ⟨fault | value, middle⟩ <;> rw [hEval] at hHeld <;> dsimp only <;> rw [eval_bind]
    · obtain ⟨after, hAfter, hCalm⟩ := hRelease middle hHeld.1
      rw [hAfter]
      exact ⟨hCalm, hHeld.2⟩
    · rcases hHeld with hFree | hHeld
      · obtain ⟨after, hAfter⟩ := exists_eval_release (refs.filter Ref.isObject) context middle
        rw [hAfter]
        exact .inl hFree
      · obtain ⟨after, hAfter, hCalm⟩ := hRelease middle hHeld
        rw [hAfter]
        exact .inr hCalm

theorem keeping (hReferenced : ∀ ref ∈ refs, world.isReferenced ref = true)
    (hAction : action.Spares base free context (world.holdAll (refs.filter Ref.isObject))) :
    (Host.keeping Host.ops refs action).Spares base free context world := by
  refine keeping_of_release hAction (fun middle hCalm => ⟨middle, ?_, hCalm⟩) fun _ => .refl world
  apply eval_release_referenced
  intro ref hRef _
  exact hCalm.isReferenced_iff.mpr (hReferenced ref (List.mem_filter.mp hRef).1)

end Spares

end HostM

/-- An element that something refers to is compared with an object. -/
theorem spares_matching (hLater : base.Enlarges world) (hReferenced : world.isReferenced ref = true)
    (hKey : world.host.isLive key = true)
    (hEqual : ∀ later, base.Enlarges later → later.host = world.host →
      (equal Host.ops ref key).Spares base False context later) :
    (matching Host.ops ref key).Spares base False context world := by
  have hSame (later : World) (hAfter : base.Enlarges later) (hHost : later.host = world.host) :
      (same Host.ops ref key).Spares base False context later := by
    unfold same
    split
    · exact .pure
    · exact hEqual later hAfter hHost
  have hOnly {other single : Ref} (hOther : other ∈ [single].filter Ref.isObject) : other = single :=
    List.mem_singleton.mp (List.mem_filter.mp hOther).1
  apply HostM.Spares.heap
  split
  · exact hSame world hLater rfl
  · apply HostM.Spares.keeping
    · intro other hOther
      rw [List.mem_singleton.mp hOther]
      exact hReferenced
    · apply HostM.Spares.holding
      refine hSame _ ((hLater.holdAll fun other hOther => ?_).holdAll fun other hOther => ?_) rfl
      · rw [hOnly hOther]
        exact hLater.whole ref hReferenced
      · rw [hOnly hOther]
        exact hKey

namespace SetObject

/-- Whether an object can be looked for in a set without a change. -/
structure Sought (base world : World) (table : SetTable) (key : Ref) (context : Context) : Prop where
  hash : (Host.ops.hash key).Spares base False context world
  matching : ∀ ref ∈ table.toList, ∀ after, world.Undisturbed after →
    (matching Host.ops ref key).Spares base False context after

/-- What is told of the table makes no difference. -/
theorem spares_table {next : SetTable → HostM β} (hTable : (world.host.body set).elements? = some table)
    (hNext : (next table).Spares base free context world) :
    (SetObject.table set >>= next).Spares base free context world := by
  rw [HostM.Spares, HostM.eval_bind, eval_table_getD, hTable]
  exact hNext

/-- A search spares everything if its comparisons do, at each slot that it comes to. -/
theorem spares_locateAlong (hTable : (world.host.body set).elements? = some table)
    (hMatch : ∀ ref ∈ table.toList, ∀ after, world.Undisturbed after →
      (matching Host.ops ref key).Spares base False context after)
    (adding : Bool) {again : SetTable → HostM Place}
    (hAgain : ∀ after, world.Undisturbed after → (again table).Spares base False context after)
    (steps : Nat) (probe : Probe) (reusable : Option Nat) :
    (locateAlong Host.ops set key hash adding again steps probe reusable).Spares base False context world := by
  induction steps generalizing world probe reusable with
  | zero => exact .pure
  | succ steps ih =>
    rw [locateAlong]
    apply spares_table hTable
    cases hSeek : table.seek hash probe reusable with
    | free index reusable => exact .pure
    | candidate index ref rest reusable =>
      have hRef := List.mem_map_of_mem (f := Prod.snd) (SetTable.mem_entries_of_slot (SetTable.slot_of_seek hSeek))
      dsimp only
      split
      next => exact .pure
      next =>
        refine (hMatch ref hRef world (.refl world)).bind fun isEqual after _ hCalm => ?_
        have hSame : (after.host.body set).elements? = some table := by
          rw [hCalm.body_eq]
          exact hTable
        have hLater : ∀ other ∈ table.toList, ∀ last, after.Undisturbed last →
            (Host.matching Host.ops other key).Spares base False context last :=
          fun other hOther last hLast => hMatch other hOther last (hCalm.trans hLast)
        apply spares_table hSame
        split
        · exact .pure
        · split
          · exact ih hSame hLater (fun last hLast => hAgain last (hCalm.trans hLast)) _ _
          · exact hAgain after hCalm

/-- The same for a search that starts anew as often as comparisons make it. -/
theorem spares_locateFrom (hTable : (world.host.body set).elements? = some table)
    (hMatch : ∀ ref ∈ table.toList, ∀ after, world.Undisturbed after →
      (matching Host.ops ref key).Spares base False context after) (adding : Bool) (steps : Nat) :
    (locateFrom Host.ops set key hash adding steps table).Spares base False context world := by
  induction steps generalizing world with
  | zero => exact .throw (Fault.tellsQuietly fun _ => nofun)
  | succ steps ih =>
    rw [locateFrom]
    refine spares_locateAlong hTable hMatch adding (fun after hCalm => ih ?_ fun ref hRef last hLast => ?_) _ _ _
    · rw [hCalm.body_eq]
      exact hTable
    · exact hMatch ref hRef last (hCalm.trans hLast)

variable (hTable : (world.host.body set).elements? = some table)

include hTable

theorem spares_locate (hMatch : ∀ ref ∈ table.toList, ∀ after, world.Undisturbed after →
      (matching Host.ops ref key).Spares base False context after) (adding : Bool) :
    (locate Host.ops set key hash adding).Spares base False context world := by
  rw [locate]
  apply spares_table hTable
  exact spares_locateFrom hTable hMatch adding _

/-- Something is done with the place that looking for an object comes to. -/
theorem Sought.spares {use : Int → Place → HostM α} (hSought : Sought base world table key context) (adding : Bool)
    (hUse : ∀ hash place after, (use hash place).Spares base free context after) :
    (do
      let hash ← Host.ops.hash key
      use hash (← locate Host.ops set key hash adding)).Spares base free context world := by
  refine hSought.hash.bind fun hash middle _ hCalm => ?_
  have hSame : (middle.host.body set).elements? = some table := by
    rw [hCalm.body_eq]
    exact hTable
  have hMatch : ∀ ref ∈ table.toList, ∀ after, middle.Undisturbed after →
      (Host.matching Host.ops ref key).Spares base False context after :=
    fun ref hRef after hAfter => hSought.matching ref hRef after (hCalm.trans hAfter)
  exact (spares_locate hSame hMatch adding).bind fun place after _ _ => hUse hash place after

theorem Sought.spares_contains (hSought : Sought base world table key context) :
    (do containsHashed Host.ops set key (← Host.ops.hash key)).Spares base False context world :=
  hSought.spares hTable false fun _ place _ => by cases place <;> exact .pure

/-- Once a place is found nothing fails any more. -/
theorem Sought.spares_add (hSought : Sought base world table key context) :
    (SetObject.add Host.ops set key).Spares base True context world := by
  refine hSought.spares hTable true fun hash place after => ?_
  cases place with
  | stored index => exact .pure
  | free index reusable => exact .of_ok (exists_eval_setTable set _ context after).choose_spec

theorem Sought.spares_discard (hSought : Sought base world table key context) :
    (do discardHashed Host.ops set key (← Host.ops.hash key)).Spares base True context world := by
  refine hSought.spares hTable false fun _ place after => ?_
  cases place with
  | stored index => exact .of_ok (exists_eval_takeAt set index context after).choose_spec
  | free index reusable => exact .pure

omit hTable

/-- What is done with a frozen copy of a set without a hash is undone afterwards. -/
theorem spares_keyed {operation : Ref → HostM α} (hWhole : world.IsWhole)
    (hSelf : (operation key).Spares base free context world)
    (hFrozen : ∀ elements after, world.host.body key = .set elements → world.Undisturbed after →
      (operation (.object after.host.cells.size)).Spares base free context
        (World.holdAll [.object after.host.cells.size]
          { after with host := (after.host.allocate { body := .frozenset elements.copied }).2 })) :
    (keyed Host.ops key operation).Spares base free context world := by
  rw [HostM.Spares] at hSelf
  rw [HostM.Spares, eval_keyed]
  rcases hEval : (operation key).eval context world with ⟨fault | value, after⟩ <;> rw [hEval] at hSelf
  · dsimp only
    split
    next elements hBody =>
      split
      next =>
        have hCalm := hSelf.1
        have hBefore : world.host.body key = .set elements := (hCalm.body_eq key).symm.trans hBody
        refine Spared.trans hCalm ((hFrozen elements after hBefore hCalm).keeping_of_release ?_ nofun)
        intro middle hMiddle
        refine (hWhole.undisturbed hCalm).eval_release_made rfl (fun ref hRef => ?_) hMiddle
        have hElement : ref ∈ elements.toList := (SetTable.toList_copied elements).subset hRef
        exact World.isReferenced_of_refersTo
          (refersTo_of_element (Heap.isLive_of_body hBody) (congrArg Body.elements? hBody) hElement)
      next => exact hSelf
    next => exact hSelf
  · exact hSelf

end SetObject

end Host

end HeapBridge
