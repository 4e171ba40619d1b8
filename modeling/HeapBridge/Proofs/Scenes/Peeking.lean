import HeapBridge.Proofs.Keys.Comparing
import HeapBridge.Proofs.Scenes.Following
import HeapBridge.Proofs.Sets.Calls
/-!
Looking at objects. To hash an object or to compare an element with it, wherever a scene is followed, comes to
what the scene says, and nothing becomes of any object in between. What is made to be looked for instead of a
set that has no hash is gone afterwards.
-/
namespace HeapBridge

open Host (Body Context Fault Heap HostM Object Ops Ref SetTable)

variable {scene : Scene} {world before after : World} {ref set key : Ref} {refs : List Ref} {table : SetTable}
  {context : Context} {α β : Type} {body : Body}

namespace Host

/-- References in flight to what is referred to elsewhere are let go of, and that is all. -/
theorem eval_release_referenced (hReferenced : ∀ ref ∈ refs, ref.isObject = true → world.isReferenced ref = true) :
    (Host.ops.release refs).eval context world = (.ok (), world) := by
  obtain ⟨level, hOps⟩ := exists_ops
  rw [hOps]
  change ((.ok () : Except Fault Unit), letGo _ _ _ _ _) = _
  rw [letGo_referenced]
  exact fun ref hRef hObject => hReferenced ref (List.mem_filter.mp hRef).1 hObject

/-- An object of a built-in type that nothing refers to goes alone if what it refers to is referred to
elsewhere. -/
theorem eval_release_abandoned {address : Nat} (hAbandoned : isAbandoned address world = true)
    (hView : world.host.view (.object address) = { body }) (hHandle : body.isHandle = false)
    (hRefs : ∀ ref ∈ body.references,
      World.isReferenced { world with host := world.host.free address } ref = true) :
    (Host.ops.release [.object address]).eval context world =
      (.ok (), { world with host := world.host.free address }) := by
  obtain ⟨level, hOps⟩ := exists_ops
  obtain ⟨steps, hSteps⟩ := exists_stepLimit
  rw [hOps]
  change ((.ok () : Except Fault Unit), letGo (.ofDepth level) context stepLimit [.object address]
    (world.holdAll [.object address])) = _
  have hFirst : (world.holdAll [.object address]).unhold (.object address) = world := by
    simp only [World.unhold, World.holdAll, List.cons_append, List.nil_append, List.erase_cons_head]
  have hQuiet : (finalize (Ops.ofDepth level) address).eval context world = (.ok (), world) := by
    apply eval_finalize_quiet
    rw [Heap.scripted?, Heap.script?, hView]
    exact .inr rfl
  have hBody : (world.host.body (.object address)).isHandle = false := by
    rw [Heap.body, hView]
    exact hHandle
  have hReclaim := World.reclaim_of_not_isHandle hBody
  rw [hView] at hReclaim
  rw [hSteps, letGo, hFirst, if_pos hAbandoned, hQuiet, giveUp, if_pos hAbandoned, hReclaim]
  dsimp only
  rw [List.append_nil, letGo_referenced]
  exact fun ref hRef _ => hRefs ref (List.mem_filter.mp hRef).1

/-- What is done with a set that has no hash is done with a frozen copy. -/
theorem SetObject.eval_keyed (operation : Ref → HostM α) (key : Ref) (context : Context) (world : World) :
    (SetObject.keyed Host.ops key operation).eval context world =
      match (operation key).eval context world with
      | (.ok value, after) => (.ok value, after)
      | (.error fault, after) =>
        match after.host.body key with
        | .set elements =>
          if fault.exception = "TypeError" then
            (keeping Host.ops [.object after.host.cells.size] (operation (.object after.host.cells.size))).eval
              context { after with host := (after.host.allocate { body := .frozenset elements.copied }).2 }
          else (.error fault, after)
        | _ => (.error fault, after) := by
  change (match (operation key).eval context world with
    | (Except.ok value, world) => (Except.ok value, world)
    | (Except.error fault, world) => HostM.eval _ context world) = _
  rcases (operation key).eval context world with ⟨fault | value, after⟩
  · dsimp only
    rw [HostM.eval_bind, HostM.eval_bodyOf]
    dsimp only
    cases after.host.body key with
    | set elements =>
      dsimp only
      split <;> rfl
    | _ => rfl
  · rfl

/-- Only a set that cannot be hashed is given a second try. -/
theorem SetObject.eval_keyed_other {operation : Ref → HostM α} {fault : Fault}
    (hEval : (operation key).eval context world = (.error fault, after))
    (hOther : ∀ elements, after.host.body key = .set elements → fault.exception ≠ "TypeError") :
    (SetObject.keyed Host.ops key operation).eval context world = (.error fault, after) := by
  rw [SetObject.eval_keyed, hEval]
  dsimp only
  split
  next elements hBody => rw [if_neg (hOther elements hBody)]
  next => rfl

namespace HostM

variable {action other : HostM α} {next : α → HostM β} {value : α} {fault : Fault} {result : Except Fault α}
  {later : Except Fault β}

/-- Whether an operation comes to a result and nothing becomes of any object. -/
def Peeks (action : HostM α) (context : Context) (world : World) (result : Except Fault α) : Prop :=
  ∃ after, action.eval context world = (result, after) ∧ world.Undisturbed after

namespace Peeks

theorem pure : (Pure.pure value : HostM α).Peeks context world (.ok value) := ⟨world, rfl, .refl world⟩

theorem bind (hAction : action.Peeks context world (.ok value))
    (hNext : ∀ after, world.Undisturbed after → (next value).Peeks context after later) :
    (action >>= next).Peeks context world later := by
  obtain ⟨middle, hEval, hCalm⟩ := hAction
  obtain ⟨after, hLater, hAfter⟩ := hNext middle hCalm
  refine ⟨after, ?_, hCalm.trans hAfter⟩
  rw [eval_bind, hEval]
  exact hLater

theorem bind_error (hAction : action.Peeks context world (.error fault)) :
    (action >>= next).Peeks context world (.error fault) := by
  obtain ⟨after, hEval, hCalm⟩ := hAction
  refine ⟨after, ?_, hCalm⟩
  rw [eval_bind, hEval]

/-- What is looked at before makes no difference. -/
theorem heap {next : Heap → HostM β} (hNext : (next world.host).Peeks context world later) :
    (Host.heap >>= next).Peeks context world later := hNext

theorem holdingAll (hAction : action.Peeks context (world.holdAll refs) result) :
    (Host.holdingAll refs action).Peeks context world result := by
  obtain ⟨after, hEval, hCalm⟩ := hAction
  refine ⟨after.unholdAll refs, ?_, hCalm.unholdAll⟩
  change ((action.eval context (world.holdAll refs)).1, (action.eval context (world.holdAll refs)).2.unholdAll refs) = _
  rw [hEval]

/-- Holding references changes what is referred to, and nothing that can be looked at. -/
theorem holding (hAction : action.Peeks context (world.holdAll (refs.filter Ref.isObject)) result) :
    (Host.holding refs action).Peeks context world result := by
  unfold Host.holding
  dsimp only
  split
  next hNone =>
    rw [List.isEmpty_iff.mp hNone] at hAction
    exact hAction
  next => exact hAction.holdingAll

/-- Something is referred to meanwhile, and let go of afterwards. -/
theorem keeping_of_release (hAction : action.Peeks context (world.holdAll (refs.filter Ref.isObject)) result)
    (hRelease : ∀ middle, world.Undisturbed middle → ∃ after,
      (Host.ops.release (refs.filter Ref.isObject)).eval context middle = (.ok (), after) ∧ before.Undisturbed after)
    (hNone : refs.filter Ref.isObject = [] → before.Undisturbed world) :
    ∃ after, (Host.keeping Host.ops refs action).eval context world = (result, after) ∧
      before.Undisturbed after := by
  unfold Host.keeping
  dsimp only
  split
  next hEmpty =>
    have hNothing := List.isEmpty_iff.mp hEmpty
    rw [hNothing] at hAction
    obtain ⟨after, hEval, hCalm⟩ := hAction
    exact ⟨after, hEval, (hNone hNothing).trans hCalm⟩
  next =>
    obtain ⟨middle, hEval, hCalm⟩ := hAction.holdingAll
    obtain ⟨after, hAfter, hLater⟩ := hRelease middle hCalm
    refine ⟨after, ?_, hLater⟩
    rw [eval_bind, eval_attempt, hEval]
    dsimp only
    rw [eval_bind, hAfter]
    cases result <;> rfl

theorem keeping (hReferenced : ∀ ref ∈ refs, world.isReferenced ref = true)
    (hAction : action.Peeks context (world.holdAll (refs.filter Ref.isObject)) result) :
    (Host.keeping Host.ops refs action).Peeks context world result := by
  refine keeping_of_release hAction (fun middle hCalm => ⟨middle, ?_, hCalm⟩) fun _ => .refl world
  apply eval_release_referenced
  intro ref hRef _
  exact hCalm.isReferenced_iff.mpr (hReferenced ref (List.mem_filter.mp hRef).1)

end Peeks

end HostM

end Host

namespace World

/-- An object that was just made, and that only what looks for something refers to, is gone afterwards. -/
theorem IsWhole.eval_release_made (hWhole : world.IsWhole)
    (hHandle : body.isHandle = false) (hRefs : ∀ ref ∈ body.references, world.isReferenced ref = true)
    (hCalm : World.Undisturbed { world with host := (world.host.allocate { body }).2 } after) :
    ∃ last, (Host.ops.release [.object world.host.cells.size]).eval context after = (.ok (), last) ∧
      world.Undisturbed last := by
  have hFresh : after.host.object? world.host.cells.size = some { body } :=
    (hCalm.object _).trans (Heap.object?_allocate_self world.host { body })
  have hView : after.host.view (.object world.host.cells.size) = { body } := Heap.view_of_object? hFresh
  have hFree := hWhole.isReferenced_size
  have hAbandoned : Host.isAbandoned world.host.cells.size after = true := by
    have hLive : after.host.isLive (.object world.host.cells.size) = true :=
      Option.isSome_iff_exists.mpr ⟨_, hFresh⟩
    rw [Host.isAbandoned, hLive, Bool.true_and, Bool.not_eq_true', ← Bool.not_eq_true, hCalm.isReferenced_iff,
      World.isReferenced_iff]
    rintro (hHeld | hMentions)
    · exact hFree (World.isReferenced_iff.mpr (.inl hHeld))
    · have hCases : world.Mentions (.object world.host.cells.size) ∨ ∃ address object,
          (world.host.allocate { body }).2.object? address = some object ∧
            .object world.host.cells.size ∈ object.references := World.Mentions.cases rfl hMentions
      rcases hCases with hBefore | ⟨address, object, hObject, hRef⟩
      · exact hFree (World.isReferenced_iff.mpr (.inr hBefore))
      · rw [Heap.object?_allocate] at hObject
        split at hObject
        · cases hObject
          exact hFree (hRefs _ hRef)
        · exact hFree (World.isReferenced_iff.mpr (.inr (.object hObject hRef)))
  have hFreed : World.Undisturbed world { after with host := after.host.free world.host.cells.size } := by
    refine ⟨?_, ?_, fun address => ?_⟩
    · conv_lhs => rw [hCalm.aside]
      rfl
    · have hMade : world.host.cells.size ≤ after.host.cells.size :=
        (Nat.le_succ _).trans ((Array.size_push _).ge.trans hCalm.size)
      exact hMade.trans (Array.size_setIfInBounds ..).ge
    · by_cases hSame : world.host.cells.size = address
      · subst hSame
        have hNone : world.host.object? world.host.cells.size = none := by
          cases hObject : world.host.object? world.host.cells.size with
          | none => rfl
          | some object => exact absurd (Heap.lt_size_of_object? hObject) (Nat.lt_irrefl _)
        rw [hNone]
        exact Heap.object?_free_self _ _
      · have hOther : address ≠ world.host.cells.size := fun hEqual => hSame hEqual.symm
        have hBefore := hCalm.object address
        rw [Heap.object?_allocate, if_neg hOther] at hBefore
        rw [← hBefore]
        exact Heap.object?_free_of_ne hSame
  refine ⟨_, Host.eval_release_abandoned hAbandoned hView hHandle fun ref hRef => ?_, hFreed⟩
  exact hFreed.isReferenced_iff.mpr (hRefs ref hRef)

end World

namespace Scene

namespace Follows

/-- A frozen copy is made for a search, and gone afterwards. -/
theorem peeks_frozen (hFollows : scene.Follows world) {elements : SetTable} (hBody : world.host.body key = .set elements)
    {action : HostM α} {result : Except Fault α}
    (hAction : action.Peeks context (World.holdAll [.object world.host.cells.size]
      { world with host := (world.host.allocate { body := .frozenset elements.copied }).2 }) result) :
    ∃ after, (Host.keeping Host.ops [.object world.host.cells.size] action).eval context
        { world with host := (world.host.allocate { body := .frozenset elements.copied }).2 } = (result, after) ∧
      world.Undisturbed after := by
  refine HostM.Peeks.keeping_of_release hAction (fun middle hCalm => ?_) fun hNone => ?_
  · refine World.IsWhole.eval_release_made hFollows.whole rfl (fun ref hRef => ?_) hCalm
    have hElement : ref ∈ elements.toList := (SetTable.toList_copied elements).subset hRef
    exact (hFollows.isLive_element (Heap.isLive_of_body hBody) hBody hElement).1
  · cases hNone

/-- An object other than the sets has the body by which it is known. -/
theorem body_eq (hFollows : scene.Follows world) (hLive : world.host.isLive ref = true)
    (hOther : ∀ set ∈ scene.sets, scene.origin world ref ≠ .known set) :
    world.host.body ref = scene.bodyOf (scene.origin world ref) := by
  cases ref with
  | atom value => rfl
  | object address =>
    rcases Nat.lt_or_ge address scene.start.host.cells.size with hOld | hNew
    · rw [origin_of_old hOld] at hOther ⊢
      have hNone : .object address ∉ scene.sets := fun hThere => hOther _ hThere rfl
      have hBefore := hFollows.leaves.isLive hOld hNone hLive
      rw [bodyOf, Heap.body, Heap.body, hFollows.leaves.view_eq hNone hBefore hLive]
    · rw [origin_of_new hNew]
      rfl

/-- What a container refers to is compared with an object, and is the same if it is that object. -/
theorem peeks_matching_of (hFollows : scene.Follows world) (hReferenced : world.isReferenced ref = true)
    (hKey : world.host.isLive key = true) {answer : Except Fault Bool}
    (hEqual : ∀ after, scene.Follows after → after.host = world.host →
      (Host.equal Host.ops ref key).Peeks context after answer) :
    (Host.matching Host.ops ref key).Peeks context world (if ref = key then .ok true else answer) := by
  have hSame (after : World) (hAfter : scene.Follows after) (hHost : after.host = world.host) :
      (Host.same Host.ops ref key).Peeks context after (if ref = key then .ok true else answer) := by
    unfold Host.same
    split
    · exact .pure
    · exact hEqual after hAfter hHost
  have hRef := hFollows.whole ref hReferenced
  apply HostM.Peeks.heap
  split
  · exact hSame world hFollows rfl
  · apply HostM.Peeks.keeping
    · intro other hOther
      rw [List.mem_singleton.mp hOther]
      exact hReferenced
    · apply HostM.Peeks.holding
      have hHeld : scene.Follows (world.holdAll ([ref].filter Ref.isObject)) := by
        apply hFollows.holdAll
        intro other hOther
        rw [List.mem_singleton.mp (List.mem_filter.mp hOther).1]
        exact hRef
      have hBoth : scene.Follows ((world.holdAll ([ref].filter Ref.isObject)).holdAll ([key].filter Ref.isObject)) := by
        apply hHeld.holdAll
        intro other hOther
        rw [List.mem_singleton.mp (List.mem_filter.mp hOther).1]
        exact hKey
      exact hSame _ hBoth rfl

/-- An element that a set refers to is compared with an object. -/
theorem peeks_matching (hFollows : scene.Follows world) (hGoverns : scene.Governs)
    (hReferenced : world.isReferenced ref = true) (hKey : world.host.isLive key = true)
    (hRefItem : scene.conduct.items (scene.origin world ref)) (hKeyItem : scene.conduct.items (scene.origin world key))
    (hNesting : context.nesting ≤ 1) :
    (Host.matching Host.ops ref key).Peeks context world
      (if ref = key then .ok true else scene.conduct.equal (scene.origin world ref) (scene.origin world key)) := by
  refine hFollows.peeks_matching_of hReferenced hKey fun after hAfter hHost => ?_
  have hOrigin (other : Ref) : scene.origin after other = scene.origin world other := origin_eq (by rw [hHost])
  rw [← hOrigin ref] at hRefItem ⊢
  rw [← hOrigin key] at hKeyItem ⊢
  refine hGoverns.equal after hAfter ref key ?_ ?_ hRefItem hKeyItem context hNesting
  · rw [hHost]
    exact hFollows.whole ref hReferenced
  · rw [hHost]
    exact hKey

end Follows

end Scene

end HeapBridge
