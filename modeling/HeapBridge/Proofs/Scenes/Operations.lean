import HeapBridge.Proofs.Scenes.Changing
import HeapBridge.Proofs.Scenes.Reading
import HeapBridge.Proofs.Sets.Transparency
/-!
Operations on sets. Wherever a scene is followed, a set answers an operation as its table has it, and goes on with the
table that the operation leaves: to host code, to native code through a proxy, and to the exported functions.
-/
namespace HeapBridge

open Host (Body Context Fault Heap HostM Object Ref SetTable)

variable {scene : Scene} {world before middle after : World} {ref set key : Ref} {refs rest : List Ref}
  {table left : SetTable} {α β : Type} {value : NativeValue} {touched : Set Ref}

def SetOperation.isChange : SetOperation α → Bool
  | .add _ | .remove _ | .removeAll => true
  | .contains _ | .count => false

namespace Host

/-- A method that a class leaves to sets is called one level down, whatever it comes to. -/
theorem runOn_method {method : String} {arguments : List Ref} {result : Except Fault Ref}
    (hPlain : world.host.scripted? set "__getattribute__" = none)
    (hBound : world.host.binding set method = .builtin .method) (hBody : world.host.body set = .set table)
    (hCall : (SetObject.callMethod? Host.ops set method arguments).eval { nesting := 1 } world =
      (result.map some, after)) :
    HostM.runOn (call Host.ops set method arguments) world = (result, after) := by
  simp only [HostM.runOn, call, HostM.eval_bind, HostM.eval_heap, hPlain, hBound, Option.isNone_none]
  unfold callBuiltin
  rw [HostM.eval_nested _ _ (by decide)]
  simp only [callKindMethod?, typeNameOf, HostM.eval_bind, HostM.eval_bodyOf, HostM.eval_heap,
    HostM.eval_pure, hBody, hCall]
  cases result <;> rfl

/-- A mapped result fails as the result does. -/
theorem error_of_map {f : α → β} {result : Except Fault α} {fault : Fault} (hResult : result.map f = .error fault) :
    result = .error fault := by
  cases result with
  | error other =>
    cases hResult
    rfl
  | ok value => cases hResult

/-- A method without a result. -/
theorem eval_done {action : HostM Unit} {context : Context} {result : Except Fault Unit}
    (hAction : action.eval context world = (result, after)) :
    (some <$> SetObject.done action : HostM (Option Ref)).eval context world =
      ((result.map fun _ => Ref.nil).map some, after) := by
  rw [HostM.eval_map, SetObject.done, HostM.eval_bind, hAction]
  cases result <;> rfl

section Methods

variable (hLeaves : world.host.LeavesToSets set) (hBody : world.host.body set = .set table)

include hLeaves hBody

/-- The method answers nothing, and fails as adding does. -/
theorem runOn_add_result {result : Except Fault Unit}
    (hAdd : (SetObject.add Host.ops set key).eval { nesting := 1 } world = (result, after)) :
    HostM.runOn (call Host.ops set "add" [key]) world = (result.map fun _ => .nil, after) := by
  apply runOn_method (hLeaves.unscripted _ (by simp)) (hLeaves.bound _ (by simp)) hBody
  have hOnly : (do SetObject.add Host.ops set (← Arguments.only s!"{world.host.typeName set}.add" [key])).eval
      { nesting := 1 } world = (result, after) := hAdd
  exact eval_done hOnly

/-- The method answers nothing, whatever the discarding found. -/
theorem runOn_discard_result {result : Except Fault Bool}
    (hDiscard : (SetObject.discard Host.ops set key).eval { nesting := 1 } world = (result, after)) :
    HostM.runOn (call Host.ops set "discard" [key]) world = (result.map fun _ => .nil, after) := by
  apply runOn_method (hLeaves.unscripted _ (by simp)) (hLeaves.bound _ (by simp)) hBody
  have hOnly : (do
      Functor.discard (SetObject.discard Host.ops set
        (← Arguments.only s!"{world.host.typeName set}.discard" [key]))).eval { nesting := 1 } world =
      (result.map fun _ => (), after) := by
    change ((fun _ => ()) <$> SetObject.discard Host.ops set key).eval { nesting := 1 } world = _
    rw [HostM.eval_map, hDiscard]
  have hDone := eval_done hOnly
  cases result <;> exact hDone

theorem runOn_clear_result {result : Except Fault Unit}
    (hClear : (SetObject.clear Host.ops set).eval { nesting := 1 } world = (result, after)) :
    HostM.runOn (call Host.ops set "clear" []) world = (result.map fun _ => .nil, after) := by
  apply runOn_method (hLeaves.unscripted _ (by simp)) (hLeaves.bound _ (by simp)) hBody
  have hNothing : (do
      Arguments.nothing s!"{world.host.typeName set}.clear" []
      SetObject.clear Host.ops set).eval { nesting := 1 } world = (result, after) := hClear
  exact eval_done hNothing

end Methods

end Host

namespace Scene

/-- References that are held are given back, one after the other. -/
theorem Follows.keeps_giveBackAll (hFollows : scene.Follows world) (hGoverns : scene.Governs)
    (hHeld : world.held.Perm (refs ++ rest)) :
    scene.Keeps touched world (refs.foldl (fun world ref => world.letGo ref) world) := by
  induction refs generalizing world with
  | nil => exact .refl hFollows
  | cons ref refs ih =>
    have hThere : ref ∈ world.held := hHeld.mem_iff.mpr List.mem_cons_self
    obtain ⟨hKeeps, hLeft⟩ := hFollows.keeps_giveBack hGoverns (hFollows.isLive_of_held hThere)
    have hRest : (world.letGo ref).held.Perm (refs ++ rest) := by
      have hErased := hHeld.erase ref
      rw [List.cons_append, List.erase_cons_head] at hErased
      exact hLeft.trans hErased
    exact hKeeps.trans (ih hKeeps.follows hRest)

/-- What a set comes to of which something is asked, with the item as a host object. -/
def outcome (scene : Scene) (world : World) (table : SetTable) :
    SetOperation Ref → Except Fault (SetAnswer × SetTable)
  | .contains key => (scene.answered world table key).map fun found => (.truth found, table)
  | .add key => (scene.added world table key).map fun result => (.done, result.2)
  | .remove key => (scene.removed world table key).map fun result => (.done, result.2)
  | .removeAll => .ok (.done, table.cleared)
  | .count => .ok (.count table.size, table)

/-- Asking is what discarding does first. -/
theorem answered_eq_removed : scene.answered world table key = (scene.removed world table key).map Prod.fst := by
  have hFrozen (elements : SetTable) : scene.askedFrozen world table elements =
      (scene.discardedFrozen world table elements).map Prod.fst := by
    rw [askedFrozen, discardedFrozen]
    cases scene.conduct.hash (.made (.frozenset elements.copied)) with
    | error fault => rfl
    | ok hash =>
      change (table.placeOf hash _).map _ = ((table.placeOf hash _).map _).map _
      rcases table.placeOf hash fun ref =>
        scene.conduct.equal (scene.origin world ref) (.made (.frozenset elements.copied)) with fault | ⟨_ | _⟩ <;> rfl
  rw [answered, removed, asked_eq_discarded]
  rcases scene.discarded world table key with fault | answer
  · cases world.host.body key with
    | set elements =>
      change (if _ then _ else _) = Except.map _ (if _ then _ else _)
      split
      · exact hFrozen elements
      · rfl
    | _ => rfl
  · rfl

/-- Adding fails only where asking does. -/
theorem asked_eq_added (scene : Scene) (world : World) (table : SetTable) (key : Ref) :
    (scene.asked world table key).map (fun _ => ()) = (scene.added world table key).map Prod.fst := by
  rw [asked, added]
  cases scene.conduct.hash (scene.origin world key) with
  | error fault => rfl
  | ok hash =>
    change ((table.placeOf hash _).map _).map _ = ((table.placeOf hash _).map _).map _
    rcases table.placeOf hash (scene.verdict world key) with fault | ⟨_ | _⟩ <;> rfl

namespace Contains

variable (hContains : scene.Contains world set table) (hOpens : scene.Opens) (hSet : set ∈ scene.sets)
  (hBody : world.host.body set = .set table) (hGoverns : scene.Governs)

include hContains hOpens hGoverns

/-- A set fails only as objects concerned do. -/
theorem fails_of_outcome {operation : SetOperation Ref} {fault : Fault}
    (hKey : ∀ key, operation.item? = some key → scene.Concerns world key)
    (hOutcome : scene.outcome world table operation = .error fault) :
    ∃ origin, scene.conduct.items origin ∧ scene.conduct.Fails origin fault := by
  cases operation with
  | contains key => exact hContains.exists_fails hGoverns hOpens (hKey key rfl) (Host.error_of_map hOutcome)
  | add key =>
    have hAsked : scene.asked world table key = .error fault := by
      apply Host.error_of_map (f := fun _ => ())
      rw [asked_eq_added, Host.error_of_map hOutcome]
      rfl
    exact ⟨_, (hKey key rfl).items, hContains.fails_of_asked hAsked⟩
  | remove key =>
    refine hContains.exists_fails hGoverns hOpens (hKey key rfl) ?_
    rw [answered_eq_removed, Host.error_of_map hOutcome]
    rfl
  | removeAll => cases hOutcome
  | count => cases hOutcome

include hSet hBody

omit hBody in
theorem exists_runOn_contains (hKey : scene.Concerns world key) :
    ∃ after, HostM.runOn (Host.contains Host.ops set key) world = (scene.answered world table key, after) ∧
      world.Undisturbed after := by
  obtain ⟨hLeaves, hIterates⟩ := hContains.follows.leavesToSets hOpens hSet hContains.live
  exact peeks_contains_of ⟨hLeaves.unscripted _ (by simp), hIterates⟩ hContains.elements
    (hContains.peeks_contains hGoverns hKey (Nat.zero_le 1) hOpens)

/-- Adding through the method comes to what the scene predicts, in a table of the same set. -/
theorem exists_runOn_add (hKey : scene.Concerns world key) :
    ∃ after, HostM.runOn (Host.call Host.ops set "add" [key]) world =
        ((scene.outcome world table (.add key)).map fun _ => .nil, after) ∧
      scene.Retables set (table.leftBy (scene.outcome world table (.add key))) world after := by
  obtain ⟨hLeaves, _⟩ := hContains.follows.leavesToSets hOpens hSet hContains.live
  obtain ⟨after, hEval, hRetables⟩ :
      scene.Comes set table (Host.SetObject.add Host.ops set key) { nesting := 1 } world
        (scene.added world table key) :=
    hContains.comes_add hSet hBody hGoverns hKey (Nat.le_refl 1)
  have hRun := Host.runOn_add_result hLeaves hBody hEval
  rw [outcome]
  generalize scene.added world table key = result at hRun hRetables ⊢
  cases result <;> exact ⟨after, hRun, hRetables⟩

/-- The same for taking out. -/
theorem exists_runOn_remove (hKey : scene.Concerns world key) :
    ∃ after, HostM.runOn (Host.call Host.ops set "discard" [key]) world =
        ((scene.outcome world table (.remove key)).map fun _ => .nil, after) ∧
      scene.Retables set (table.leftBy (scene.outcome world table (.remove key))) world after := by
  obtain ⟨hLeaves, _⟩ := hContains.follows.leavesToSets hOpens hSet hContains.live
  obtain ⟨after, hEval, hRetables⟩ : scene.Comes set table (Host.SetObject.discard Host.ops set key) { nesting := 1 }
      world (scene.removed world table key) :=
    hContains.comes_discard hOpens hSet hBody hGoverns hKey (Nat.le_refl 1)
  have hRun := Host.runOn_discard_result hLeaves hBody hEval
  rw [outcome]
  generalize scene.removed world table key = result at hRun hRetables ⊢
  cases result <;> exact ⟨after, hRun, hRetables⟩

/-- Clearing through the method leaves a cleared table. -/
theorem exists_runOn_clear :
    ∃ after, HostM.runOn (Host.call Host.ops set "clear" []) world = (.ok .nil, after) ∧
      scene.Retables set table.cleared world after := by
  obtain ⟨hLeaves, _⟩ := hContains.follows.leavesToSets hOpens hSet hContains.live
  obtain ⟨after, hEval, hRetables⟩ : scene.Comes set table (Host.SetObject.clear Host.ops set) { nesting := 1 }
      world (.ok ((), table.cleared)) := hContains.comes_clear hOpens hSet hBody hGoverns
  exact ⟨after, Host.runOn_clear_result hLeaves hBody hEval, hRetables⟩

omit hBody hGoverns in
theorem runOn_length : HostM.runOn (Host.length Host.ops set) world = (.ok table.size, world) := by
  obtain ⟨hLeaves, _⟩ := hContains.follows.leavesToSets hOpens hSet hContains.live
  exact Host.runOn_length hContains.elements (hLeaves.unscripted "__len__" (by simp))

/-- Host code gets the answer of the table. -/
theorem exists_runHost (operation : SetOperation Ref)
    (hKey : ∀ key, operation.item? = some key → scene.Concerns world key) :
    ∃ after, HostM.runOn (operation.runHost set) world =
        ((scene.outcome world table operation).map Prod.fst, after) ∧
      scene.Retables set (table.leftBy (scene.outcome world table operation)) world after := by
  have hMap {α : Type} {call : HostM α} {result : Except Fault α} {after : World} (f : α → SetAnswer)
      (hRun : HostM.runOn call world = (result, after)) : HostM.runOn (f <$> call) world = (result.map f, after) := by
    rw [HostM.runOn] at hRun
    rw [HostM.runOn, HostM.eval_map, hRun]
  cases operation with
  | contains key =>
    obtain ⟨after, hRun, hCalm⟩ := hContains.exists_runOn_contains hOpens hSet hGoverns (hKey key rfl)
    have hRetables : scene.Retables set table world after := .of_undisturbed hContains.follows hBody hCalm
    refine ⟨after, ?_, ?_⟩
    · refine (hMap .truth hRun).trans ?_
      rw [outcome]
      cases scene.answered world table key <;> rfl
    · rw [outcome]
      cases scene.answered world table key <;> exact hRetables
  | add key =>
    obtain ⟨after, hRun, hRetables⟩ := hContains.exists_runOn_add hOpens hSet hBody hGoverns (hKey key rfl)
    refine ⟨after, (hMap (fun _ => .done) hRun).trans ?_, hRetables⟩
    rw [outcome]
    cases scene.added world table key <;> rfl
  | remove key =>
    obtain ⟨after, hRun, hRetables⟩ := hContains.exists_runOn_remove hOpens hSet hBody hGoverns (hKey key rfl)
    refine ⟨after, (hMap (fun _ => .done) hRun).trans ?_, hRetables⟩
    rw [outcome]
    cases scene.removed world table key <;> rfl
  | removeAll =>
    obtain ⟨after, hRun, hRetables⟩ := hContains.exists_runOn_clear hOpens hSet hBody hGoverns
    exact ⟨after, hMap (fun _ => .done) hRun, hRetables⟩
  | count =>
    refine ⟨world, hMap .count (hContains.runOn_length hOpens hSet), ?_⟩
    exact .of_undisturbed hContains.follows hBody (.refl world)

end Contains

/-! Operations of native code. -/

/-- The name of an operation in what is reported of it. -/
def operationOf : SetOperation α → Operation
  | .contains _ => .contains
  | .add _ => .add
  | .remove _ => .remove
  | .removeAll => .removeAll
  | .count => .count

/-- What a set comes to of which native code asks something. The item has crossed before. -/
def outcomeFor (scene : Scene) (world : World) (table : SetTable) (operation : SetOperation NativeValue) :
    Except Fault (SetAnswer × SetTable) :=
  scene.outcome (operation.item?.elim world fun item => (item.crossed world).2) table
    (operation.map fun item => (item.crossed world).1)

/-- A host call behind an operation of native code, which refers to objects meanwhile. -/
theorem Follows.exists_kept (hFollows : scene.Follows world) (hGoverns : scene.Governs) (hOpens : scene.Opens)
    (hSet : set ∈ scene.sets) (operation : Operation) {call : HostM α} {result : Except Fault α}
    (hRefs : ∀ ref ∈ refs, world.host.isLive ref = true)
    (hRun : HostM.runOn call (world.holdAll refs) = (result, middle))
    (hRetables : scene.Retables set left (world.holdAll refs) middle)
    (hFails : ∀ fault, result = .error fault → ∃ origin, scene.conduct.items origin ∧ scene.conduct.Fails origin fault)
    (finish : α → BridgeM β) (told : α → β)
    (hFinish : ∀ value, result = .ok value → (finish value).run.run middle = (.ok (told value), middle)) :
    ∃ after, (BridgeM.keeping refs (BridgeM.contract operation call >>= finish)).run.run world =
        (scene.reported operation (result.map told), after) ∧ scene.Retables set left world after := by
  have hHolds : scene.Keeps {set} world (world.holdAll refs) := hFollows.keeps_holdAll hRefs
  have hHeld : middle.held.Perm (refs ++ world.held) := by
    have hBalanced := call.balanced {} (world.holdAll refs)
    rw [HostM.runOn] at hRun
    rw [hRun] at hBalanced
    exact hBalanced
  rw [BridgeM.run_keeping, run_bind, BridgeM.contract, BridgeM.run_host, hRun]
  cases result with
  | ok value =>
    dsimp only
    rw [hFinish value rfl]
    exact ⟨_, rfl, (hRetables.trans hOpens hSet
      (hRetables.keeps.follows.keeps_giveBackAll hGoverns hHeld)).since hHolds⟩
  | error fault =>
    obtain ⟨origin, hItems, hFault⟩ := hFails fault rfl
    obtain ⟨hText, hCalm⟩ := hGoverns.report middle hRetables.keeps.follows origin hItems fault hFault
    have hTold : scene.Keeps ∅ middle _ := hRetables.keeps.follows.keeps_undisturbed hCalm
    dsimp only
    rw [hText]
    rw [← hCalm.held_eq] at hHeld
    exact ⟨_, rfl, (hRetables.trans hOpens hSet
      (hTold.trans (hTold.follows.keeps_giveBackAll hGoverns hHeld))).since hHolds⟩

namespace Contains

variable (hContains : scene.Contains world set table) (hOpens : scene.Opens)

include hContains hOpens

/-- Where a value has crossed, and the object is held. -/
theorem crossed (hPresents : scene.Presents world value) :
    scene.Keeps {set} world (value.crossed world).2 ∧
      scene.Contains ((value.crossed world).2.holdAll [(value.crossed world).1]) set table ∧
        scene.Concerns ((value.crossed world).2.holdAll [(value.crossed world).1]) (value.crossed world).1 ∧
          ((value.crossed world).2.holdAll [(value.crossed world).1]).host.body set = world.host.body set := by
  obtain ⟨hFollows, hExtends⟩ := hContains.follows.crossed hOpens value
  have hKeeps : scene.Keeps {set} world (value.crossed world).2 := by
    cases hBody : value.body? with
    | none =>
      rw [value.crossed_of_not_body? hBody]
      exact .refl hContains.follows
    | some body => exact (hContains.follows.makes_crossed hOpens hBody).keeps.mono (Set.empty_subset _)
  have hHolds : scene.Keeps {set} (value.crossed world).2
      ((value.crossed world).2.holdAll [(value.crossed world).1]) := by
    refine hFollows.keeps_holdAll fun other hOther => ?_
    rw [List.mem_singleton.mp hOther]
    exact hPresents.concerns.live
  exact ⟨hKeeps, hContains.extends (hExtends.trans (World.extends_holdAll _ _)) hHolds.follows,
    ⟨hPresents.concerns.live, hPresents.concerns.items⟩, hExtends.body_eq hContains.live⟩

variable (hSet : set ∈ scene.sets) (hBody : world.host.body set = .set table) (hGoverns : scene.Governs)

include hSet hBody hGoverns

omit hBody in
/-- A method without an answer is called with a value that has crossed. -/
theorem exists_command (operation : Operation) {method : String} {result : Except Fault (SetAnswer × SetTable)}
    (hPresents : scene.Presents world value)
    (hCall : ∃ after, HostM.runOn (Host.call Host.ops set method [(value.crossed world).1])
        ((value.crossed world).2.holdAll [(value.crossed world).1]) = (result.map fun _ => .nil, after) ∧
      scene.Retables set (table.leftBy result) ((value.crossed world).2.holdAll [(value.crossed world).1]) after)
    (hFails : ∀ fault, result = .error fault →
      ∃ origin, scene.conduct.items origin ∧ scene.conduct.Fails origin fault) :
    ∃ after, (value.toHost >>= fun key =>
        SetProgram.command [key] (BridgeM.contract operation (Host.call Host.ops set method [key]))).run.run world =
        (scene.reported operation (result.map fun _ => ()), after) ∧
      scene.Retables set (table.leftBy result) world after ∧ scene.Keeps {set} (value.crossed world).2 after := by
  obtain ⟨middle, hRun, hRetables⟩ := hCall
  obtain ⟨hKeeps, _⟩ := hContains.crossed hOpens hPresents
  have hLive : ∀ ref ∈ [(value.crossed world).1], (value.crossed world).2.host.isLive ref = true := by
    intro ref hRef
    rw [List.mem_singleton.mp hRef]
    exact hPresents.concerns.live
  have hFaults : ∀ fault, result.map (fun _ => Ref.nil) = .error fault →
      ∃ origin, scene.conduct.items origin ∧ scene.conduct.Fails origin fault := fun fault hFault =>
    hFails fault (Host.error_of_map hFault)
  obtain ⟨after, hTold, hLeft⟩ := hKeeps.follows.exists_kept hGoverns hOpens hSet operation hLive hRun hRetables hFaults
    (fun answer => BridgeM.release [answer]) (fun _ => ()) fun answer hAnswer => by
      cases result <;> cases hAnswer
      rfl
  refine ⟨after, ?_, hLeft.since hKeeps, hLeft.keeps⟩
  rw [run_bind, value.run_toHost]
  refine hTold.trans ?_
  cases result <;> rfl

/-- Native code is told the answer of the table. -/
theorem exists_run {operation : SetOperation NativeValue}
    (hItem : ∀ item, operation.item? = some item → scene.Presents world item) :
    ∃ after, (operation.run set).run.run world =
        (scene.reported (operationOf operation) ((scene.outcomeFor world table operation).map Prod.fst), after) ∧
      scene.Retables set (table.leftBy (scene.outcomeFor world table operation)) world after ∧
        ∀ item, operation.item? = some item → operation.isChange = true →
          scene.Keeps {set} (item.crossed world).2 after := by
  have hDone {operation : BridgeM Unit} {name : Operation} {result : Except Fault (SetAnswer × SetTable)}
      {after : World}
      (hAnswer : ∀ answer left, result = .ok (answer, left) → answer = .done)
      (hTold : operation.run.run world = (scene.reported name (result.map fun _ => ()), after)) :
      (do operation; return SetAnswer.done : BridgeM SetAnswer).run.run world =
        (scene.reported name (result.map Prod.fst), after) := by
    rw [run_bind, hTold]
    rcases result with fault | ⟨answer, left⟩
    · rfl
    · rw [hAnswer answer left rfl]
      rfl
  cases operation with
  | contains item =>
    obtain ⟨hLeaves, hIterates⟩ := hContains.follows.leavesToSets hOpens hSet hContains.live
    obtain ⟨after, hYields⟩ := hContains.exists_contains hGoverns hOpens ⟨hLeaves.unscripted _ (by simp), hIterates⟩
      (hItem item rfl)
    have hTold := hYields.map SetAnswer.truth
    have hRetables : scene.Retables set table world after :=
      ⟨⟨hContains.follows.grows hYields.grows, hYields.grows.leaves, hYields.grows.cursors⟩,
        fun _ => (hYields.grows.body_eq set).trans hBody⟩
    have hSame : scene.outcomeFor world table (.contains item) =
        (scene.lookup world table item).map fun found => (.truth found, table) := rfl
    rw [hSame]
    cases hLookup : scene.lookup world table item with
    | error fault =>
      rw [hLookup] at hTold
      exact ⟨after, hTold.run, hRetables, fun _ _ hChange => by cases hChange⟩
    | ok found =>
      rw [hLookup] at hTold
      exact ⟨after, hTold.run, hRetables, fun _ _ hChange => by cases hChange⟩
  | add item =>
    obtain ⟨hKeeps, hThere, hKey, hSame⟩ := hContains.crossed hOpens (hItem item rfl)
    obtain ⟨after, hTold, hLeft, hLater⟩ := hContains.exists_command hOpens hSet hGoverns .add
      (hItem item rfl) (hThere.exists_runOn_add hOpens hSet (hSame.trans hBody) hGoverns hKey)
      fun fault hFault => hThere.fails_of_outcome hOpens hGoverns (fun key hSome => by cases hSome; exact hKey) hFault
    refine ⟨after, hDone (fun answer left hAnswer => ?_) hTold, hLeft, fun _ hSome _ => by cases hSome; exact hLater⟩
    change (scene.added _ table _).map _ = _ at hAnswer
    generalize scene.added _ table _ = result at hAnswer
    cases result <;> cases hAnswer
    rfl
  | remove item =>
    obtain ⟨hKeeps, hThere, hKey, hSame⟩ := hContains.crossed hOpens (hItem item rfl)
    obtain ⟨after, hTold, hLeft, hLater⟩ := hContains.exists_command hOpens hSet hGoverns .remove
      (hItem item rfl) (hThere.exists_runOn_remove hOpens hSet (hSame.trans hBody) hGoverns hKey)
      fun fault hFault => hThere.fails_of_outcome hOpens hGoverns (fun key hSome => by cases hSome; exact hKey) hFault
    refine ⟨after, hDone (fun answer left hAnswer => ?_) hTold, hLeft, fun _ hSome _ => by cases hSome; exact hLater⟩
    change (scene.removed _ table _).map _ = _ at hAnswer
    generalize scene.removed _ table _ = result at hAnswer
    cases result <;> cases hAnswer
    rfl
  | removeAll =>
    obtain ⟨middle, hRun, hRetables⟩ := hContains.exists_runOn_clear hOpens hSet hBody hGoverns
    obtain ⟨after, hTold, hLeft⟩ := hContains.follows.exists_kept hGoverns hOpens hSet .removeAll
      (List.forall_mem_nil _) hRun hRetables (fun _ hFault => by cases hFault)
      (fun answer => BridgeM.release [answer]) (fun _ => ()) fun answer hAnswer => by
        cases hAnswer
        rfl
    refine ⟨after, hDone (fun _ _ hAnswer => ?_) hTold, hLeft,
      fun _ hSome _ => by cases hSome⟩
    cases hAnswer
    rfl
  | count =>
    refine ⟨world, ?_, .of_undisturbed hContains.follows hBody (.refl world), fun _ hSome _ => by cases hSome⟩
    rw [SetOperation.run, ExceptT.run_map, StateT.run_map, ForeignSet.count_eq, BridgeM.contract, BridgeM.run_host,
      hContains.runOn_length hOpens hSet]
    rfl

end Contains

end Scene

/-! Exported functions. -/

/-- What a native caller gets for a result. -/
def SetAnswer.codeOf : Except β SetAnswer → Int
  | .ok answer => answer.code
  | .error _ => -1

namespace World

/-- Errors of callers are no growth of the heap. -/
theorem grows_lastErrors (lastErrors : List (Thread × String)) : world.Grows { world with lastErrors } where
  scripts := rfl
  size := Nat.le_refl _
  object _ := rfl
  cursors := rfl
  registry := rfl
  refusals := List.Subset.refl _
  native _ _ hThere := hThere
  mentions ref := by
    rintro (⟨hObject, hRef⟩ | ⟨number, hRef⟩ | hRef | ⟨hObject, hRef⟩ | ⟨hScript, hRef⟩)
    · exact .proxy hObject hRef
    · exact .cursor number hRef
    · exact .converter hRef
    · exact .object hObject hRef
    · exact .script hScript hRef
  held := ⟨[], .refl _, List.forall_mem_nil _⟩

theorem grows_clearLastError (thread : Thread) (world : World) : world.Grows (world.clearLastError thread) :=
  grows_lastErrors _

theorem grows_setLastError (thread : Thread) (text : String) (world : World) :
    world.Grows (world.setLastError thread text) := by
  unfold setLastError
  dsimp only
  split <;> exact grows_lastErrors _

end World

/-- An exported function gives the result of the operation behind it as a number, and keeps its error. -/
theorem ExportedOperation.run_result {operation : ExportedOperation} {thread : Thread} {proxy : Nat}
    {result : Except BridgeError SetAnswer} (hProxy : world.native.backing? proxy = some set)
    (hRun : (operation.operation.run set).run.run (world.clearLastError thread) = (result, after)) :
    ∃ last, (operation.run thread (.native proxy)).run world = (SetAnswer.codeOf result, last) ∧ after.Grows last := by
  have hSet : (Export.setArgument (.native proxy)).run.run (world.clearLastError thread) =
      (.ok set, world.clearLastError thread) := by
    have hBacking : (world.clearLastError thread).native.backing? proxy = some set := hProxy
    rw [Export.run_setArgument_native, hBacking]
  have hArgument (item : Ref) : (Export.itemArgument (some item)).run.run (world.clearLastError thread) =
      (.ok item, world.clearLastError thread) := rfl
  cases result with
  | ok answer => exact ⟨after, run_of_run hProxy hRun, .refl after⟩
  | error error =>
    refine ⟨after.setLastError thread error.message, ?_, World.grows_setLastError thread _ after⟩
    cases operation with
    | contains item =>
      rw [operation, SetOperation.run, ExceptT.run_map, StateT.run_map] at hRun
      simp only [ExportedOperation.run, Export.setContains, Export.flag, Export.run_guarded, run_bind, hSet,
        hArgument]
      rcases hAsked : (ForeignSet.contains set (.host item)).run.run (world.clearLastError thread) with
        ⟨error | found, later⟩ <;> rw [hAsked] at hRun <;> cases hRun
      rfl
    | add item =>
      rw [operation, SetOperation.run, run_bind] at hRun
      simp only [ExportedOperation.run, Export.setAdd, Export.status, Export.run_guarded, run_bind, hSet,
        hArgument]
      rcases hAdded : (ForeignSet.add set (.host item)).run.run (world.clearLastError thread) with
        ⟨error | _, later⟩ <;> rw [hAdded] at hRun <;> cases hRun
      rfl
    | remove item =>
      rw [operation, SetOperation.run, run_bind] at hRun
      simp only [ExportedOperation.run, Export.setRemove, Export.status, Export.run_guarded, run_bind, hSet,
        hArgument]
      rcases hRemoved : (ForeignSet.remove set (.host item)).run.run (world.clearLastError thread) with
        ⟨error | _, later⟩ <;> rw [hRemoved] at hRun <;> cases hRun
      rfl
    | count =>
      rw [operation, SetOperation.run, ExceptT.run_map, StateT.run_map] at hRun
      simp only [ExportedOperation.run, Export.setCount, Export.run_guarded, run_bind, hSet]
      rcases hCounted : (ForeignSet.count set).run.run (world.clearLastError thread) with
        ⟨error | number, later⟩ <;> rw [hCounted] at hRun <;> cases hRun
      rfl

namespace Scene

theorem Follows.keeps_grows (hFollows : scene.Follows before) (hGrows : before.Grows after) :
    scene.Keeps touched before after := ⟨hFollows.grows hGrows, hGrows.leaves, hGrows.cursors⟩

/-- A native caller gets the answer of the table. -/
theorem Contains.exists_exported (hContains : scene.Contains world set table) (hOpens : scene.Opens)
    (hSet : set ∈ scene.sets) (hBody : world.host.body set = .set table) (hGoverns : scene.Governs)
    {operation : ExportedOperation} (thread : Thread) {proxy : Nat} (hProxy : world.native.backing? proxy = some set)
    (hItem : ∀ item, operation.operation.item? = some item → scene.Presents world item) :
    ∃ after, (operation.run thread (.native proxy)).run world =
        (SetAnswer.codeOf ((scene.outcomeFor world table operation.operation).map Prod.fst), after) ∧
      scene.Retables set (table.leftBy (scene.outcomeFor world table operation.operation)) world after := by
  have hGrows := World.grows_clearLastError thread world
  have hThere := hContains.grows hGrows
  obtain ⟨middle, hRun, hRetables, _⟩ := hThere.exists_run hOpens hSet ((hGrows.body_eq set).trans hBody) hGoverns
    fun item hAsked => (hItem item hAsked).extends hOpens hContains.follows hGrows.extends hThere.follows
  obtain ⟨after, hCode, hLater⟩ := ExportedOperation.run_result hProxy hRun
  have hSame : scene.outcomeFor (world.clearLastError thread) table operation.operation =
      scene.outcomeFor world table operation.operation := by
    cases operation <;> rfl
  rw [hSame] at hCode hRetables
  refine ⟨after, hCode.trans ?_, (hRetables.trans hOpens hSet
    (hRetables.keeps.follows.keeps_grows hLater)).since (hContains.follows.keeps_grows hGrows)⟩
  cases scene.outcomeFor world table operation.operation <;> rfl

end Scene

end HeapBridge
