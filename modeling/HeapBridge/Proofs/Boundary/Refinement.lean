import HeapBridge.Proofs.Boundary.Calls
/-!
The exported functions refine the operations of the bridge. For every state and all arguments, a call does
to the world what its request does and nothing else, hands out what that comes to, and leaves behind the
last error that tells of it.
-/
namespace HeapBridge.Export

open Host (Ref)

variable {α β : Type} {thread : Thread} {form : α → Returned} {consume : World → World}

theorem run_map (form : α → β) (operation : BridgeM α) (world : World) :
    (form <$> operation).run.run world =
      match operation.run.run world with
      | (.ok value, after) => (.ok (form value), after)
      | (.error error, after) => (.error error, after) := by
  rw [map_eq_pure_bind, run_bind]
  rcases operation.run.run world with ⟨error | value, after⟩ <;> rfl

/-! Arguments are read without any effect. -/

theorem run_setArgument (set : Pointer) (world : World) :
    (setArgument set).run.run world = (backingOf world set, world) := by
  cases set with
  | native address => exact run_setArgument_native address world
  | _ => rfl

theorem run_itemArgument (item : Option Ref) (world : World) :
    (itemArgument item).run.run world = (present item, world) := by
  cases item <;> rfl

theorem run_outputArgument (output : Bool) (world : World) :
    (outputArgument output).run.run world = (writable output, world) := by
  cases output <;> rfl

/-! Requests and what comes of them have nothing to do with the last errors. -/

theorem Call.request_withErrors (call : Call) (world : World)
    (lastErrors : List (Thread × String)) :
    call.request (world.withErrors lastErrors) = call.request world := by
  cases call <;> rfl

/-- What the bridge is asked to do does not depend on last errors. -/
theorem Request.unaware_run (request : Request) : Unaware request.run := by
  cases request with
  | installBuiltins => exact unaware_installBuiltins.bind fun _ => .pure
  | create value => exact (ForeignSet.unaware_create value).bind fun _ => .pure
  | reserve =>
    refine (unaware_reserve .foreignSet).bind fun storage => ?_
    cases storage with
    | some address => exact .pure
    | none => exact .throw
  | initialise storage value => exact (ForeignSet.unaware_initialise storage value).bind fun _ => .pure
  | hostValue backing => exact .pure
  | isForeignSet answer => exact .pure
  | contains backing item => exact (ForeignSet.unaware_contains _ _).bind fun _ => .pure
  | add backing item => exact (ForeignSet.unaware_add _ _).bind fun _ => .pure
  | remove backing item => exact (ForeignSet.unaware_remove _ _).bind fun _ => .pure
  | count backing => exact (ForeignSet.unaware_count _).bind fun _ => .pure
  | iterate backing => exact (ForeignSet.unaware_iterate _).bind fun _ => .pure
  | next iterator => exact (ForeignSet.unaware_next _).bind fun _ => .pure
  | dropIterator iterator =>
    refine .bind (.modify ?_) fun _ => .pure
    cases iterator with
    | none => exact fun _ _ => rfl
    | some number => exact .dropIterator number
  | release address =>
    refine .bind (.modify ?_) fun _ => .pure
    cases address with
    | none => exact fun _ _ => rfl
    | some address => exact .releaseNative address
  | register wrapper => exact (unaware_register wrapper).bind fun _ => .pure
  | toHost typeId pointer => exact (unaware_toHost typeId pointer).bind fun _ => .pure
  | fromHost typeId value => exact (unaware_fromHost typeId value).bind fun _ => .pure
  | hasWrapper typeId => exact .get (fun _ _ => rfl) fun _ => .pure
  | describe signature => exact .get (fun _ _ => rfl) fun _ => .pure

/-- So a call comes to the same whatever is told to other threads. -/
theorem Call.outcome_withErrors (call : Call) (world : World)
    (lastErrors : List (Thread × String)) :
    call.outcome (world.withErrors lastErrors) =
      ((call.outcome world).1, (call.outcome world).2.withErrors lastErrors) := by
  unfold outcome
  rw [request_withErrors]
  cases call.request world with
  | error error =>
    cases call with
    | setInit storage value => cases storage <;> cases value <;> rfl
    | _ => rfl
  | ok request => exact request.unaware_run world lastErrors

theorem Call.lastErrors_outcome (call : Call) (world : World) :
    (call.outcome world).2.lastErrors = world.lastErrors := by
  have hSame := congrArg (·.2.lastErrors) (call.outcome_withErrors world world.lastErrors)
  exact hSame

theorem Outcome.handOut_withErrors (outcome : Outcome) (thread : Thread) (world : World)
    (lastErrors : List (Thread × String)) :
    outcome.handOut thread (world.withErrors lastErrors) =
      (outcome.handOut thread world).withErrors lastErrors := by
  cases outcome with
  | element ref => cases ref <;> rfl
  | name text => cases text <;> rfl
  | _ => rfl

theorem Outcome.lastErrors_handOut (outcome : Outcome) (thread : Thread) (world : World) :
    (outcome.handOut thread world).lastErrors = world.lastErrors := by
  have hSame := congrArg World.lastErrors (outcome.handOut_withErrors thread world world.lastErrors)
  exact hSame

def delivered (thread : Thread) :
    Except BridgeError Outcome × World → Except BridgeError Returned × World
  | (.ok outcome, after) => (.ok outcome.returned, outcome.handOut thread after)
  | (.error error, after) => (.error error, after)

/-- Whether an operation, with its result in the form for callers, reads its arguments as `request` says
and then comes to what is requested. Rejected arguments use up what `consume` says. -/
def Answers (thread : Thread) (operation : BridgeM α) (form : α → Returned)
    (consume : World → World) (request : World → Except BridgeError Request) : Prop :=
  ∀ world, (form <$> operation).run.run world =
    match request world with
    | .ok request => delivered thread (request.run.run.run world)
    | .error error => (.error error, consume world)

namespace Answers

/-- An argument that is read first is rejected first. -/
theorem argument {first : BridgeM β} {read : World → Except BridgeError β} {next : β → BridgeM α}
    {rest : β → World → Except BridgeError Request}
    (hFirst : ∀ world, first.run.run world = (read world, world))
    (hNext : ∀ value, Answers thread (next value) form id (rest value)) :
    Answers thread (first >>= next) form id
      fun world => read world >>= fun value => rest value world := by
  intro world
  beta_reduce
  rw [run_map, run_bind, hFirst]
  cases read world with
  | error error => rfl
  | ok value =>
    have hValue := hNext value world
    rw [run_map] at hValue
    exact hValue

theorem rejected {error : BridgeError} :
    Answers thread (throw error : BridgeM α) form id fun _ => .error error :=
  fun _ => rfl

/-- The operation that is requested is the one that runs. -/
theorem requested {request : Request} {operation : BridgeM β} {result : β → α}
    {outcome : β → Outcome} (hRequest : request.run = operation >>= fun value => pure (outcome value))
    (hForm : ∀ value, form (result value) = (outcome value).returned)
    (hHandOut : ∀ value world, (outcome value).handOut thread world = world) :
    Answers thread (operation >>= fun value => pure (result value)) form consume
      fun _ => .ok request := by
  intro world
  beta_reduce
  dsimp only
  rw [hRequest, run_map, run_bind, run_bind]
  rcases operation.run.run world with ⟨error | value, after⟩
  · rfl
  · exact congr (congrArg (fun returned => Prod.mk (Except.ok returned)) (hForm value))
      (hHandOut value after).symm

/-- Operations of a set on an item: the set is looked at before the item. -/
theorem onItem {set : Pointer} {item : Option Ref} {operation : Ref → Ref → BridgeM β}
    {request : Ref → Ref → Request} {result : β → α} {outcome : β → Outcome}
    (hRequest : ∀ backing ref, (request backing ref).run =
      operation backing ref >>= fun value => pure (outcome value))
    (hForm : ∀ value, form (result value) = (outcome value).returned)
    (hHandOut : ∀ value world, (outcome value).handOut thread world = world) :
    Answers thread (do
        let value ← (do
          let backing ← setArgument set
          let ref ← itemArgument item
          operation backing ref)
        pure (result value)) form id
      fun world => do return request (← backingOf world set) (← present item) := by
  rw [bind_assoc]
  refine argument (run_setArgument set) fun backing => ?_
  rw [bind_assoc]
  exact argument (run_itemArgument item) fun ref => requested (hRequest backing ref) hForm hHandOut

/-- A guarded operation that answers a call leaves behind what the call should. -/
theorem run_guarded {call : Call} {operation : BridgeM α} {failed : α}
    (hAnswers : Answers thread operation form call.consume call.request)
    (hFailed : form failed = call.failed) (world : World) :
    (form <$> guarded thread failed operation).run world =
      (call.returned (call.outcome world).1,
        leave thread (call.outcome world).1 (call.outcome world).2) := by
  have hOperation : (form <$> operation).run.run (world.clearLastError thread) =
      delivered thread (call.outcome (world.clearLastError thread)) := by
    have hRun := hAnswers (world.clearLastError thread)
    beta_reduce at hRun
    rw [hRun, Call.outcome]
    cases call.request (world.clearLastError thread) <;> rfl
  have hErrors := call.lastErrors_outcome world
  rw [World.clearLastError_eq, Call.outcome_withErrors, run_map] at hOperation
  rw [StateT.run_map, Export.run_guarded, World.clearLastError_eq]
  revert hOperation hErrors
  rcases operation.run.run _ with ⟨fault | value, after⟩ <;>
    rcases call.outcome world with ⟨error | outcome, done⟩ <;> intro hOperation hErrors
  · obtain ⟨hError, rfl⟩ := Prod.mk.inj hOperation
    obtain rfl := Except.error.inj hError
    change (form failed, World.setLastError thread fault.message (done.withErrors
        (world.lastErrors.filter fun entry => entry.1 ≠ thread))) =
      (call.failed, done.setLastError thread fault.message)
    rw [← hErrors, ← World.clearLastError_eq, World.setLastError_clearLastError, hFailed]
  · nomatch (Prod.mk.inj hOperation).1
  · nomatch (Prod.mk.inj hOperation).1
  · obtain ⟨hForm, rfl⟩ := Prod.mk.inj hOperation
    change (form value, outcome.handOut thread (done.withErrors
        (world.lastErrors.filter fun entry => entry.1 ≠ thread))) =
      (outcome.returned, (outcome.handOut thread done).clearLastError thread)
    rw [Outcome.handOut_withErrors, ← hErrors, World.clearLastError_eq,
      outcome.lastErrors_handOut, Except.ok.inj hForm]

end Answers

theorem isOk_backingOf (world : World) (address : Nat) :
    (backingOf world (.native address)).isOk = (world.native.backing? address).isSome := by
  rw [backingOf]
  cases world.native.backing? address <;> rfl

/-- A call gives back and leaves behind what its request comes to. -/
theorem Call.run_perform (thread : Thread) (call : Call) (world : World) :
    (call.perform thread).run world =
      (call.returned (call.outcome world).1,
        leave thread (call.outcome world).1 (call.outcome world).2) := by
  cases call with
  | init =>
    refine Answers.run_guarded ?_ (by rfl) world
    exact .requested rfl (fun _ => rfl) fun _ _ => rfl
  | setNew value =>
    refine Answers.run_guarded (.argument (run_itemArgument value) fun ref => ?_) (by rfl) world
    exact .requested rfl (fun _ => rfl) fun _ _ => rfl
  | setAllocate =>
    refine Answers.run_guarded (fun world => ?_) (by rfl) world
    have hReserve : (modifyGet (World.reserve .foreignSet) : BridgeM (Option Nat)).run.run world =
      (.ok (world.reserve .foreignSet).1, (world.reserve .foreignSet).2) := rfl
    change _ = delivered thread (Request.reserve.run.run.run world)
    rw [run_map, Request.run, run_bind, run_bind, hReserve]
    rcases world.reserve .foreignSet with ⟨_ | address, after⟩ <;> rfl
  | setInit storage value =>
    refine Answers.run_guarded ?_ (by rfl) world
    cases value with
    | some value => exact .requested rfl (fun _ => rfl) fun _ _ => rfl
    | none => cases storage <;> exact fun _ => rfl
  | setHostObject set =>
    exact Answers.run_guarded (.argument (run_setArgument set) fun _ _ => rfl) (by rfl) world
  | isForeignSet object =>
    refine Answers.run_guarded (fun world => ?_) (by rfl) world
    cases object with
    | native address =>
      change (Except.ok (Returned.status (if (world.native.backing? address).isSome then 1 else 0)),
          world) =
        (Except.ok (Returned.status (if (backingOf world (.native address)).isOk then 1 else 0)), world)
      rw [isOk_backingOf]
    | _ => rfl
  | setContains set item | setAdd set item | setRemove set item =>
    refine Answers.run_guarded ?_ (by rfl) world
    exact .onItem (fun _ _ => rfl) (fun _ => rfl) fun _ _ => rfl
  | setCount set | setIterate set =>
    refine Answers.run_guarded (.argument (run_setArgument set) fun backing => ?_) (by rfl) world
    exact .requested rfl (fun _ => rfl) fun _ _ => rfl
  | iteratorNext iterator output =>
    refine Answers.run_guarded ?_ (by rfl) world
    cases iterator with
    | none => exact .rejected
    | some iterator =>
      refine .argument (run_outputArgument output) fun _ world => ?_
      change _ = delivered thread ((Request.next iterator).run.run.run world)
      rw [run_map, Request.run, run_bind, run_bind]
      rcases (ForeignSet.next iterator).run.run world with ⟨error | element, after⟩
      · rfl
      · cases element <;> rfl
  | iteratorFree iterator =>
    refine Answers.run_guarded ?_ (by rfl) world
    cases iterator <;> exact fun _ => rfl
  | setRelease set =>
    refine Answers.run_guarded ?_ (by rfl) world
    cases set with
    | null => exact fun _ => rfl
    | native address => exact .argument (run_setArgument (.native address)) fun _ _ => rfl
    | _ => exact .rejected
  | register typeId name toHost fromHost =>
    refine Answers.run_guarded ?_ (by rfl) world
    rw [bind_assoc]
    refine .argument (run_textArgument typeId) fun typeId => ?_
    rw [bind_assoc]
    refine .argument (run_textArgument name) fun name => ?_
    cases toHost with
    | none => exact .rejected
    | some toHost =>
      cases fromHost with
      | none => exact .rejected
      | some fromHost => exact .requested rfl (fun _ => rfl) fun _ _ => rfl
  | registerCounted typeId name =>
    refine Answers.run_guarded ?_ (by rfl) world
    rw [bind_assoc]
    refine .argument (run_textArgument typeId) fun typeId => ?_
    rw [bind_assoc]
    exact .argument (run_textArgument name) fun name => .requested rfl (fun _ => rfl) fun _ _ => rfl
  | registerFramework typeId =>
    refine Answers.run_guarded ?_ (by rfl) world
    rw [bind_assoc]
    exact .argument (run_textArgument typeId) fun _ => .requested rfl (fun _ => rfl) fun _ _ => rfl
  | toHost typeId pointer =>
    refine Answers.run_guarded (.argument (run_textArgument typeId) fun _ => ?_) (by rfl) world
    exact .requested rfl (fun _ => rfl) fun _ _ => rfl
  | fromHost typeId value output =>
    refine Answers.run_guarded ?_ (by rfl) world
    refine .argument (run_textArgument typeId) fun _ => .argument (run_outputArgument output) fun _ =>
      .argument (run_itemArgument value) fun _ => ?_
    exact .requested rfl (fun _ => rfl) fun _ _ => rfl
  | hasWrapper typeId =>
    refine Answers.run_guarded (fun world => ?_) (by rfl) world
    change _ = delivered thread ((Request.hasWrapper (readText typeId).toOption).run.run.run world)
    cases readText typeId <;> rfl
  | describe signature =>
    refine Answers.run_guarded (.argument (run_textArgument signature) fun signature world => ?_)
      (by rfl) world
    rw [run_map, run_get]
    change _ = delivered thread (.ok (.name (world.describe signature)), world)
    cases world.describe signature <;> rfl

/-- What is read as the last error on any thread after a call. -/
theorem Call.lastError?_leave (call : Call) (thread other : Thread) (world : World) :
    (leave thread (call.outcome world).1 (call.outcome world).2).lastError? other =
      if other = thread then lastErrorOf (call.outcome world).1 else world.lastError? other := by
  have hErrors := call.lastErrors_outcome world
  revert hErrors
  rcases call.outcome world with ⟨error | outcome, after⟩ <;> intro hErrors
  · rw [leave, World.lastError?_setLastError]
    exact congrArg (fun errors => if other = thread then _ else List.lookup other errors) hErrors
  · rw [leave, World.lastError?_clearLastError]
    have hKept : (outcome.handOut thread after).lastErrors = world.lastErrors :=
      (outcome.lastErrors_handOut thread after).trans hErrors
    exact congrArg (fun errors => if other = thread then none else List.lookup other errors) hKept

end HeapBridge.Export
