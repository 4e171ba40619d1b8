import HeapBridge.Proofs.Handles.Provenance
import HeapBridge.Proofs.Registration.Sessions
/-!
Poisoned registries. A writer that dies in the middle of its work leaves a registry that answers nothing any
more: whoever registers, converts or lists is told that it is poisoned, unless an earlier check has failed,
and whoever only asks is told that there is nothing. Neither changes it, and nothing ever mends it.
-/
namespace HeapBridge

open Host (Ref)
open Session

variable {may : Deed → Prop} {start finish : Account} {world : World} {session : Session}
  {registry : Registry}

/-- What a poisoned registry says to an attempt: what is wrong with it is found before. -/
def Attempt.refusal : Attempt → BridgeError
  | .ok _ => .poisoned
  | .error error => error

theorem Registry.insert_of_poisoned (hPoisoned : registry.poisoned = true) (wrapper : PointerWrapper) :
    registry.insert wrapper = .error wrapper.attempt.refusal := by
  rw [insert, PointerWrapper.attempt, hPoisoned]
  cases isIdentifier wrapper.typeId <;> rfl

theorem Registry.lookup_of_poisoned (hPoisoned : registry.poisoned = true) (typeId : String) :
    registry.lookup typeId = .error .poisoned :=
  if_pos hPoisoned

/-- Whatever is done, a poisoned registry keeps its table and stays poisoned. -/
theorem Moves.poisoned (moves : Moves may start finish)
    (hPoisoned : start.world.registry.poisoned = true) :
    finish.world.registry.wrappers = start.world.registry.wrappers ∧
      finish.world.registry.poisoned = true := by
  induction moves with
  | refl => exact ⟨rfl, hPoisoned⟩
  | step _ last ih =>
    cases last with
    | host change => rwa [change.cursors_registry.2]
    | drop address _ => rwa [(World.aside_dropNative address _).2.2]
    | register wrapper _ hInsert =>
      rw [Registry.insert_of_poisoned ih.2] at hInsert
      cases hInsert
    | poison => exact ⟨ih.1, rfl⟩
    | _ => exact ih

/-- An outcome of installing the built-in wrappers is noted on demand only. -/
theorem Moves.builtins_eq (moves : Moves may start finish) (hMay : ¬ may .builtins) :
    finish.world.registry.builtins = start.world.registry.builtins := by
  induction moves with
  | refl => rfl
  | step _ last ih =>
    refine Eq.trans ?_ ih
    cases last with
    | host change => rw [change.cursors_registry.2]
    | drop address _ => rw [(World.aside_dropNative address _).2.2]
    | register wrapper _ hInsert => rw [Registry.insert_eq_ok hInsert, Registry.push]
    | builtins hDeed => exact absurd hDeed hMay
    | _ => rfl

namespace Session

/-- Once poisoned, a registry keeps its wrappers and stays poisoned. -/
theorem poisoned_perform (hPoisoned : session.world.registry.poisoned = true) (command : Command) :
    (perform command session).2.world.registry.wrappers = session.world.registry.wrappers ∧
      (perform command session).2.world.registry.poisoned = true := by
  obtain ⟨start, finish, hStart, hFinish, hMoves⟩ := exists_moves_perform command session
  have hRegistry : start.world.registry = session.world.registry := by rw [hStart, registry_forget]
  have hAfter := hMoves.poisoned (hRegistry ▸ hPoisoned)
  rwa [hFinish, hRegistry] at hAfter

/-- Over every run a poisoned registry keeps its table and stays poisoned. -/
theorem poisoned_performAll (hPoisoned : session.world.registry.poisoned = true)
    (commands : List Command) :
    (performAll commands session).2.world.registry.wrappers = session.world.registry.wrappers ∧
      (performAll commands session).2.world.registry.poisoned = true := by
  induction commands generalizing session with
  | nil => exact ⟨rfl, hPoisoned⟩
  | cons command rest ih =>
    obtain ⟨hFirst, hStill⟩ := poisoned_perform hPoisoned command
    obtain ⟨hRest, hEnd⟩ := ih hStill
    exact ⟨hRest.trans hFirst, hEnd⟩

end Session

theorem run_register_of_poisoned (hPoisoned : world.registry.poisoned = true)
    (wrapper : PointerWrapper) :
    (register wrapper).run.run world = (.error wrapper.attempt.refusal,
      world.note (Registry.insertEvent wrapper (.error wrapper.attempt.refusal))) := by
  rw [run_register_eq, Registry.insert_of_poisoned hPoisoned]

/-- Well-formed wrappers are refused without a trace. -/
theorem run_registerAll_of_poisoned (hPoisoned : world.registry.poisoned = true)
    {wrappers : List PointerWrapper}
    (hWell : ∀ wrapper ∈ wrappers, isIdentifier wrapper.typeId = true) :
    (registerAll wrappers).run.run world =
      (.ok (wrappers.map fun _ => .error .poisoned), world) := by
  induction wrappers with
  | nil => rfl
  | cons wrapper rest ih =>
    obtain ⟨hWellFirst, hWell⟩ := List.forall_mem_cons.mp hWell
    have hRefusal : wrapper.attempt.refusal = .poisoned := by
      rw [PointerWrapper.attempt, if_pos hWellFirst, Attempt.refusal]
    have hRegister : (register wrapper).run.run world = (.error .poisoned, world) := by
      rw [run_register_of_poisoned hPoisoned, hRefusal]
      rfl
    rw [registerAll, run_bind, run_attempt, hRegister]
    dsimp only
    rw [run_bind, ih hWell]
    rfl

/-- Who asks again is told what came of the first time. -/
theorem run_installBuiltins_again {outcome : Except BridgeError Unit}
    (hAgain : world.registry.builtins = some outcome) :
    installBuiltins.run.run world = (outcome, world) := by
  rw [installBuiltins, run_get, hAgain]
  cases outcome <;> rfl

/-- In a poisoned registry the first time comes to nothing, and that is noted. -/
theorem run_installBuiltins_of_poisoned (hPoisoned : world.registry.poisoned = true) :
    installBuiltins.run.run world =
      match world.registry.builtins with
      | some outcome => (outcome, world)
      | none => (.error .poisoned,
          { world with registry := { world.registry with builtins := some (.error .poisoned) } }) := by
  cases hBuiltins : world.registry.builtins with
  | some outcome => exact run_installBuiltins_again hBuiltins
  | none =>
    have hWell : ∀ wrapper ∈ builtinWrappers, isIdentifier wrapper.typeId = true := by decide
    rw [installBuiltins, run_get, hBuiltins]
    dsimp only
    rw [run_bind, installFirst, run_bind, run_registerAll_of_poisoned hPoisoned hWell]
    rfl

theorem run_toHost_of_poisoned (hPoisoned : world.registry.poisoned = true) (typeId : String)
    (pointer : Pointer) : (toHost typeId pointer).run.run world = (.error .poisoned, world) := by
  rw [toHost, run_bind, run_lookup, Registry.lookup_of_poisoned hPoisoned]

theorem run_fromHost_of_poisoned (hPoisoned : world.registry.poisoned = true) (typeId : String)
    (value : Ref) : (fromHost typeId value).run.run world = (.error .poisoned, world) := by
  rw [fromHost, run_bind, run_lookup, Registry.lookup_of_poisoned hPoisoned]

namespace World

theorem hasWrapper_of_poisoned (hPoisoned : world.registry.poisoned = true) (typeId : String) :
    world.hasWrapper typeId = false := by
  rw [hasWrapper, Registry.lookup_of_poisoned hPoisoned]

/-- Nothing is described by a poisoned registry. -/
theorem describe_of_poisoned (hPoisoned : world.registry.poisoned = true) (signature : String) :
    world.describe signature = none := by
  rw [describe]
  cases TypeEncoding.identifier? signature with
  | none => rfl
  | some typeId =>
    dsimp only
    rw [Registry.lookup_of_poisoned hPoisoned]

end World

namespace Export.Call

def needsRegistry : Call → Bool
  | .register _ _ _ _ | .registerCounted _ _ | .registerFramework _ | .toHost _ _ | .fromHost _ _ _ => true
  | _ => false

/-- What a poisoned registry says to such a call: what is wrong with its arguments is found before. -/
def refusal (world : World) (call : Call) : BridgeError :=
  match call.request world with
  | .error error => error
  | .ok (.register wrapper) => wrapper.attempt.refusal
  | .ok _ => .poisoned

/-- The requests that such calls make. -/
inductive NeedsRegistry : Request → Prop where
  | register (wrapper : PointerWrapper) : NeedsRegistry (.register wrapper)
  | toHost (typeId : String) (pointer : Pointer) : NeedsRegistry (.toHost typeId pointer)
  | fromHost (typeId : String) (value : Ref) : NeedsRegistry (.fromHost typeId value)

/-- A call that needs the registry asks for it once its arguments are sound. -/
theorem needsRegistry_request {call : Call} (hNeeds : call.needsRegistry = true)
    {request : Request} (hRequest : call.request world = .ok request) : NeedsRegistry request := by
  have hBind {α : Type} {first : Except BridgeError α} {next : α → Except BridgeError Request}
      (hNext : ∀ value, next value = .ok request → NeedsRegistry request)
      (hOk : first >>= next = .ok request) : NeedsRegistry request := by
    cases first with
    | error error => cases hOk
    | ok value => exact hNext value hOk
  cases call with
  | register typeId name outward inward =>
    refine hBind (fun typeId => hBind fun name => hBind fun converters hOk => ?_) hRequest
    exact Except.ok.inj hOk ▸ .register _
  | registerCounted typeId name =>
    refine hBind (fun typeId => hBind fun name hOk => ?_) hRequest
    exact Except.ok.inj hOk ▸ .register _
  | registerFramework typeId =>
    refine hBind (fun typeId hOk => ?_) hRequest
    exact Except.ok.inj hOk ▸ .register _
  | toHost typeId pointer =>
    refine hBind (fun typeId hOk => ?_) hRequest
    exact Except.ok.inj hOk ▸ .toHost _ _
  | fromHost typeId value output =>
    refine hBind (fun typeId => hBind fun _ => hBind fun value hOk => ?_) hRequest
    exact Except.ok.inj hOk ▸ .fromHost _ _
  | _ => cases hNeeds

/-- A poisoned registry refuses such a call; nothing changes, but that an improper identifier is logged. -/
theorem outcome_of_poisoned {call : Call} (hNeeds : call.needsRegistry = true)
    (hPoisoned : world.registry.poisoned = true) :
    ∃ events, call.outcome world =
        (.error (call.refusal world), { world with log := world.log ++ events }) ∧
      ∀ event ∈ events, ∃ typeId, event = .identifierRejected typeId := by
  have hNothing : { world with log := world.log ++ [] } = world := by rw [List.append_nil]
  rw [outcome, refusal]
  cases hRequest : call.request world with
  | error error =>
    have hConsume : call.consume world = world := by
      cases call <;> first | rfl | cases hNeeds
    exact ⟨[], by rw [hNothing]; exact congrArg (Prod.mk _) hConsume, List.forall_mem_nil _⟩
  | ok request =>
    cases needsRegistry_request hNeeds hRequest with
    | register wrapper =>
      dsimp only
      rw [Request.run, run_bind, run_register_of_poisoned hPoisoned]
      cases hEvent : Registry.insertEvent wrapper (.error wrapper.attempt.refusal) with
      | none => exact ⟨[], by rw [hNothing]; rfl, List.forall_mem_nil _⟩
      | some event =>
        refine ⟨[event], rfl, fun other hOther => ?_⟩
        obtain rfl := List.mem_singleton.mp hOther
        revert hEvent
        rw [PointerWrapper.attempt]
        cases isIdentifier wrapper.typeId with
        | true =>
          intro hEvent
          cases hEvent
        | false =>
          intro hEvent
          exact ⟨wrapper.typeId, (Option.some.inj hEvent).symm⟩
    | toHost typeId pointer =>
      refine ⟨[], ?_, List.forall_mem_nil _⟩
      dsimp only
      rw [Request.run, run_bind, run_toHost_of_poisoned hPoisoned, hNothing]
    | fromHost typeId value =>
      refine ⟨[], ?_, List.forall_mem_nil _⟩
      dsimp only
      rw [Request.run, run_bind, run_fromHost_of_poisoned hPoisoned, hNothing]

end Export.Call

/-- What a world is to everyone whose registry is poisoned. -/
structure World.FailsClosed (world : World) : Prop where
  /-- Who registers is refused, and nothing changes; an improper identifier is logged. -/
  registers : ∀ wrapper : PointerWrapper, (register wrapper).run.run world =
    (.error wrapper.attempt.refusal,
      world.note (Registry.insertEvent wrapper (.error wrapper.attempt.refusal)))
  /-- No converter runs and nothing changes. -/
  toHost : ∀ typeId pointer,
    (HeapBridge.toHost typeId pointer).run.run world = (.error .poisoned, world)
  fromHost : ∀ typeId value,
    (HeapBridge.fromHost typeId value).run.run world = (.error .poisoned, world)
  /-- An encoding that stands for no identifier is found to do so before. -/
  encodings : ∀ signature pointer value,
    let error : BridgeError := if (TypeEncoding.identifier? signature).isSome then .poisoned
      else .unknownType signature
    (toHostFor signature pointer).run.run world = (.error error, world) ∧
      (fromHostFor signature value).run.run world = (.error error, world)
  /-- A call from outside that registers or converts fails with what it is refused for as the last error. -/
  exported : ∀ thread (call : Export.Call), call.needsRegistry = true → ∃ events,
    (call.perform thread).run world = (call.failed,
      { world with log := world.log ++ events }.setLastError thread (call.refusal world).message) ∧
      (∀ event ∈ events, ∃ typeId, event = .identifierRejected typeId)
  /-- The listing fails, and who only asks is told that there is nothing. -/
  typeIds : world.registry.typeIds = .error .poisoned
  has : ∀ typeId, world.hasWrapper typeId = false
  describes : ∀ signature, world.describe signature = none
  asked : ∀ thread text,
    ((Export.Call.hasWrapper text).perform thread).run world =
        (.status 0, world.clearLastError thread) ∧
      ((Export.Call.describe text).perform thread).run world = (.text none,
        match readText text with
        | .ok _ => world.clearLastError thread
        | .error error => world.setLastError thread error.message)
  /-- Who asks for the built-in wrappers is told what came of the first time, if there was one. -/
  installs : installBuiltins.run.run world =
    match world.registry.builtins with
    | some outcome => (outcome, world)
    | none => (.error .poisoned,
        { world with registry := { world.registry with builtins := some (.error .poisoned) } })

/-- A poisoned registry fails closed, whatever the state is. -/
theorem World.failsClosed (hPoisoned : world.registry.poisoned = true) : world.FailsClosed where
  registers := run_register_of_poisoned hPoisoned
  toHost := run_toHost_of_poisoned hPoisoned
  fromHost := run_fromHost_of_poisoned hPoisoned
  encodings signature pointer value := by
    rw [toHostFor, fromHostFor, run_bind, run_bind, run_identifierOf]
    cases TypeEncoding.identifier? signature with
    | none => exact ⟨rfl, rfl⟩
    | some typeId => exact ⟨run_toHost_of_poisoned hPoisoned _ _, run_fromHost_of_poisoned hPoisoned _ _⟩
  exported thread call hNeeds := by
    obtain ⟨events, hOutcome, hEvents⟩ := Export.Call.outcome_of_poisoned hNeeds hPoisoned
    refine ⟨events, ?_, hEvents⟩
    rw [Export.Call.run_perform, hOutcome]
    rfl
  typeIds := if_pos hPoisoned
  has := hasWrapper_of_poisoned hPoisoned
  describes := describe_of_poisoned hPoisoned
  asked thread text := by
    rw [Export.Call.run_perform, Export.Call.run_perform]
    constructor
    · have hOutcome : (Export.Call.hasWrapper text).outcome world = (.ok (.truth false), world) := by
        change ((Except.ok (Export.Outcome.truth ((readText text).toOption.elim false world.hasWrapper)),
          world) : Except BridgeError Export.Outcome × World) = _
        cases (readText text).toOption with
        | none => rfl
        | some typeId => rw [Option.elim, hasWrapper_of_poisoned hPoisoned]
      rw [hOutcome]
      rfl
    · rw [Export.Call.outcome, Export.Call.request]
      cases readText text with
      | error error => rfl
      | ok signature =>
        have hRun : (Export.Request.describe signature).run.run.run world = (.ok (.name none), world) := by
          change ((Except.ok (Export.Outcome.name (world.describe signature)), world) :
            Except BridgeError Export.Outcome × World) = _
          rw [describe_of_poisoned hPoisoned]
        dsimp only [bind, Except.bind, pure, Except.pure]
        rw [hRun]
        rfl
  installs := run_installBuiltins_of_poisoned hPoisoned

end HeapBridge
