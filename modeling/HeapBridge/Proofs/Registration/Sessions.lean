import HeapBridge.Proofs.Ownership.Conservation
import HeapBridge.Proofs.Registration.Attempts
/-!
Registration over whole sessions. The commands of a session make attempts one after the other, some of them
from within a conversion; whatever else the commands do leaves the registry alone. So as long as no writer
dies, what is bound is what the first well-formed attempts have bound, and everything that looks at the
registry goes by that.
-/
namespace HeapBridge

open Host (Ref)
open Session

variable {α β : Type} {session : Session} {made : List Attempt} {command : Command}

def WrapperCommand.attempts (session : Session) : WrapperCommand → List Attempt
  | .register typeId name outward inward =>
    match ((makeToHost outward).run.run session).1 with
    | .ok converter => [PointerWrapper.attempt ⟨typeId, name, converter, inward⟩]
    | .error _ => []
  | .registerBorrowing typeId name => [(PointerWrapper.borrowing typeId name).attempt]
  | .registerOwning typeId name discipline =>
    [(PointerWrapper.owning typeId name discipline).attempt]
  | .registerFramework typeId => [(PointerWrapper.framework typeId).attempt]
  | .installBuiltins => session.world.registry.installs
  | .toHost typeId pointer _ =>
    (session.written? pointer).elim [] fun _ => session.world.registry.nested typeId
  | .toHostFor signature pointer _ =>
    (session.written? pointer).elim [] fun _ => session.world.registry.nestedFor signature
  | _ => []

/-- The attempts that a call of an exported function makes in a session, once its object is found. -/
def ExportCommand.attempts (session : Session) : ExportCommand → List Attempt
  | .init => session.world.registry.installs
  | .register typeId name outward inward =>
    (Export.Call.register typeId name outward inward).attempt?.toList
  | .registerCounted typeId name => (Export.Call.registerCounted typeId name).attempt?.toList
  | .registerFramework typeId => (Export.Call.registerFramework typeId).attempt?.toList
  | .toHost typeId pointer _ =>
    (session.written? pointer).elim [] fun _ =>
      (readText typeId).toOption.elim [] session.world.registry.nested
  | _ => []

def Command.attempts (session : Session) : Command → List Attempt
  | .wrapper command => command.attempts session
  | .exported call =>
    match ((objectArgument call.object).run.run session).1 with
    | .ok _ => call.command.attempts session
    | .error _ => []
  | _ => []

/-- Whether a command is the death of a writer. -/
def Command.isPoison : Command → Bool
  | .wrapper (.poison _) => true
  | _ => false

namespace Session

def attempts : List Command → Session → List Attempt
  | [], _ => []
  | command :: rest, session =>
    command.attempts session ++ attempts rest (perform command session).2

def Makes (made : List Attempt) (session : Session) (operation : SessionM α) : Prop :=
  Registers made session.world (operation.run.run session).2.world

/-- An operation that needs nothing on demand leaves the registry alone. -/
theorem registry_run {operation : SessionM α} {taken : Estate} {given : α → Estate}
    (hOperation : Transfers (fun _ => False) 0 session taken operation given) :
    (operation.run.run session).2.world.registry = session.world.registry :=
  (Steps.moves hOperation).registry_eq fun _ hNever => hNever.elim

namespace Makes

theorem bridge {operation : BridgeM α}
    (hOperation : Registers made session.world (operation.run.run session.world).2) :
    Makes made session (bridge operation) := by
  rw [Makes, run_bridge]
  exact hOperation

theorem exported {function : Export.ExportM α}
    (hFunction : Registers made session.world (function.run session.world).2) :
    Makes made session (exported function) :=
  hFunction

/-- What follows an operation that makes attempts makes none. -/
theorem bind {operation : SessionM α} {next : α → SessionM β}
    {taken : α → Estate} (hOperation : Makes made session operation)
    (hNext : ∀ value after, Transfers (fun _ => False) 0 after (taken value) (next value) fun _ => 0) :
    Makes made session (operation >>= next) := by
  unfold Makes at hOperation ⊢
  rw [run_bind]
  rcases hRun : operation.run.run session with ⟨failure | value, after⟩ <;> rw [hRun] at hOperation
  · exact hOperation
  · exact hOperation.of_after (registry_run (hNext value after))

end Makes

end Session

/-- A call that registers makes its attempt. -/
theorem Export.Call.registers_perform {call : Export.Call} {attempt : Attempt}
    (hAttempt : call.attempt? = some attempt) (thread : Thread) (world : World) :
    Registers [attempt] world ((call.perform thread).run world).2 := by
  intro history hServes
  obtain ⟨after, hRun, hAfter, _⟩ := Call.run_attempt hAttempt hServes thread
  rw [hRun]
  dsimp only
  rwa [registry_leave]

/-- A call comes to what its request does, as far as the registry is concerned. -/
theorem Export.Call.registers_outcome {call : Export.Call}
    {world : World} (hOutcome : Registers made world (call.outcome world).2) (thread : Thread) :
    Registers made world ((call.perform thread).run world).2 := by
  rw [Call.run_perform]
  exact hOutcome.of_after (registry_leave thread _ _)

/-- Initialising attempts all that is not installed yet. -/
theorem Export.registers_init (thread : Thread) (world : World) :
    Registers world.registry.installs world ((Export.init thread).run world).2 := by
  have hOutcome : Registers world.registry.installs world (Call.init.outcome world).2 := by
    refine (registers_installBuiltins world).of_after ?_
    rw [Call.outcome, Call.request]
    dsimp only
    rw [Request.run, run_bind]
    rcases installBuiltins.run.run world with ⟨error | _, after⟩ <;> rfl
  exact Call.registers_outcome hOutcome thread

/-- A text that cannot be read is refused before any converter runs. -/
theorem Export.registers_toHost (typeId : TextArgument) (pointer : Pointer) (thread : Thread)
    (world : World) :
    Registers ((readText typeId).toOption.elim [] world.registry.nested) world
      ((Export.toHost thread typeId pointer).run world).2 := by
  have hOutcome : Registers ((readText typeId).toOption.elim [] world.registry.nested) world
      ((Call.toHost typeId pointer).outcome world).2 := by
    rw [Call.outcome, Call.request]
    cases readText typeId with
    | error error => exact .of_eq rfl
    | ok text =>
      refine (HeapBridge.registers_toHost text pointer world).of_after ?_
      change ((Request.toHost text pointer).run.run.run world).2.registry = _
      rw [Request.run, run_bind]
      rcases (HeapBridge.toHost text pointer).run.run world with ⟨error | ref, after⟩ <;> rfl
  exact Call.registers_outcome hOutcome thread

/-- A command that may neither register nor install nor poison leaves the registry alone. -/
theorem Command.registry_run (command : Command) (session : Session)
    (hMay : ∀ deed, command.May session deed →
      (∃ handle, deed = .handle handle) ∨ ∃ number, deed = .cursor number) :
    (command.run.run.run session).2.world.registry = session.world.registry := by
  obtain ⟨start, finish, hStart, hFinish, hMoves⟩ := Command.exists_moves command session
  have hSame := hMoves.registry_eq hMay
  have hForget : (command.forget session.world).registry = session.world.registry := by
    unfold Command.forget
    split <;> rfl
  rw [hStart, hFinish] at hSame
  rw [hSame, hForget]

/-- A command on pointers makes its attempts and no other. -/
theorem WrapperCommand.makes_run (command : WrapperCommand)
    (hAlive : Command.isPoison (.wrapper command) = false) :
    Makes (command.attempts session) session command.run := by
  have hOther (hMay : ∀ deed, command.May session deed → ∃ handle, deed = .handle handle) :
      Makes [] session command.run :=
    .of_eq ((Command.wrapper command).registry_run session fun deed hDeed => .inl (hMay deed hDeed))
  have hRegister (wrapper : PointerWrapper) (session : Session) :
      Makes [wrapper.attempt] session (registerWrapper wrapper) :=
    (Makes.bridge (registers_register wrapper session.world)).bind fun _ _ => .pure rfl
  have hConverts {conversion : Pointer → BridgeM Ref} {made : List Attempt} (pointer : PointerLiteral)
      (result : Option String)
      (hConversion : ∀ found, Registers made session.world
        ((conversion found).run.run session.world).2) :
      Makes ((session.written? pointer).elim [] fun _ => made) session (do
        let pointer ← makePointer pointer
        return Reply.form (← showOwned result (← bridge (conversion pointer)))) := by
    unfold Makes
    rw [run_bind, run_makePointer]
    cases session.written? pointer with
    | none => exact .of_eq rfl
    | some found =>
      exact (Makes.bridge (hConversion found)).bind fun ref _ =>
        .bind (transfers_showOwned result ref) fun _ _ _ => .pure rfl
  cases command with
  | register typeId name outward inward =>
    unfold Makes
    rw [WrapperCommand.run, WrapperCommand.attempts, run_bind]
    have hBefore := registry_run (neutral_makeToHost outward _ 0 session)
    rcases hRun : (makeToHost outward).run.run session with ⟨failure | converter, after⟩ <;>
      rw [hRun] at hBefore
    · exact .of_eq hBefore
    · exact .of_before hBefore (hRegister ⟨typeId, name, converter, inward⟩ after)
  | registerBorrowing typeId name => exact hRegister _ session
  | registerOwning typeId name discipline => exact hRegister _ session
  | registerFramework typeId => exact hRegister _ session
  | installBuiltins =>
    exact (Makes.bridge (registers_installBuiltins session.world)).bind fun _ _ => .pure rfl
  | toHost typeId pointer result =>
    exact hConverts pointer result fun found => registers_toHost typeId found session.world
  | toHostFor signature pointer result =>
    exact hConverts pointer result fun found => registers_toHostFor signature found session.world
  | poison typeId => cases hAlive
  | has | describe | typeIds | fromHost | fromHostFor | externalCalls | extractPointer =>
    exact hOther fun _ hNever => False.elim hNever
  | makeHandle typeId name pointer ownership result => exact hOther fun _ ⟨_, _, hHandle⟩ => ⟨_, hHandle⟩

/-- So does a call of an exported function. -/
theorem ExportCommand.makes_runOn (command : ExportCommand) (slot : Option String)
    (object : Pointer) (session : Session)
    (hFound : (objectArgument slot).run.run session = (.ok object, session)) :
    Makes (command.attempts session) session (command.runOn slot object) := by
  have hRegister (call : Export.Call) {attempt : Attempt} (hAttempt : call.attempt? = some attempt) :
      Registers call.attempt?.toList session.world ((call.perform thread).run session.world).2 := by
    rw [hAttempt]
    exact Export.Call.registers_perform hAttempt thread session.world
  have hOther (hMay : ∀ deed, command.May session deed → (∃ handle, deed = .handle handle) ∨
      ∃ number, deed = .cursor number) : Makes [] session (command.runOn slot object) := by
    have hRun := (Command.exported ⟨slot, command⟩).registry_run session hMay
    rw [Command.run, ExportCall.run, run_bind, hFound] at hRun
    exact .of_eq hRun
  cases command with
  | init =>
    exact (Makes.exported (Export.registers_init thread session.world)).bind fun _ => neutral_reply _ _ _
  | register typeId name outward inward =>
    exact (Makes.exported (hRegister (.register typeId name outward inward) rfl)).bind
      fun _ => neutral_reply _ _ _
  | registerCounted typeId name =>
    exact (Makes.exported (hRegister (.registerCounted typeId name) rfl)).bind
      fun _ => neutral_reply _ _ _
  | registerFramework typeId =>
    exact (Makes.exported (hRegister (.registerFramework typeId) rfl)).bind
      fun _ => neutral_reply _ _ _
  | toHost typeId pointer result =>
    unfold Makes
    rw [runOn, attempts, run_bind, run_makePointer]
    cases session.written? pointer with
    | none => exact .of_eq rfl
    | some found =>
      have hExported := Makes.exported (Export.registers_toHost typeId found thread session.world)
      refine @Makes.bind _ _ _ _ _ _ (fun ref => .ofHost (refClaims ref)) hExported fun ref after => ?_
      cases ref with
      | some ref => exact .bind (transfers_showOwned result ref) fun _ _ _ => neutral_reply _ _ _ _
      | none => exact neutral_reply _ _ _ after
  | setIterate | iteratorNext | iteratorFree =>
    refine hOther fun deed hMay => .inr ?_
    obtain ⟨iteration, _, hCursor⟩ := hMay
    exact ⟨iteration.number, hCursor⟩
  | _ => exact hOther fun _ hMay => False.elim hMay

/-- Every command but the death of a writer makes its attempts and no other. -/
theorem Command.makes_run (command : Command) (hAlive : command.isPoison = false) :
    Makes (command.attempts session) session command.run := by
  cases command with
  | wrapper command => exact command.makes_run hAlive
  | exported call =>
    have hSame := run_objectArgument_snd call.object session
    unfold Makes
    rw [Command.run, ExportCall.run, Command.attempts, run_bind]
    rcases hFound : (objectArgument call.object).run.run session with ⟨failure | object, after⟩ <;>
      rw [hFound] at hSame <;> obtain rfl := hSame
    · exact .of_eq rfl
    · exact call.command.makes_runOn call.object object after hFound
  | set command =>
    refine .of_eq ((Command.set command).registry_run session fun deed hMay => .inr ?_)
    cases command with
    | collect slot =>
      obtain ⟨number, _, hCursor⟩ := hMay
      exact ⟨number, hCursor⟩
    | iterate | cursor | next | dropIteration =>
      obtain ⟨iteration, _, hCursor⟩ := hMay
      exact ⟨_, hCursor⟩
    | _ => exact False.elim hMay
  | host | value | object | record =>
    exact .of_eq (Command.registry_run _ session fun _ hNever => False.elim hNever)

/-- What the registry is to everyone who uses it after a history of attempts: a map in which the first
well-formed attempt for an identifier stands. -/
structure World.FirstWins (history : List Attempt) (world : World) : Prop where
  /-- An attempt comes to its verdict, and changes nothing if that is a rejection. -/
  registers : ∀ wrapper : PointerWrapper, ∃ after,
    (register wrapper).run.run world = ((Bindings.first history).verdict wrapper.attempt, after) ∧
      after.registry.Serves (.first (history ++ [wrapper.attempt])) ∧
        ∀ error, (Bindings.first history).verdict wrapper.attempt = .error error →
          after.registry = world.registry
  /-- So does an attempt by an exported function, which tells the verdict as its last error. -/
  exported : ∀ thread (call : Export.Call) attempt, call.attempt? = some attempt → ∃ after,
    (call.perform thread).run world =
        (.status (if ((Bindings.first history).verdict attempt).isOk then 0 else -1), after) ∧
      after.lastError? thread =
        Export.lastErrorOf (((Bindings.first history).verdict attempt).map fun _ => .done) ∧
      after.registry.Serves (.first (history ++ [attempt])) ∧
        ∀ error, (Bindings.first history).verdict attempt = .error error →
          after.registry = world.registry
  /-- Installing the built-in wrappers succeeds whatever is bound already. -/
  installs : ∃ after, installBuiltins.run.run world = (.ok (), after) ∧
    after.registry.Serves (.first (history ++ world.registry.installs))
  has : ∀ typeId, world.hasWrapper typeId = (Bindings.first history typeId).isSome
  describes : ∀ signature, world.describe signature =
    (TypeEncoding.identifier? signature).bind fun typeId =>
      (Bindings.first history typeId).map (·.name)
  /-- Conversions run the converters that are bound. -/
  toHost : ∀ typeId pointer, (HeapBridge.toHost typeId pointer).run.run world =
    match Bindings.first history typeId with
    | some wrapper => (do
        let ref ← wrapper.toHost.run typeId pointer
        modify (·.hold ref)
        return ref : BridgeM Ref).run.run world
    | none => (.error (.unknownType typeId), world)
  fromHost : ∀ typeId value, (HeapBridge.fromHost typeId value).run.run world =
    match Bindings.first history typeId with
    | some wrapper =>
      (BridgeM.host (.conversion typeId) (wrapper.fromHost.run value)).run.run world
    | none => (.error (.unknownType typeId), world)
  /-- An encoding stands for its identifier. -/
  encodings : ∀ signature pointer value,
    (toHostFor signature pointer).run.run world =
        (match TypeEncoding.identifier? signature with
          | some typeId => (HeapBridge.toHost typeId pointer).run.run world
          | none => (.error (.unknownType signature), world)) ∧
      (fromHostFor signature value).run.run world =
        match TypeEncoding.identifier? signature with
        | some typeId => (HeapBridge.fromHost typeId value).run.run world
        | none => (.error (.unknownType signature), world)
  /-- The listing is what is bound, in increasing order of the bytes. -/
  typeIds : ∃ ids, world.registry.typeIds = .ok ids ∧ ids.Pairwise BytesBelow ∧
    ∀ typeId, typeId ∈ ids ↔ (Bindings.first history typeId).isSome = true

/-- An encoding is read before the registry is asked. -/
theorem run_identifierOf (signature : String) (world : World) :
    (identifierOf signature).run.run world =
      (match TypeEncoding.identifier? signature with
        | some typeId => .ok typeId
        | none => .error (.unknownType signature), world) := by
  rw [identifierOf]
  cases TypeEncoding.identifier? signature <;> rfl

/-- A registry that serves what the first attempts have bound is used as such. -/
theorem Registry.Serves.firstWins {world : World} {history : List Attempt}
    (hServes : world.registry.Serves (.first history)) : world.FirstWins history where
  registers wrapper := by
    refine ⟨_, run_register hServes wrapper, hServes.settle wrapper, fun error hError => ?_⟩
    exact Registry.settle_of_error hError
  exported thread call attempt hAttempt := by
    obtain ⟨after, hRun, hAfter, hSame⟩ := Export.Call.run_attempt hAttempt hServes thread
    refine ⟨_, hRun, ?_, ?_, fun error hError => ?_⟩
    · cases (Bindings.first history).verdict attempt with
      | ok =>
        exact (World.lastError?_clearLastError thread thread _).trans (if_pos rfl)
      | error error => exact (World.lastError?_setLastError thread thread _ _).trans (if_pos rfl)
    · rwa [Export.registry_leave]
    · rw [Export.registry_leave, hSame error hError]
  installs := run_installBuiltins hServes
  has typeId := by
    rw [World.hasWrapper, hServes.lookup]
    cases Bindings.first history typeId <;> rfl
  describes signature := by
    rw [World.describe]
    cases TypeEncoding.identifier? signature with
    | none => rfl
    | some typeId =>
      dsimp only [Option.bind_some]
      rw [hServes.lookup]
      cases Bindings.first history typeId <;> rfl
  toHost typeId pointer := by
    rw [HeapBridge.toHost, run_bind, run_lookup, hServes.lookup]
    cases Bindings.first history typeId <;> rfl
  fromHost typeId value := by
    rw [HeapBridge.fromHost, run_bind, run_lookup, hServes.lookup]
    cases Bindings.first history typeId <;> rfl
  encodings signature pointer value := by
    rw [toHostFor, fromHostFor, run_bind, run_bind, run_identifierOf]
    cases TypeEncoding.identifier? signature <;> exact ⟨rfl, rfl⟩
  typeIds := hServes.typeIds

namespace Session

theorem registers_perform {command : Command} (hAlive : command.isPoison = false)
    (session : Session) :
    Registers (command.attempts session) session.world (perform command session).2.world := by
  rw [perform_snd]
  exact Registers.of_after (command.makes_run hAlive) (World.changes_settle _).cursors_registry.2

/-- Commands in a row make their attempts in a row. -/
theorem registers_performAll {commands : List Command}
    (hAlive : ∀ command ∈ commands, command.isPoison = false) (session : Session) :
    Registers (attempts commands session) session.world (performAll commands session).2.world := by
  induction commands generalizing session with
  | nil => exact .of_eq rfl
  | cons command rest ih =>
    exact (registers_perform (hAlive command List.mem_cons_self) session).trans
      (ih (fun other hOther => hAlive other (List.mem_cons_of_mem _ hOther)) _)

/-- In every session in which no writer dies, whatever else it does, the first well-formed attempt for an
identifier binds it: every other attempt is rejected for what is wrong with it and changes nothing, whatever
looks at the registry goes by the first ones, and what they have bound stays bound. -/
theorem registry_firstWins (commands : List Command)
    (hAlive : ∀ command ∈ commands, command.isPoison = false) :
    (performAll commands {}).2.world.FirstWins (attempts commands {}) ∧
      ∀ later : List Command, (∀ command ∈ later, command.isPoison = false) →
        ∀ typeId wrapper, Bindings.first (attempts commands {}) typeId = some wrapper →
          (performAll later (performAll commands {}).2).2.world.registry.lookup typeId =
            .ok wrapper := by
  have hServes := registers_performAll hAlive {} [] .empty
  rw [List.nil_append] at hServes
  refine ⟨hServes.firstWins, fun later hLater typeId wrapper hFirst => ?_⟩
  have hStill := registers_performAll hLater _ _ hServes
  rw [hStill.lookup, Bindings.first_append, hFirst]
  rfl

/-- An identifier that was registered from within a conversion and then once more. -/
def nestedRegistration : List Command :=
  [.wrapper (.register "T" "T" (.register "U") .number), .wrapper (.toHost "T" .null none),
    .wrapper (.registerOwning "U" "other" .nativeObject), .wrapper .installBuiltins]

theorem registry_firstWins_nestedRegistration :
    (∀ command ∈ nestedRegistration, command.isPoison = false) ∧
      (∀ command ∈ [Command.exported ⟨none, .init⟩], command.isPoison = false) ∧
      Bindings.first (attempts nestedRegistration {}) "U" = some (.borrowing "U" "Nested") ∧
      (performAll nestedRegistration {}).2.world.FirstWins (attempts nestedRegistration {}) ∧
      (performAll [.exported ⟨none, .init⟩] (performAll nestedRegistration {}).2).2.world.registry.lookup
        "U" = .ok (.borrowing "U" "Nested") := by
  have hAlive : ∀ command ∈ nestedRegistration, command.isPoison = false := by decide
  have hLater : ∀ command ∈ [Command.exported ⟨none, .init⟩], command.isPoison = false := by decide
  have hFirst : Bindings.first (attempts nestedRegistration {}) "U" =
      some (.borrowing "U" "Nested") := by
    decide +kernel
  obtain ⟨hWins, hStays⟩ := registry_firstWins nestedRegistration hAlive
  exact ⟨hAlive, hLater, hFirst, hWins, hStays _ hLater _ _ hFirst⟩

end Session

end HeapBridge
