import HeapBridge.Proofs.Boundary.Refinement
import HeapBridge.Proofs.Registration.Bindings
/-!
Attempts to register. Whoever makes an attempt, and by whatever way in, is told by the first attempts alone
what comes of it: the wrapper is bound, or the attempt is rejected and the registry stays as it is.
Installing the built-in wrappers and converters that register types are attempts in a row.
-/
namespace HeapBridge

open Host (Ref)

variable {world before after : World} {history attempts others : List Attempt} {typeId : String}
  {wrapper : PointerWrapper}

/-- From one world to another, these attempts are made in this order, and nothing else that concerns the
registry. -/
def Registers (attempts : List Attempt) (before after : World) : Prop :=
  ∀ history, before.registry.Serves (.first history) →
    after.registry.Serves (.first (history ++ attempts))

namespace Registers

theorem of_eq (hRegistry : after.registry = before.registry) : Registers [] before after := by
  intro history hServes
  rwa [List.append_nil, hRegistry]

theorem trans {middle : World} (hFirst : Registers attempts before middle)
    (hSecond : Registers others middle after) : Registers (attempts ++ others) before after := by
  intro history hServes
  rw [← List.append_assoc]
  exact hSecond _ (hFirst history hServes)

/-- What does not concern the registry may come before. -/
theorem of_before {middle : World} (hRegistry : middle.registry = before.registry)
    (hSecond : Registers attempts middle after) : Registers attempts before after :=
  fun history hServes => hSecond history (hRegistry ▸ hServes)

/-- What does not concern the registry may follow. -/
theorem of_after {middle : World} (hFirst : Registers attempts before middle)
    (hRegistry : after.registry = middle.registry) : Registers attempts before after :=
  fun history hServes => hRegistry ▸ hFirst history hServes

end Registers

def Registry.settle (registry : Registry) (wrapper : PointerWrapper) (verdict : Except BridgeError Unit) :
    Registry :=
  if verdict.isOk then registry.push wrapper else registry

theorem Registry.settle_of_error {registry : Registry} {verdict : Except BridgeError Unit}
    {error : BridgeError} (hVerdict : verdict = .error error) :
    registry.settle wrapper verdict = registry := by
  rw [hVerdict]
  rfl

/-- A registry that serves the first bindings serves them after one more attempt, whatever the verdict. -/
theorem Registry.Serves.settle {registry : Registry} (hServes : registry.Serves (.first history))
    (wrapper : PointerWrapper) :
    (registry.settle wrapper ((Bindings.first history).verdict wrapper.attempt)).Serves
      (.first (history ++ [wrapper.attempt])) := by
  rw [← Bindings.bind_first]
  cases hVerdict : (Bindings.first history).verdict wrapper.attempt with
  | ok => exact hServes.push hVerdict
  | error error =>
    rw [settle_of_error rfl, Bindings.bind_of_verdict hVerdict]
    exact hServes

/-- A registration comes to its verdict, and logs it. -/
theorem run_register (hServes : world.registry.Serves (.first history)) (wrapper : PointerWrapper) :
    (register wrapper).run.run world =
      ((Bindings.first history).verdict wrapper.attempt,
        { world.note (Registry.insertEvent wrapper (world.registry.insert wrapper)) with
          registry := world.registry.settle wrapper
            ((Bindings.first history).verdict wrapper.attempt) }) := by
  have hInsert := hServes.insert wrapper
  rw [register, run_get, run_bind]
  cases hVerdict : (Bindings.first history).verdict wrapper.attempt with
  | ok =>
    rw [hVerdict] at hInsert
    rw [hInsert]
    rfl
  | error error =>
    rw [hVerdict] at hInsert
    rw [hInsert, Registry.settle_of_error rfl]
    cases Registry.insertEvent wrapper _ <;> rfl

theorem registers_register (wrapper : PointerWrapper) (world : World) :
    Registers [wrapper.attempt] world ((register wrapper).run.run world).2 := by
  intro history hServes
  rw [run_register hServes]
  exact hServes.settle wrapper

/-- The attempts that an installation of the built-in wrappers makes. Only the first one makes any. -/
def Registry.installs (registry : Registry) : List Attempt :=
  match registry.builtins with
  | some _ => []
  | none => builtinWrappers.map (·.attempt)

/-- Duplicates are all that can go wrong when well-formed wrappers are registered. -/
theorem run_registerAll {wrappers : List PointerWrapper}
    (hWell : ∀ wrapper ∈ wrappers, isIdentifier wrapper.typeId = true)
    (hServes : world.registry.Serves (.first history)) :
    ∃ outcomes after, (registerAll wrappers).run.run world = (.ok outcomes, after) ∧
      firstFailure? outcomes = none ∧
        after.registry.Serves (.first (history ++ wrappers.map (·.attempt))) := by
  induction wrappers generalizing history world with
  | nil =>
    refine ⟨[], world, rfl, rfl, ?_⟩
    rwa [List.map_nil, List.append_nil]
  | cons wrapper rest ih =>
    have hFirst := registers_register wrapper world history hServes
    obtain ⟨outcomes, after, hRun, hNone, hAfter⟩ :=
      ih (fun other hOther => hWell other (List.mem_cons_of_mem _ hOther)) hFirst
    have hVerdict : firstFailure? (((register wrapper).run.run world).1 :: outcomes) = none := by
      have hAttempt : wrapper.attempt = .ok wrapper := if_pos (hWell wrapper List.mem_cons_self)
      rw [run_register hServes, hAttempt, Bindings.verdict]
      cases Bindings.first history wrapper.typeId <;> exact hNone
    refine ⟨_, after, ?_, hVerdict, by simpa using hAfter⟩
    rw [registerAll, run_bind, run_attempt]
    dsimp only
    rw [run_bind, hRun]
    rfl

/-- Installing the built-in wrappers puts up with duplicates, so it never fails. -/
theorem run_installBuiltins (hServes : world.registry.Serves (.first history)) :
    ∃ after, installBuiltins.run.run world = (.ok (), after) ∧
      after.registry.Serves (.first (history ++ world.registry.installs)) := by
  cases hBuiltins : world.registry.builtins with
  | some outcome =>
    obtain rfl := hServes.installed outcome hBuiltins
    refine ⟨world, ?_, ?_⟩
    · rw [installBuiltins, run_get, hBuiltins]
      rfl
    · rwa [Registry.installs, hBuiltins, List.append_nil]
  | none =>
    have hWell : ∀ wrapper ∈ builtinWrappers, isIdentifier wrapper.typeId = true := by decide
    obtain ⟨outcomes, after, hRun, hNone, hAfter⟩ := run_registerAll hWell hServes
    have hOutcome : installation outcomes = .ok () := by rw [installation, hNone]
    let installed : World := after.emit .builtinsInstalled
    have hInstalled : installBuiltins.run.run world = (.ok (), { installed with
        registry := { after.registry with builtins := some (.ok ()) } }) := by
      rw [installBuiltins, run_get, hBuiltins]
      dsimp only
      rw [run_bind, installFirst, run_bind, hRun]
      dsimp only
      rw [hOutcome]
      rfl
    refine ⟨_, hInstalled, ?_⟩
    rw [Registry.installs, hBuiltins]
    exact ⟨hAfter.alive, hAfter.distinct, hAfter.bound,
      fun _ hSame => (Option.some.inj hSame).symm⟩

theorem registers_installBuiltins (world : World) :
    Registers world.registry.installs world (installBuiltins.run.run world).2 := by
  intro history hServes
  obtain ⟨after, hRun, hAfter⟩ := run_installBuiltins hServes
  rwa [hRun]

/-- The attempts that a converter makes: it may register another type. -/
def ToHost.nested : ToHost → List Attempt
  | .register inner => [(PointerWrapper.borrowing inner "Nested").attempt]
  | _ => []

/-- The attempts that a conversion to a host value makes. -/
def Registry.nested (registry : Registry) (typeId : String) : List Attempt :=
  match registry.lookup typeId with
  | .ok wrapper => wrapper.toHost.nested
  | .error _ => []

/-- What neither registers nor installs nor poisons leaves the registry alone. -/
theorem Moves.registry_eq {may : Deed → Prop} {start finish : Account} (moves : Moves may start finish)
    (hMay : ∀ deed, may deed → (∃ handle, deed = .handle handle) ∨ ∃ number, deed = .cursor number) :
    finish.world.registry = start.world.registry := by
  induction moves with
  | refl => rfl
  | step _ last ih =>
    refine Eq.trans ?_ ih
    cases last with
    | host change => exact change.cursors_registry.2
    | drop address _ => exact (World.aside_dropNative address _).2.2
    | register _ hDeed | builtins hDeed | poison hDeed =>
      rcases hMay _ hDeed with ⟨_, hNot⟩ | ⟨_, hNot⟩ <;> cases hNot
    | _ => rfl

/-- Someone can own what a pointer leads to. -/
theorem Pointer.exists_keptIn (pointer : Pointer) (world : World) :
    ∃ owners, pointer.KeptIn ⟨owners, world⟩ := by
  cases pointer with
  | native address =>
    refine ⟨{.reference address}, fun other hSame => .inl ?_⟩
    obtain rfl := Pointer.native.inj hSame
    exact Multiset.mem_singleton_self _
  | _ => exact ⟨0, nofun⟩

/-- A converter attempts the registrations nested in it and no others. -/
theorem registers_converter (converter : ToHost) (typeId : String) (pointer : Pointer) (world : World) :
    Registers converter.nested world ((converter.run typeId pointer).run.run world).2 := by
  by_cases hRegister : ∃ inner, converter = .register inner
  · obtain ⟨inner, rfl⟩ := hRegister
    refine (registers_register (.borrowing inner "Nested") world).of_after ?_
    rw [ToHost.run, run_bind, run_tryCatch, run_bind]
    rcases (register (.borrowing inner "Nested")).run.run world with ⟨error | _, after⟩ <;> rfl
  · have hNone : converter.nested = [] := by
      cases converter with
      | register inner => exact absurd ⟨inner, rfl⟩ hRegister
      | _ => rfl
    obtain ⟨owners, hKept⟩ := pointer.exists_keptIn world
    let wrapper : PointerWrapper := ⟨typeId, "", converter, .object⟩
    have hMoves : Transfers (fun deed => ∃ handle, deed = .handle handle) (.ofNative owners) world 0
        (wrapper.toHost.run typeId pointer) fun _ => 0 := by
      refine wrapper.transfers_run (fun deed hConverts => ?_) hKept typeId
      cases deed with
      | handle handle => exact ⟨handle, rfl⟩
      | registration wrapper =>
        obtain ⟨inner, hSame, _⟩ := hConverts
        exact absurd ⟨inner, hSame⟩ hRegister
      | _ => exact hConverts.elim
    rw [hNone]
    exact .of_eq ((Steps.moves hMoves).registry_eq fun _ hHandle => .inl hHandle)

/-- A conversion attempts what the converter attempts that it finds. -/
theorem registers_toHost (typeId : String) (pointer : Pointer) (world : World) :
    Registers (world.registry.nested typeId) world ((toHost typeId pointer).run.run world).2 := by
  rw [Registry.nested, toHost, run_bind, run_lookup]
  cases hLookup : world.registry.lookup typeId with
  | error error => exact .of_eq rfl
  | ok wrapper =>
    refine (registers_converter wrapper.toHost typeId pointer world).of_after ?_
    dsimp only
    rw [run_bind]
    rcases (wrapper.toHost.run typeId pointer).run.run world with ⟨error | ref, after⟩ <;> rfl

/-- The attempts of a conversion whose type is given by an encoding. -/
def Registry.nestedFor (registry : Registry) (signature : String) : List Attempt :=
  (TypeEncoding.identifier? signature).elim [] registry.nested

theorem registers_toHostFor (signature : String) (pointer : Pointer) (world : World) :
    Registers (world.registry.nestedFor signature) world
      ((toHostFor signature pointer).run.run world).2 := by
  rw [Registry.nestedFor, toHostFor, identifierOf, run_bind]
  cases TypeEncoding.identifier? signature with
  | none => exact .of_eq rfl
  | some typeId => exact registers_toHost typeId pointer world

namespace Export

/-- The attempt that a call makes, if it is one to register. Its arguments are looked at in order. -/
def Call.attempt? : Call → Option Attempt
  | .register typeId name outward inward => some do
    let typeId ← readText typeId
    let name ← readText name
    let (outward, inward) ← converters typeId outward inward
    PointerWrapper.attempt { typeId, name, toHost := outward, fromHost := inward }
  | .registerCounted typeId name => some do
    let typeId ← readText typeId
    PointerWrapper.attempt (.owning typeId (← readText name) .nativeObject)
  | .registerFramework typeId => some do PointerWrapper.attempt (.framework (← readText typeId))
  | _ => none

/-- A call that is one to register asks for the registration of a wrapper, or is rejected for what is
wrong with its arguments. -/
theorem Call.request_of_attempt? {call : Call} {attempt : Attempt}
    (hAttempt : call.attempt? = some attempt) (world : World) :
    (∃ wrapper, call.request world = .ok (.register wrapper) ∧ attempt = wrapper.attempt) ∨
      ∃ error, call.request world = .error error ∧ attempt = .error error ∧
        call.consume world = world := by
  cases call with
  | register typeId name outward inward =>
    obtain rfl := Option.some.inj hAttempt
    dsimp only [request]
    cases readText typeId with
    | error error => exact .inr ⟨error, rfl, rfl, rfl⟩
    | ok typeId =>
      cases readText name with
      | error error => exact .inr ⟨error, rfl, rfl, rfl⟩
      | ok name =>
        dsimp only [Bind.bind, Except.bind]
        rcases converters typeId outward inward with error | ⟨outward, inward⟩
        · exact .inr ⟨error, rfl, rfl, rfl⟩
        · exact .inl ⟨_, rfl, rfl⟩
  | registerCounted typeId name =>
    obtain rfl := Option.some.inj hAttempt
    dsimp only [request]
    cases readText typeId with
    | error error => exact .inr ⟨error, rfl, rfl, rfl⟩
    | ok typeId =>
      cases readText name with
      | error error => exact .inr ⟨error, rfl, rfl, rfl⟩
      | ok name => exact .inl ⟨_, rfl, rfl⟩
  | registerFramework typeId =>
    obtain rfl := Option.some.inj hAttempt
    dsimp only [request]
    cases readText typeId with
    | error error => exact .inr ⟨error, rfl, rfl, rfl⟩
    | ok typeId => exact .inl ⟨_, rfl, rfl⟩
  | _ => cases hAttempt

/-- Leaving a call does not touch the registry. -/
theorem registry_leave (thread : Thread) (outcome : Except BridgeError Outcome) (world : World) :
    (leave thread outcome world).registry = world.registry := by
  have hError (text : String) : (world.setLastError thread text).registry = world.registry := by
    unfold World.setLastError
    dsimp only
    split <;> rfl
  rcases outcome with error | outcome
  · exact hError error.message
  · cases outcome with
    | element ref => cases ref <;> rfl
    | name text => cases text <;> rfl
    | _ => rfl

/-- A call that is one to register comes to the verdict on its attempt, and tells it. -/
theorem Call.run_attempt {call : Call} {attempt : Attempt} (hAttempt : call.attempt? = some attempt)
    (hServes : world.registry.Serves (.first history)) (thread : Thread) :
    ∃ after, (call.perform thread).run world =
        (.status (if ((Bindings.first history).verdict attempt).isOk then 0 else -1),
          leave thread (((Bindings.first history).verdict attempt).map fun _ => .done) after) ∧
      after.registry.Serves (.first (history ++ [attempt])) ∧
        ∀ error, (Bindings.first history).verdict attempt = .error error →
          after.registry = world.registry := by
  have hFailed : call.failed = .status (-1) := by cases call <;> first | rfl | cases hAttempt
  rw [Call.run_perform]
  rcases call.request_of_attempt? hAttempt world with
    ⟨wrapper, hRequest, rfl⟩ | ⟨error, hRequest, rfl, hConsume⟩
  · have hOutcome : call.outcome world =
        (((Bindings.first history).verdict wrapper.attempt).map fun _ => .done,
          ((HeapBridge.register wrapper).run.run world).2) := by
      rw [outcome, hRequest]
      dsimp only
      rw [Request.run, run_bind, run_register hServes]
      cases (Bindings.first history).verdict wrapper.attempt <;> rfl
    rw [hOutcome]
    refine ⟨_, ?_, registers_register wrapper world history hServes, fun error hError => ?_⟩
    · cases (Bindings.first history).verdict wrapper.attempt with
      | ok => rfl
      | error error => exact congrArg (Prod.mk · _) hFailed
    · rw [run_register hServes]
      exact Registry.settle_of_error hError
  · have hOutcome : call.outcome world = (.error error, world) := by
      rw [outcome, hRequest]
      exact congrArg (Prod.mk _) hConsume
    rw [hOutcome]
    refine ⟨world, congrArg (Prod.mk · _) hFailed, ?_, fun _ _ => rfl⟩
    rw [← Bindings.bind_first, Bindings.bind]
    exact hServes

end Export

end HeapBridge
