import HeapBridge.Proofs.Registration.Poisoning
/-!
Installing the built-in wrappers. All of them are registered in one go, before anyone sees what came of it:
in a registry that works those that are missing are added and those that were registered before stay as
they are; in a poisoned one nothing is added. The first outcome is kept, and everyone who asks later is told
the same, with nothing being changed.
-/
namespace HeapBridge

open Session

variable {world : World} {session : Session} {registry : Registry} {wrappers : List PointerWrapper}

namespace Registry

def missing (registry : Registry) (wrappers : List PointerWrapper) : List PointerWrapper :=
  wrappers.filter fun wrapper => (registry.find? wrapper.typeId).isNone

/-- What installing the built-in wrappers comes to when it is tried first. -/
def outcome (registry : Registry) : Except BridgeError Unit :=
  if registry.poisoned then .error .poisoned else .ok ()

/-- The registry after the built-in wrappers were asked for first: all that were missing have been added,
or none. -/
def installed (registry : Registry) : Registry :=
  { registry with
    wrappers :=
      if registry.poisoned then registry.wrappers
      else registry.wrappers ++ registry.missing builtinWrappers
    builtins := some registry.outcome }

theorem find?_push_of_ne {wrapper : PointerWrapper} {typeId : String}
    (hOther : wrapper.typeId ≠ typeId) : (registry.push wrapper).find? typeId = registry.find? typeId := by
  simp [find?, push, List.find?_append, hOther]

/-- The registry after one well-formed wrapper was registered: it is added if it is missing. -/
def extended (registry : Registry) (wrapper : PointerWrapper) : Registry :=
  if (registry.find? wrapper.typeId).isSome then registry else registry.push wrapper

/-- Adding one wrapper adds the first of those that are missing. -/
theorem wrappers_extended {wrapper : PointerWrapper}
    (hNew : wrapper.typeId ∉ wrappers.map (·.typeId)) :
    (registry.extended wrapper).wrappers ++ (registry.extended wrapper).missing wrappers =
      registry.wrappers ++ registry.missing (wrapper :: wrappers) := by
  have hOthers : (registry.push wrapper).missing wrappers = registry.missing wrappers := by
    refine List.filter_congr fun other hOther => ?_
    have hDifferent : wrapper.typeId ≠ other.typeId := fun hSame =>
      hNew (hSame ▸ List.mem_map_of_mem hOther)
    rw [find?_push_of_ne hDifferent]
  rw [extended, missing, missing, List.filter_cons]
  cases registry.find? wrapper.typeId with
  | some bound => rfl
  | none =>
    rw [missing, missing] at hOthers
    simp only [Option.isSome_none, Bool.false_eq_true, if_false, Option.isNone_none, if_true, hOthers]
    rw [push, List.append_assoc]
    rfl

end Registry

/-- A well-formed wrapper that is registered in a registry that works is added if it is missing, and a
duplicate otherwise. -/
theorem run_register_of_alive {wrapper : PointerWrapper} (hAlive : world.registry.poisoned = false)
    (hWell : isIdentifier wrapper.typeId = true) :
    ∃ outcome after, (register wrapper).run.run world = (outcome, after) ∧
      (∀ others, firstFailure? (outcome :: others) = firstFailure? others) ∧
        after.registry = world.registry.extended wrapper := by
  rw [run_register_eq, Registry.insert, hWell, hAlive, Registry.extended]
  cases (world.registry.find? wrapper.typeId).isSome with
  | true => exact ⟨_, _, rfl, fun _ => rfl, rfl⟩
  | false => exact ⟨_, _, rfl, fun _ => rfl, rfl⟩

/-- Well-formed wrappers that are registered in a row in a registry that works are added as far as they
are missing. -/
theorem run_registerAll_of_alive (hAlive : world.registry.poisoned = false)
    (hWell : ∀ wrapper ∈ wrappers, isIdentifier wrapper.typeId = true)
    (hDistinct : (wrappers.map (·.typeId)).Nodup) :
    ∃ outcomes after, (registerAll wrappers).run.run world = (.ok outcomes, after) ∧
      firstFailure? outcomes = none ∧ after.registry = { world.registry with
        wrappers := world.registry.wrappers ++ world.registry.missing wrappers } := by
  induction wrappers generalizing world with
  | nil => exact ⟨[], world, rfl, rfl, by rw [Registry.missing, List.filter_nil, List.append_nil]⟩
  | cons wrapper rest ih =>
    obtain ⟨hNew, hDistinct⟩ := List.nodup_cons.mp hDistinct
    obtain ⟨hWellFirst, hWell⟩ := List.forall_mem_cons.mp hWell
    obtain ⟨outcome, middle, hRegister, hPasses, hMiddle⟩ := run_register_of_alive hAlive hWellFirst
    have hKeeps : middle.registry.poisoned = world.registry.poisoned ∧
        middle.registry.builtins = world.registry.builtins := by
      rw [hMiddle, Registry.extended]
      split <;> exact ⟨rfl, rfl⟩
    obtain ⟨outcomes, after, hRest, hNone, hAfter⟩ := ih (hKeeps.1.trans hAlive) hWell hDistinct
    refine ⟨outcome :: outcomes, after, ?_, (hPasses outcomes).trans hNone, ?_⟩
    · rw [registerAll, run_bind, run_attempt, hRegister]
      dsimp only
      rw [run_bind, hRest]
      rfl
    · rw [hAfter]
      dsimp only
      rw [hKeeps.1, hKeeps.2, hMiddle, Registry.wrappers_extended hNew]

/-- Who asks for the built-in wrappers first gets all of them or none. -/
theorem run_installBuiltins_first (hFirst : world.registry.builtins = none) :
    ∃ after, installBuiltins.run.run world = (world.registry.outcome, after) ∧
      after.registry = world.registry.installed := by
  rw [Registry.installed, Registry.outcome]
  cases hPoisoned : world.registry.poisoned with
  | true =>
    rw [run_installBuiltins_of_poisoned hPoisoned, hFirst, if_pos rfl, if_pos rfl]
    exact ⟨_, rfl, by rw [← hPoisoned]⟩
  | false =>
    have hWell : ∀ wrapper ∈ builtinWrappers, isIdentifier wrapper.typeId = true := by decide
    have hDistinct : (builtinWrappers.map (·.typeId)).Nodup := by decide
    rw [installBuiltins, run_get, hFirst]
    dsimp only
    rw [run_bind, installFirst, run_bind]
    obtain ⟨outcomes, after, hRun, hNone, hAfter⟩ := run_registerAll_of_alive hPoisoned hWell hDistinct
    have hInstallation : installation outcomes = .ok () := by rw [installation, hNone]
    rw [hRun, if_neg Bool.false_ne_true, if_neg Bool.false_ne_true]
    dsimp only
    rw [hInstallation]
    refine ⟨_, rfl, ?_⟩
    dsimp only [World.note, installationEvent, Option.elim, World.emit]
    rw [hAfter, hPoisoned]

/-- An exported call for the built-in wrappers tells what it comes to, and leaves the error behind. -/
theorem Export.run_init (thread : Thread) (world : World) :
    (init thread).run world =
      match installBuiltins.run.run world with
      | (.ok (), after) => (0, after.clearLastError thread)
      | (.error error, after) => (-1, after.setLastError thread error.message) := by
  have hUnaware : Unaware (do
      installBuiltins
      return 0 : BridgeM Int) := .bind unaware_installBuiltins fun _ => .pure
  rw [init, status, run_guarded_of_unaware hUnaware, run_bind]
  rcases installBuiltins.run.run world with ⟨error | _, after⟩ <;> rfl

/-- Whether a command asks for the built-in wrappers in a session. A call on an object that is not there is
not made. -/
def Command.isInstallation (session : Session) : Command → Bool
  | .wrapper .installBuiltins => true
  | .exported ⟨slot, .init⟩ => slot.all fun name => (session.objects.get? name).isSome
  | _ => false

/-- The last error after an exported call for the built-in wrappers. -/
def installationError (outcome : Except BridgeError Unit) : Option String :=
  Export.lastErrorOf (outcome.map fun _ => .done)

def Command.told (outcome : Except BridgeError Unit) : Command → Reply
  | .exported _ =>
    .exported (.status (if outcome.isOk then 0 else -1)) (installationError outcome)
  | _ =>
    match outcome with
    | .ok () => .done
    | .error error => .failed (.bridge error)

/-- An installation that has failed is told to each thread that asks for it. -/
theorem Export.lastError?_init (thread : Thread) (world : World) :
    ((init thread).run world).2.lastError? thread =
      installationError (installBuiltins.run.run world).1 := by
  rw [run_init]
  rcases installBuiltins.run.run world with ⟨error | _, after⟩
  · exact (World.lastError?_setLastError thread thread _ after).trans (if_pos rfl)
  · exact (World.lastError?_clearLastError thread thread after).trans (if_pos rfl)

/-- A command that asks for the built-in wrappers tells what it comes to, and does nothing else but to
leave an error behind. -/
theorem Command.run_of_isInstallation {command : Command}
    (hAsks : command.isInstallation session = true) :
    Session.outcome (command.run.run.run session).1 =
        command.told (installBuiltins.run.run session.world).1 ∧
      ∃ world, (installBuiltins.run.run session.world).2.Agrees world ∧
        (command.run.run.run session).2 = { session with world } := by
  cases command with
  | wrapper command =>
    cases command with
    | installBuiltins =>
      rw [Command.run, WrapperCommand.run, run_bind, run_bridge]
      rcases HeapBridge.installBuiltins.run.run session.world with ⟨error | _, after⟩ <;>
        exact ⟨rfl, _, .refl _, rfl⟩
    | _ => cases hAsks
  | exported call =>
    obtain ⟨slot, command⟩ := call
    cases command with
    | init =>
      have hFound : ∃ object, (objectArgument slot).run.run session = (.ok object, session) := by
        cases slot with
        | none => exact ⟨_, rfl⟩
        | some name =>
          obtain ⟨content, hContent⟩ := Option.isSome_iff_exists.mp hAsks
          refine ⟨.native content.address, ?_⟩
          rw [objectArgument, run_bind, run_content, hContent]
          rfl
      obtain ⟨object, hObject⟩ := hFound
      have hRun : ((Command.exported ⟨slot, .init⟩).run).run.run session =
          (.ok (.exported (.status ((Export.init thread).run session.world).1)
            (((Export.init thread).run session.world).2.lastError? thread)),
            { session with world := ((Export.init thread).run session.world).2 }) := by
        rw [Command.run, ExportCall.run, run_bind, hObject]
        rfl
      rw [hRun, Export.lastError?_init, Export.run_init]
      rcases HeapBridge.installBuiltins.run.run session.world with ⟨error | _, after⟩
      · exact ⟨rfl, _, (World.Agrees.refl after).setLastError thread error.message, rfl⟩
      · exact ⟨rfl, _, (World.Agrees.refl after).clearLastError thread, rfl⟩
    | _ => cases hAsks
  | _ => cases hAsks

/-- Only these commands may note an outcome of installing the built-in wrappers. -/
theorem Command.of_may_builtins {command : Command} (hMay : command.May session .builtins) :
    command = .wrapper .installBuiltins ∨ ∃ slot, command = .exported ⟨slot, .init⟩ := by
  cases command with
  | wrapper command =>
    cases command with
    | installBuiltins => exact .inl rfl
    | _ =>
      simp [May, WrapperCommand.May, Session.Converts, Registry.Converts,
        PointerWrapper.Converts] at hMay
  | exported call =>
    obtain ⟨slot, command⟩ := call
    cases command with
    | init => exact .inr ⟨slot, rfl⟩
    | _ =>
      simp [May, ExportCommand.May, Session.Converts, Session.Advances, Registry.Converts,
        PointerWrapper.Converts] at hMay
  | set command => cases command <;> simp [May, SetCommand.May, Session.Advances] at hMay
  | _ => cases hMay

/-- No command notes an outcome that does not ask for the built-in wrappers. -/
theorem Command.builtins_perform {command : Command}
    (hOther : command.isInstallation session = false) :
    (Session.perform command session).2.world.registry.builtins =
      session.world.registry.builtins := by
  by_cases hMay : command.May session .builtins
  · rcases of_may_builtins hMay with rfl | ⟨slot, rfl⟩
    · cases hOther
    · cases slot with
      | none => cases hOther
      | some name =>
        have hNone : session.objects.get? name = none := Option.not_isSome_iff_eq_none.mp <| by
          rw [Bool.not_eq_true]
          exact hOther
        have hRun : ((Command.exported ⟨some name, .init⟩).run.run.run session).2 = session := by
          rw [Command.run, ExportCall.run, run_bind, objectArgument, run_bind, run_content, hNone]
        rw [perform_snd, hRun]
        exact congrArg Registry.builtins (World.changes_settle session.world).cursors_registry.2
  · obtain ⟨start, finish, hStart, hFinish, hMoves⟩ := exists_moves_perform command session
    have hSame := hMoves.builtins_eq hMay
    rwa [hStart, hFinish, registry_forget] at hSame

/-- A command that asks for them notes what it comes to. -/
theorem Command.registry_perform {command : Command}
    (hAsks : command.isInstallation session = true) :
    (Session.perform command session).2.world.registry =
      (installBuiltins.run.run session.world).2.registry := by
  obtain ⟨_, world, ⟨lastErrors, rfl⟩, hAfter⟩ := run_of_isInstallation hAsks
  rw [perform_snd, hAfter]
  exact (World.changes_settle _).cursors_registry.2

namespace Session

/-- Whether some of these commands ask for the built-in wrappers when they are run one after the other. -/
def installs : List Command → Session → Bool
  | [], _ => false
  | command :: rest, session =>
    command.isInstallation session || installs rest (perform command session).2

/-- An outcome that was noted stays. -/
theorem builtins_performAll {outcome : Except BridgeError Unit}
    (hNoted : session.world.registry.builtins = some outcome) (commands : List Command) :
    (performAll commands session).2.world.registry.builtins = some outcome := by
  induction commands generalizing session with
  | nil => exact hNoted
  | cons command rest ih =>
    have hStill : (perform command session).2.world.registry.builtins = some outcome := by
      cases hAsks : command.isInstallation session with
      | true => rw [Command.registry_perform hAsks, run_installBuiltins_again hNoted, hNoted]
      | false => rw [Command.builtins_perform hAsks, hNoted]
    exact ih hStill

/-- A writer that dies leaves the table alone, and poisons it or does not. -/
theorem registry_perform_poison (typeId : String) (session : Session) :
    (perform (.wrapper (.poison typeId)) session).2.world.registry = session.world.registry ∨
      (perform (.wrapper (.poison typeId)) session).2.world.registry =
        { session.world.registry with poisoned := true } := by
  have hAfter : ((Command.wrapper (.poison typeId)).run.run.run session).2.world =
      ((dieRegistering (.borrowing typeId "Poison")).run.run session.world).2 := by
    rw [Command.run, WrapperCommand.run, run_bind, run_bridge]
    rcases (dieRegistering (.borrowing typeId "Poison")).run.run session.world with
      ⟨error | _, after⟩ <;> rfl
  rw [perform_snd, (World.changes_settle _).cursors_registry.2, hAfter, run_dieRegistering]
  split
  · dsimp only
    split
    · exact .inr rfl
    · exact .inl rfl
  · exact .inl rfl

end Session

namespace Registry

theorem builtins_installed (registry : Registry) :
    registry.installed.builtins = some registry.outcome := rfl

end Registry

namespace Session

end Session

end HeapBridge
