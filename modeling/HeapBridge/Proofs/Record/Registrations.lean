import HeapBridge.Proofs.Record.Balance
/-!
What the log has to say of registrations. A registration that the table accepts or refuses is logged with one
event, whatever way it came in: at debug level if it succeeded, as a warning if not. What is rejected before the
table is looked at goes unlogged: arguments from outside that cannot be read or are missing, and all that a poisoned
table would have to judge.
-/
namespace HeapBridge

/-- The ways to register a wrapper. Inside the bridge it can be any, with converters of its own or those of plain
pointers, of counted handles or of framework handles; from outside there is one exported function each for
converters, counted handles and framework handles. -/
inductive Registration where
  | inside (wrapper : PointerWrapper)
  | exported (thread : Thread) (typeId name : Option (List UInt8)) (toHost : Option ToHost)
    (fromHost : Option FromHost)
  | counted (thread : Thread) (typeId name : Option (List UInt8))
  | framework (thread : Thread) (typeId : Option (List UInt8))

namespace Registration

/-- Makes a registration, and says whether it is told to have succeeded. -/
def perform : Registration → StateM World Bool
  | .inside wrapper => do return (← (register wrapper).run).isOk
  | .exported thread typeId name toHost fromHost => do
    return (← Export.register thread typeId name toHost fromHost) = 0
  | .counted thread typeId name => do return (← Export.registerCounted thread typeId name) = 0
  | .framework thread typeId => do return (← Export.registerFramework thread typeId) = 0

/-- The wrapper to be registered. From outside its parts are looked at in order, and each has to be there. -/
def asked : Registration → Except BridgeError PointerWrapper
  | .inside wrapper => .ok wrapper
  | .exported _ typeId name toHost fromHost => do
    let typeId ← readText typeId
    let name ← readText name
    match toHost, fromHost with
    | some toHost, some fromHost => return { typeId, name, toHost, fromHost }
    | _, _ => .error (.invalidArgument (.missingConverter typeId))
  | .counted _ typeId name => do
    let typeId ← readText typeId
    return .owning typeId (← readText name) .nativeObject
  | .framework _ typeId => do return .framework (← readText typeId)

/-- Whether a registration is judged: there is a wrapper to be registered, and its identifier is none or the table
can be looked at. -/
def isJudged (world : World) (registration : Registration) : Bool :=
  match registration.asked with
  | .ok wrapper => !isIdentifier wrapper.typeId || !world.registry.poisoned
  | .error _ => false

/-- What is logged from one world to another if a registration was made in between that succeeded or not. -/
def Logs (registration : Registration) (succeeded : Bool) (before after : World) : Prop :=
  ∃ events, after.log = before.log ++ events ∧ events.map Event.level =
    if succeeded then [.debug] else if registration.isJudged before then [.warn] else []

end Registration

variable {registration : Registration} {wrapper : PointerWrapper} {error : BridgeError}

theorem Registry.levels_insert (registry : Registry) (wrapper : PointerWrapper) :
    (insertEvent wrapper (registry.insert wrapper)).toList.map Event.level =
      if (registry.insert wrapper).isOk then [.debug]
      else if !isIdentifier wrapper.typeId || !registry.poisoned then [.warn] else [] := by
  unfold insert
  split_ifs <;> simp_all [insertEvent, Event.level, Except.isOk, Except.toBool]

theorem World.log_note (event : Option Event) (world : World) :
    (world.note event).log = world.log ++ event.toList := by
  cases event with
  | none => exact (List.append_nil _).symm
  | some event => rfl

namespace Registration

/-- A wrapper that is registered is judged by the table. -/
theorem logs_register (hAsked : registration.asked = .ok wrapper) (world : World) :
    registration.Logs ((register wrapper).run.run world).1.isOk world ((register wrapper).run.run world).2 := by
  have hJudged : registration.isJudged world = (!isIdentifier wrapper.typeId || !world.registry.poisoned) := by
    rw [isJudged, hAsked]
  have hLevels := world.registry.levels_insert wrapper
  rw [← hJudged] at hLevels
  rw [register, run_get, run_bind]
  cases hInsert : world.registry.insert wrapper with
  | ok registry =>
    rw [hInsert] at hLevels
    exact ⟨_, World.log_note _ world, hLevels⟩
  | error error =>
    rw [hInsert] at hLevels
    exact ⟨_, World.log_note _ world, hLevels⟩

end Registration

namespace Export

/-- An operation whose outcome is told as a status logs what it logs by itself. -/
theorem run_status (thread : Thread) (operation : BridgeM Unit) (world : World) :
    decide (((status thread operation).run world).1 = 0) =
        (operation.run.run (world.clearLastError thread)).1.isOk ∧
      ((status thread operation).run world).2.log =
        (operation.run.run (world.clearLastError thread)).2.log := by
  rw [status, run_guarded, run_bind]
  rcases operation.run.run (world.clearLastError thread) with ⟨error | _, after⟩
  · exact ⟨rfl, World.log_setLastError _ _ _⟩
  · exact ⟨rfl, rfl⟩

end Export

namespace Registration

/-- A registration from outside logs what the registration of its wrapper logs, and nothing if it has none. -/
theorem logs_status (thread : Thread) {operation : BridgeM Unit}
    (hOperation : ∀ world, operation.run.run world =
      match registration.asked with
      | .ok wrapper => (register wrapper).run.run world
      | .error error => (.error error, world))
    (world : World) :
    registration.Logs (((Export.status thread operation).run world).1 = 0) world
      ((Export.status thread operation).run world).2 := by
  obtain ⟨hStatus, hLog⟩ := Export.run_status thread operation world
  rw [hOperation] at hStatus hLog
  rw [hStatus]
  cases hAsked : registration.asked with
  | ok wrapper =>
    rw [hAsked] at hLog
    obtain ⟨events, hEvents, hLevels⟩ := logs_register hAsked (world.clearLastError thread)
    exact ⟨events, hLog.trans hEvents, hLevels⟩
  | error error =>
    rw [hAsked] at hLog
    refine ⟨[], hLog.trans (List.append_nil _).symm, ?_⟩
    rw [isJudged, hAsked]
    rfl

/-- A registration that succeeds logs one event at debug level and nothing else; one that is rejected logs one
warning and nothing else if it was judged, and nothing at all if it was not. -/
theorem registrations_logged (registration : Registration) (world : World) :
    let result := registration.perform.run world
    ∃ events, result.2.log = world.log ++ events ∧ events.map Event.level =
      if result.1 then [.debug] else if registration.isJudged world then [.warn] else [] := by
  change registration.Logs (registration.perform.run world).1 world (registration.perform.run world).2
  cases registration with
  | inside wrapper => exact logs_register rfl world
  | exported thread typeId name toHost fromHost =>
    let call := Export.register thread typeId name toHost fromHost
    change Logs _ ((call.run world).1 = 0) world (call.run world).2
    refine logs_status thread (fun world => ?_) world
    rw [asked, run_bind, Export.run_textArgument]
    cases readText typeId with
    | error error => rfl
    | ok typeId =>
      dsimp only
      rw [run_bind, Export.run_textArgument]
      cases readText name with
      | error error => rfl
      | ok name => cases toHost <;> cases fromHost <;> rfl
  | counted thread typeId name =>
    let call := Export.registerCounted thread typeId name
    change Logs _ ((call.run world).1 = 0) world (call.run world).2
    refine logs_status thread (fun world => ?_) world
    rw [asked, run_bind, Export.run_textArgument]
    cases readText typeId with
    | error error => rfl
    | ok typeId =>
      dsimp only
      rw [run_bind, Export.run_textArgument]
      cases readText name <;> rfl
  | framework thread typeId =>
    let call := Export.registerFramework thread typeId
    change Logs _ ((call.run world).1 = 0) world (call.run world).2
    refine logs_status thread (fun world => ?_) world
    rw [asked, run_bind, Export.run_textArgument]
    cases readText typeId <;> rfl

/-- Registrations are rejected without a word if a writer has died before, if a converter is missing, and if an
identifier is missing. -/
theorem registrations_unlogged :
    let poisoned := (Session.performAll [.wrapper (.poison "T")] {}).2.world
    let orphan : Registration := .inside (.borrowing "U" "U")
    let incomplete : Registration := .exported 0 (some [85]) (some [85]) none (some .number)
    let nameless : Registration := .framework 0 none
    ((orphan.perform.run poisoned).1 = false ∧ (orphan.perform.run poisoned).2.log = poisoned.log) ∧
      ((incomplete.perform.run {}).1 = false ∧ (incomplete.perform.run {}).2.log = []) ∧
      ((nameless.perform.run {}).1 = false ∧ (nameless.perform.run {}).2.log = []) := by
  decide +kernel

end Registration

end HeapBridge
