import HeapBridge.Proofs.Record.Accounts
import HeapBridge.Proofs.Registration.Installation
/-!
The log accounts for the state. Over every run the events tell how many proxies live, which handles that owned a
reference have come to their ends, which wrappers are registered, and whether the built-in wrappers are
installed. What fails logs nothing of the kind, apart from what comes to its end with a value that is given back.
-/
namespace HeapBridge

open Host (Heap Ref)
open Native (NativeClass)

variable {session : Session} {world before after : World} {event : Event}

def Event.isRelease : Event → Bool
  | .setReleased | .handleReleased _ => true
  | _ => false

def Event.isRejection : Event → Bool
  | .duplicateRejected _ | .identifierRejected _ => true
  | _ => false

/-- Events tell of the release of a handle of a type one by one. -/
theorem Event.count_released? (events : List Event) (typeId : String) :
    (events.filterMap released?).count typeId = events.count (.handleReleased typeId) := by
  rw [List.count, List.count, List.countP_filterMap]
  refine List.countP_congr fun event _ => ?_
  cases event <;> simp [released?]

theorem Registry.builtins_of_isInstalled {registry : Registry} (hInstalled : registry.isInstalled = true) :
    registry.builtins = some (.ok ()) := by
  unfold isInstalled at hInstalled
  split at hInstalled
  next hBuiltins => exact hBuiltins
  next => cases hInstalled

/-- Whether what is logged between one world and another tells of ends alone. -/
def World.LogsEnds (before after : World) : Prop :=
  ∃ told, after.log = before.log ++ told ∧ ∀ event ∈ told, event.isRelease = true

namespace World.LogsEnds

theorem silent (hLog : after.log = before.log) : before.LogsEnds after :=
  ⟨[], by rw [hLog, List.append_nil], nofun⟩

theorem trans {middle : World} (first : before.LogsEnds middle) (second : middle.LogsEnds after) :
    before.LogsEnds after := by
  obtain ⟨told, hLog, hTold⟩ := first
  obtain ⟨later, hLater, hEnds⟩ := second
  refine ⟨told ++ later, by rw [hLater, hLog, List.append_assoc], fun event hEvent => ?_⟩
  exact (List.mem_append.mp hEvent).elim (hTold event) (hEnds event)

theorem emit (hEnd : event.isRelease = true) (world : World) : world.LogsEnds (world.emit event) :=
  ⟨[event], rfl, fun _ hEvent => List.mem_singleton.mp hEvent ▸ hEnd⟩

/-- The end of a proxy is told as it happens. -/
theorem dropNative (address : Nat) (world : World) : world.LogsEnds (world.dropNative address).2 := by
  unfold World.dropNative
  dsimp only
  split
  next payload _ =>
    cases payload with
    | foreignSet backing => exact emit rfl _
    | _ => exact silent rfl
  next => exact silent rfl

theorem dropHandle (discipline : Discipline) (pointer : Pointer) (world : World) :
    world.LogsEnds (world.dropHandle discipline pointer).2 := by
  cases discipline <;> cases pointer <;> first | exact dropNative _ world | exact silent rfl

/-- The end of an object that is swept is told as it happens, too. -/
theorem reclaim (address : Nat) (world : World) : world.LogsEnds (world.reclaim address).2 := by
  unfold World.reclaim
  dsimp only
  split
  next typeId _ pointer discipline _ =>
    have hEmit : world.LogsEnds ((World.emit (.handleReleased typeId)
        { world with host := world.host.free address }).noteCall
          { discipline, request := .release, pointer }) :=
      emit rfl world
    exact hEmit.trans (dropHandle discipline pointer _)
  next => exact silent rfl

/-- Host code logs nothing but the ends of what it gives up. -/
theorem ofChanges (changes : Host.Changes before after) : before.LogsEnds after := by
  induction changes with
  | refl => exact silent rfl
  | step _ last ih =>
    refine ih.trans ?_
    cases last with
    | giveUp => exact reclaim _ _
    | _ => exact silent rfl

end World.LogsEnds

/-- A reference to an object that is referred to otherwise goes without anything that comes of it. -/
theorem World.release_referenced {ref : Ref} (hReferenced : world.isReferenced ref = true) :
    world.release [ref] = world := by
  refine Host.letGo_referenced _ {} Host.stepLimit fun other hOther hObject => ?_
  obtain rfl := List.mem_singleton.mp (List.mem_filter.mp hOther).1
  exact hReferenced

theorem World.log_setLastError (thread : Thread) (text : String) (world : World) :
    (world.setLastError thread text).log = world.log := by
  unfold setLastError
  dsimp only
  split <;> rfl

/-- What a guarded call that makes something answers and logs is what the operation makes and logs. -/
theorem Export.run_guarded_some (thread : Thread) (operation : BridgeM Nat) (world : World) :
    ((guarded thread none (do return some (← operation))).run world).1 =
        (operation.run.run (world.clearLastError thread)).1.toOption ∧
      ((guarded thread none (do return some (← operation))).run world).2.log =
        (operation.run.run (world.clearLastError thread)).2.log := by
  rw [run_guarded, run_bind]
  rcases operation.run.run (world.clearLastError thread) with ⟨error | address, after⟩
  · exact ⟨rfl, World.log_setLastError _ _ _⟩
  · exact ⟨rfl, rfl⟩

namespace ForeignSet

theorem log_initialise_of_none {storage : Option Nat} {value : Ref}
    (hNone : ((initialise storage value).run.run world).1.toOption = none) :
    ((initialise storage value).run.run world).2 = world.letGo value := by
  cases storage with
  | none => rfl
  | some address => cases hNone

/-- Where there is no storage the reference to the host value is let go of, and nothing is logged. -/
theorem log_create_of_none {value : Ref} (hNone : ((create value).run.run world).1.toOption = none) :
    ∃ refusals, ((create value).run.run world).2 = World.letGo value { world with refusals } := by
  rw [run_create] at hNone ⊢
  obtain ⟨refusals, hReserve⟩ | ⟨refusals, hReserve⟩ := world.reserve_cases .foreignSet <;>
    rw [hReserve] at hNone ⊢
  · exact ⟨refusals, rfl⟩
  · cases hNone

end ForeignSet

namespace Adoption

/-- A call that is handed over a reference and makes no proxy logs nothing but what comes of giving the
reference back. -/
theorem log_of_none {adoption : Adoption} (hNone : (adoption.run world).1 = none) :
    ∃ refusals lastErrors, (adoption.run world).2.log =
      (adoption.value?.elim id World.letGo { world with refusals, lastErrors }).log := by
  cases adoption with
  | create value =>
    obtain ⟨refusals, hAfter⟩ := ForeignSet.log_create_of_none hNone
    exact ⟨refusals, world.lastErrors, congrArg World.log hAfter⟩
  | initialise storage value =>
    exact ⟨world.refusals, world.lastErrors, congrArg World.log (ForeignSet.log_initialise_of_none hNone)⟩
  | setNew thread value =>
    cases value with
    | none => exact ⟨world.refusals, world.lastErrors, World.log_setLastError _ _ _⟩
    | some value =>
      obtain ⟨hMade, hLog⟩ := Export.run_guarded_some thread (ForeignSet.create value) world
      obtain ⟨refusals, hAfter⟩ := ForeignSet.log_create_of_none (hMade.symm.trans hNone)
      exact ⟨refusals, _, hLog.trans (congrArg World.log hAfter)⟩
  | setInit thread storage value =>
    cases value with
    | none => exact ⟨world.refusals, world.lastErrors, World.log_setLastError _ _ _⟩
    | some value =>
      obtain ⟨hMade, hLog⟩ := Export.run_guarded_some thread (ForeignSet.initialise storage value) world
      have hAfter := ForeignSet.log_initialise_of_none (hMade.symm.trans hNone)
      exact ⟨world.refusals, _, hLog.trans (congrArg World.log hAfter)⟩

end Adoption

/-- What a registration that is rejected logs, and nothing else comes of it. -/
theorem run_register_of_error {wrapper : PointerWrapper} {error : BridgeError}
    (hRun : (register wrapper).run.run world = (.error error, after)) :
    ∃ told, after = { world with log := world.log ++ told } ∧ ∀ event ∈ told, event.isRejection = true := by
  rw [run_register_eq] at hRun
  cases hInsert : world.registry.insert wrapper with
  | ok registry =>
    rw [hInsert] at hRun
    cases hRun
  | error refusal =>
    rw [hInsert] at hRun
    dsimp only at hRun
    rw [World.note_eq] at hRun
    cases hRun
    refine ⟨_, rfl, fun event hEvent => ?_⟩
    cases error <;> simp [Registry.insertEvent] at hEvent <;> rw [hEvent] <;> rfl

namespace Session

def taken : Command → World → List Event
  | .record .log, world => world.log
  | _, _ => []

/-- The events of a run: those that were taken out of the log on the way, and those that are left there. -/
def events : List Command → Session → List Event
  | [], session => session.world.log
  | command :: rest, session => taken command session.world ++ events rest (perform command session).2

/-- Forgetting the log before a reading counts what was read as told. -/
theorem taken_forget (command : Command) (world : World) :
    taken command world ++ (command.forget world).log = world.log := by
  unfold taken Command.forget
  split
  · exact List.append_nil _
  next hOther =>
    split
    · rfl
    · exact (hOther rfl).elim
    · rfl

/-- Whether an occasion arises while a command of a run is performed. -/
def Occurs (commands : List Command) (session : Session) (handling : Handling) : Prop :=
  ∃ earlier command later, commands = earlier ++ command :: later ∧
    handling.During (command.forget (performAll earlier session).2.world)
      (perform command (performAll earlier session).2).2.world

/-- Each command is accounted for by what is logged at it. -/
theorem reports_perform {command : Command} {history : List Handling} (hSound : session.Sound)
    (hProper : command.IsProper) (hChronicle : session.world.Chronicle history) :
    ∃ told more, taken command session.world ++ (perform command session).2.world.log =
        session.world.log ++ told ∧
      session.world.Reports (perform command session).2.world told more ∧
        (perform command session).2.world.Chronicle (history ++ more) ∧
          ∀ handling ∈ more, handling.During (command.forget session.world)
            (perform command session).2.world := by
  obtain ⟨told, more, hLog, hReports, hAfter, hDuring⟩ :=
    (command.acts_perform hSound hProper).reports (chronicle_forget hChronicle rfl)
  refine ⟨told, more, ?_, ?_, hAfter, hDuring⟩
  · rw [hLog, ← List.append_assoc, taken_forget]
  · have hForget : session.world.Reports (command.forget session.world) [] [] :=
      .silent (registry_forget command _) (by rw [native_forget]) rfl
    exact hForget.trans hReports

/-- All that is told in a session, read or not, accounts for all that it did. -/
theorem reports_performAll {commands : List Command} {history : List Handling} (hSound : session.Sound)
    (hProper : ∀ command ∈ commands, command.IsProper) (hChronicle : session.world.Chronicle history) :
    ∃ told more, events commands session = session.world.log ++ told ∧
      session.world.Reports (performAll commands session).2.world told more ∧
        (performAll commands session).2.world.Chronicle (history ++ more) ∧
          ∀ handling ∈ more, Occurs commands session handling := by
  induction commands generalizing session history with
  | nil =>
    exact ⟨[], [], (List.append_nil _).symm, .silent rfl rfl rfl, by rwa [List.append_nil], nofun⟩
  | cons command rest ih =>
    obtain ⟨told, more, hTaken, hFirst, hMiddle, hDuring⟩ :=
      reports_perform hSound (hProper command List.mem_cons_self) hChronicle
    obtain ⟨later, others, hEvents, hRest, hAfter, hOccurs⟩ :=
      ih (hSound.perform command) (fun other hOther => hProper other (List.mem_cons_of_mem _ hOther)) hMiddle
    refine ⟨told ++ later, more ++ others, ?_, hFirst.trans hRest, ?_, fun handling hHandling => ?_⟩
    · rw [events, hEvents, ← List.append_assoc, hTaken, List.append_assoc]
    · rw [← List.append_assoc]
      exact hAfter
    · rcases List.mem_append.mp hHandling with hOld | hNew
      · exact ⟨[], command, rest, rfl, hDuring handling hOld⟩
      · obtain ⟨earlier, other, last, rfl, hOther⟩ := hOccurs handling hNew
        exact ⟨command :: earlier, other, last, rfl, hOther⟩

/-- If the built-in wrappers come to be installed, then a command was told so that has asked for them. -/
theorem exists_installation {commands : List Command} {outcome : Except BridgeError Unit}
    (hBefore : session.world.registry.builtins = none)
    (hAfter : (performAll commands session).2.world.registry.builtins = some outcome) :
    ∃ earlier command later, commands = earlier ++ command :: later ∧
      command.isInstallation (performAll earlier session).2 = true ∧
        (perform command (performAll earlier session).2).1 = command.told outcome := by
  induction commands generalizing session with
  | nil => cases hBefore.symm.trans hAfter
  | cons command rest ih =>
    cases hAsks : command.isInstallation session with
    | true =>
      obtain ⟨after, hInstall, hInstalled⟩ := run_installBuiltins_first hBefore
      have hNoted : (perform command session).2.world.registry.builtins =
          some session.world.registry.outcome := by
        rw [Command.registry_perform hAsks, hInstall, hInstalled, Registry.builtins_installed]
      obtain rfl := Option.some.inj ((builtins_performAll hNoted rest).symm.trans hAfter)
      have hTold := (Command.run_of_isInstallation hAsks).1
      rw [hInstall] at hTold
      exact ⟨[], command, rest, rfl, hAsks, hTold⟩
    | false =>
      obtain ⟨earlier, other, last, rfl, hOther⟩ :=
        ih ((Command.builtins_perform hAsks).trans hBefore) hAfter
      exact ⟨command :: earlier, other, last, rfl, hOther⟩

/-- What the events of a run have to do with the state that it leads to. -/
structure Accounted (commands : List Command) : Prop where
  /-- The proxies that live are those that were made and have not come to their ends. -/
  proxies : (events commands {}).count .setCreated =
    (events commands {}).count .setReleased + (performAll commands {}).2.world.native.proxyCount
  /-- The releases of a type are as many as the handles of that type that owned a reference and have come
  to their ends. -/
  handles : ∃ history, (performAll commands {}).2.world.Chronicle history ∧
    (∀ handling ∈ history, Occurs commands {} handling) ∧
      ∀ typeId, (events commands {}).count (.handleReleased typeId) =
        history.countP fun handling => handling.ended? = some typeId
  /-- The registrations are those of the wrappers in the table, each of its own type. One more may be that
  of a writer that died, and then the registry is poisoned. -/
  registrations : ∃ dead, (performAll commands {}).2.world.registry.Bears dead ∧
    (events commands {}).filterMap Event.registered? =
      (performAll commands {}).2.world.registry.wrappers.map PointerWrapper.binding ++ dead.toList
  /-- Where the registry works, registrations are those of the wrappers in the table. -/
  alive : (performAll commands {}).2.world.registry.poisoned = false →
    (events commands {}).filterMap Event.registered? =
      (performAll commands {}).2.world.registry.wrappers.map PointerWrapper.binding
  /-- The registry works unless a writer has died. -/
  unharmed : (∀ command ∈ commands, command.isPoison = false) →
    (performAll commands {}).2.world.registry.poisoned = false
  installedOnce : (events commands {}).count .builtinsInstalled ≤ 1
  /-- If the built-in wrappers are told to be installed, then somebody has asked for them and was told so. -/
  installed : .builtinsInstalled ∈ events commands {} → ∃ earlier command later,
    commands = earlier ++ command :: later ∧
      command.isInstallation (performAll earlier {}).2 = true ∧
        (perform command (performAll earlier {}).2).1 = command.told (.ok ())

end Session

/-- What is logged in a world for what fails there. -/
structure World.FailsQuietly (world : World) : Prop where
  reservations : ∀ nativeClass, (world.reserve nativeClass).1 = none →
    (world.reserve nativeClass).2.log = world.log
  /-- A call that makes no proxy of the value it is handed over logs the ends that come of giving it back. -/
  adoptions : ∀ adoption : Adoption, (adoption.run world).1 = none → world.LogsEnds (adoption.run world).2
  /-- If the value is referred to otherwise it logs nothing. -/
  shared : ∀ (adoption : Adoption) value, adoption.value? = some value → (adoption.run world).1 = none →
    (world.unhold value).isReferenced value = true → (adoption.run world).2.log = world.log
  registrations : ∀ wrapper error after, (register wrapper).run.run world = (.error error, after) →
    ∃ told, after = { world with log := world.log ++ told } ∧ ∀ event ∈ told, event.isRejection = true

/-- No call can fail without leaving the sets as they are. -/
theorem World.failsQuietly (world : World) : world.FailsQuietly where
  reservations := by
    intro nativeClass hNone
    obtain ⟨refusals, hReserve⟩ | ⟨refusals, hReserve⟩ := world.reserve_cases nativeClass
    · rw [hReserve]
    · rw [hReserve] at hNone
      cases hNone
  adoptions := by
    intro adoption hNone
    obtain ⟨refusals, lastErrors, hLog⟩ := adoption.log_of_none hNone
    cases hValue : adoption.value? with
    | none => exact .silent (by rw [hLog, hValue]; rfl)
    | some value =>
      obtain ⟨told, hTold, hEnds⟩ :=
        LogsEnds.ofChanges (World.changes_letGo value { world with refusals, lastErrors })
      exact ⟨told, by rw [hLog, hValue]; exact hTold, hEnds⟩
  shared := by
    intro adoption value hValue hNone hReferenced
    obtain ⟨refusals, lastErrors, hLog⟩ := adoption.log_of_none hNone
    rw [hLog, hValue]
    have hKept := @World.release_referenced (World.unhold value { world with refusals, lastErrors }) value
      hReferenced
    exact (congrArg World.log hKept).trans rfl
  registrations := fun _ _ _ hRun => run_register_of_error hRun

namespace Session

/-- Over every run the log accounts for the state, and what fails in the end logs nothing of the kind. -/
theorem log_accounts (commands : List Command) (hProper : ∀ command ∈ commands, command.IsProper) :
    Accounted commands ∧ (performAll commands {}).2.world.FailsQuietly := by
  obtain ⟨told, history, hEvents, hReports, hChronicle, hOccurs⟩ :=
    reports_performAll sound_empty hProper .empty
  have hBears : Registry.Bears {} none := ⟨.nil, nofun, nofun⟩
  obtain ⟨dead, hAfter, hWrappers⟩ := hReports.wrappers none hBears
  have hRegistered : (events commands {}).filterMap Event.registered? =
      (performAll commands {}).2.world.registry.wrappers.map PointerWrapper.binding ++ dead.toList := by
    rw [hEvents]
    exact hWrappers
  have hInstalled : (events commands {}).count .builtinsInstalled =
      (performAll commands {}).2.world.registry.isInstalled.toNat := by
    rw [hEvents, ← hReports.builtins]
    exact (Nat.zero_add _).symm
  refine ⟨⟨?_, ⟨history, hChronicle, hOccurs, fun typeId => ?_⟩, ⟨dead, hAfter, hRegistered⟩, fun hAlive => ?_,
    fun hAlive => ?_, ?_, fun hMember => ?_⟩, World.failsQuietly _⟩
  · rw [hEvents]
    exact hReports.proxies
  · calc (events commands {}).count (.handleReleased typeId)
        = (told.filterMap Event.released?).count typeId := by
          rw [hEvents]
          exact (Event.count_released? told typeId).symm
      _ = history.countP fun handling => handling.ended? = some typeId := by
          rw [hReports.handles, List.count, List.countP_filterMap]
          refine List.countP_congr fun handling _ => ?_
          cases handling.ended? <;> simp
  · rw [hRegistered, hAfter.dead_eq_none hAlive]
    exact List.append_nil _
  · exact (registers_performAll hAlive {} [] .empty).alive
  · rw [hInstalled]
    exact Bool.toNat_le _
  · have hTrue : (performAll commands {}).2.world.registry.isInstalled = true := by
      rw [← Bool.toNat_eq_one, ← hInstalled]
      have hCount := List.count_pos_iff.mpr hMember
      have hOnce := Bool.toNat_le (performAll commands {}).2.world.registry.isInstalled
      omega
    exact exists_installation rfl (Registry.builtins_of_isInstalled hTrue)

/-- A run in which proxies share a handle that goes with the last of them. -/
def sharedHandle : List Command :=
  [.wrapper .installBuiltins, .wrapper (.registerOwning "T" "Tracked" .nativeObject),
    .wrapper (.registerBorrowing "T" "again"), .object (.create "a" .tracked),
    .wrapper (.toHost "T" (.native "a") (some "h")), .set (.create "s" (.set [.slot "h"])),
    .set (.copy "s" "t"), .record .log, .set (.initialise "u" .unavailable (.slot "h")), .host (.drop "h"),
    .exported ⟨some "s", .setRelease⟩, .exported ⟨some "t", .setRelease⟩]

/-- In that run everything that was made has come to its end, and was told. -/
theorem log_accounts_sharedHandle :
    (∀ command ∈ sharedHandle, command.IsProper) ∧ Accounted sharedHandle ∧
      events sharedHandle {} =
        [.wrapperRegistered "_object" "PyObject", .wrapperRegistered "_NSZone" "NSZone",
          .wrapperRegistered "__CFAllocator" "CFAllocatorRef", .builtinsInstalled,
          .wrapperRegistered "T" "Tracked", .duplicateRejected "T", .setCreated, .setCreated, .setReleased,
          .setReleased, .handleReleased "T"] := by
  have hProper : ∀ command ∈ sharedHandle, command.IsProper := by
    rintro command hCommand slot rfl
    simp [sharedHandle] at hCommand
  exact ⟨hProper, (log_accounts sharedHandle hProper).1, by decide +kernel⟩

/-- A writer that dies has told of a registration that the table does not have. -/
theorem registration_of_deadWriter :
    Command.IsProper (.wrapper (.poison "T")) ∧
      (events [.wrapper (.poison "T")] {}).filterMap Event.registered? = [("T", "Poison")] ∧
        (performAll [.wrapper (.poison "T")] {}).2.world.registry.wrappers = [] :=
  ⟨nofun, by decide +kernel, by decide +kernel⟩

end Session

end HeapBridge
