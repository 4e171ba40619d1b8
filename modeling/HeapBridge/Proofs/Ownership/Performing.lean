import HeapBridge.Proofs.Ownership.Commands
/-!
What a command comes to. A proper command is made of steps, whatever comes of it, and so of moves on what the
session owns; an object that it makes and that has no name is lost track of. After every command just those
references to host objects are held that the slots of the session claim.
-/
namespace HeapBridge

open Host (Ref)
open Session
open Estate

variable {may : Deed → Prop}

/-- Whether just those references to host objects are held that the slots of a session claim. -/
def Session.Settled (session : Session) : Prop := (session.world.held : Multiset Ref) = session.claims

/-- The world as a command finds it that reports a record and starts the record anew. -/
def Command.forget : Command → World → World
  | .object .destroyed, world => { world with destroyed := [] }
  | .record .log, world => { world with log := [] }
  | _, world => world

/-- Whether a command does not make a proxy as if it were an object of a class of its own. Callers have no
way to do that: a proxy is made of a host value. -/
def Command.IsProper (command : Command) : Prop := ∀ slot, command ≠ .object (.create slot .foreignSet)

/-- Whether a command is made of steps that lose track of no more than `lost`, whatever else is owned. -/
def Command.Loses (command : Command) (session : Session) (lost : Multiset Holding) : Prop :=
  ∀ others : Estate, Steps (command.May session) ⟨others + session.estate, command.forget session.world⟩
    ⟨ofNative lost + others + (command.run.run.run session).2.estate, (command.run.run.run session).2.world⟩

/-- Only reading the log takes anything out of the session. -/
theorem RecordCommand.neutral_run {command : RecordCommand} (hCommand : command ≠ .log) :
    Neutral command.run := by
  cases command with
  | setLastError text =>
    exact .bind (neutral_modifyWorld fun world => world.steps_setLastError thread text) fun _ => .get fun _ => .pure
  | clearLastError =>
    exact .bind (neutral_modifyWorld fun world => world.steps_lastErrors _) fun _ => .get fun _ => .pure
  | lastError => exact .get fun _ => .pure
  | log => exact (hCommand rfl).elim

/-- A command that nobody takes over from loses nothing. -/
theorem Command.Loses.of_run {command : Command} {session : Session}
    (hForget : command.forget session.world = session.world)
    (hRun : ∀ others, Transfers (command.May session) others session 0 command.run fun _ => 0) :
    command.Loses session 0 := by
  intro others
  have hSteps := hRun others
  unfold Transfers Hands at hSteps
  rw [hForget]
  simpa only [onSuccess_zero, ledger_session, ofNative_zero, zero_add] using hSteps

/-- A proper command that names what it makes loses track of nothing. -/
theorem Command.loses_nothing {command : Command} (hNamed : command.isNamed = true)
    (hProper : command.IsProper) (session : Session) : command.Loses session 0 := by
  cases command with
  | host command => exact .of_run rfl fun others => command.neutral_run _ others session
  | value command => exact .of_run rfl fun others => command.neutral_run _ others session
  | set command => exact .of_run rfl fun others => command.transfers_run
  | object command =>
    by_cases hCommand : command = .destroyed
    · subst hCommand
      exact fun others => (zero_add others).symm ▸ .refl
    · have hForget : Command.forget (.object command) session.world = session.world := by
        cases command <;> first | rfl | exact (hCommand rfl).elim
      exact .of_run hForget fun others => ObjectCommand.neutral_run hCommand
        (fun slot hSame => hProper slot (congrArg Command.object hSame)) _ others session
  | wrapper command => exact .of_run rfl fun others => command.transfers_run
  | exported call =>
    refine .of_run rfl fun others => .via (fun _ => 0) ?_ fun object middle hRun => ?_
    · cases call.object with
      | none => exact .pure rfl
      | some slot => exact transfers_content fun _ _ => .pure rfl
    · obtain ⟨rfl, hHolds⟩ := run_objectArgument hRun
      exact ExportCommand.transfers_runOn hHolds hNamed
  | record command =>
    by_cases hCommand : command = .log
    · subst hCommand
      exact fun others => (zero_add others).symm ▸ .refl
    · have hForget : Command.forget (.record command) session.world = session.world := by
        cases command <;> first | rfl | exact (hCommand rfl).elim
      exact .of_run hForget fun others => RecordCommand.neutral_run hCommand _ others session

/-- What is left of an operation after which nothing is changed any more. -/
theorem run_bind_snd {α β : Type} {session : Session} {first : SessionM α} {next : α → SessionM β}
    (hNext : ∀ value after, ((next value).run.run after).2 = after) :
    ((first >>= next).run.run session).2 = (first.run.run session).2 := by
  rw [run_bind]
  rcases first.run.run session with ⟨failure | value, after⟩
  · rfl
  · exact hNext value after

theorem Session.run_replyObject_none (address : Option Nat) (session : Session) :
    ((replyObject none address).run.run session).2 = session := by
  cases address <;> rfl

theorem Session.run_objectArgument_snd (slot : Option String) (session : Session) :
    ((objectArgument slot).run.run session).2 = session := by
  cases slot with
  | none => rfl
  | some slot =>
    rw [objectArgument, run_bind, run_content]
    cases session.objects.get? slot <;> rfl

/-- A call that makes an object without a name loses track of it. -/
theorem Transfers.exists_lost {session : Session} {operation : SessionM (Option Nat)}
    (hMade : ∀ others, Transfers may others session 0 operation objectEstate) :
    ∃ lost : Multiset Holding, ∀ others, Steps may ⟨others + session.estate, session.world⟩
      ⟨ofNative lost + others + (operation.run.run session).2.estate, (operation.run.run session).2.world⟩ := by
  refine ⟨(onSuccess objectEstate (operation.run.run session).1).1, fun others => ?_⟩
  have hEstate : onSuccess objectEstate (operation.run.run session).1 =
      ofNative (onSuccess objectEstate (operation.run.run session).1).1 := by
    rcases (operation.run.run session).1 with failure | ⟨_ | address⟩ <;> rfl
  have hSteps := hMade others
  unfold Transfers Hands at hSteps
  rw [ledger_session, ledger_session, zero_add] at hSteps
  exact hEstate ▸ hSteps

/-- What calls by address lose is counted in references to native objects, since those are all that an address
stands for. -/
theorem ExportCommand.exists_lost {command : ExportCommand} (hUnnamed : command.isNamed = false)
    (slot : Option String) (object : Pointer) (session : Session) :
    ∃ lost : Multiset Holding, ∀ others, Steps may ⟨others + session.estate, session.world⟩
      ⟨ofNative lost + others + ((command.runOn slot object).run.run session).2.estate,
        ((command.runOn slot object).run.run session).2.world⟩ := by
  cases command with
  | setNew name value =>
    obtain ⟨rfl, _⟩ : name = none ∧ value.isNone = false := by
      simpa [ExportCommand.isNamed] using hUnnamed
    let making : SessionM (Option Nat) := do exported (Export.setNew thread (← ownedArgument value))
    have hSame : (((ExportCommand.setNew none value).runOn slot object).run.run session).2 =
        (making.run.run session).2 := by
      rw [← run_bind_snd (run_replyObject_none · ·)]
      simp only [making, bind_assoc]
      rfl
    rw [hSame]
    exact Transfers.exists_lost fun others => .bind (transfers_ownedArgument value) fun owned _ _ =>
      transfers_exported (Export.hands_setNew thread owned)
  | setInit name storage value =>
    obtain ⟨rfl, _⟩ : name = none ∧ value.isNone = false := by
      simpa [ExportCommand.isNamed] using hUnnamed
    let making : SessionM (Option Nat) := do
      let owned ← ownedArgument value
      let storage ← storageArgument storage
      exported (Export.setInit thread storage owned)
    have hSame : (((ExportCommand.setInit none storage value).runOn slot object).run.run session).2 =
        (making.run.run session).2 := by
      rw [← run_bind_snd (run_replyObject_none · ·)]
      simp only [making, bind_assoc]
      rfl
    rw [hSame]
    exact Transfers.exists_lost fun others => .bind (transfers_ownedArgument value) fun owned _ _ =>
      .bind (transfers_storageArgument storage) fun taken _ _ =>
        transfers_exported (Export.hands_setInit thread taken owned)
  | _ => cases hUnnamed

/-- Whatever a proper command does is made of steps; what has no name may be lost on the way. -/
theorem Command.exists_loses {command : Command} (hProper : command.IsProper) (session : Session) :
    ∃ lost, (command.isNamed = true → lost = 0) ∧ command.Loses session lost := by
  cases hNamed : command.isNamed with
  | true => exact ⟨0, fun _ => rfl, command.loses_nothing hNamed hProper session⟩
  | false =>
    cases command with
    | exported call =>
      have hObject := run_objectArgument_snd call.object session
      unfold Loses
      rw [Command.run, ExportCall.run, run_bind]
      rcases hFound : (objectArgument call.object).run.run session with ⟨failure | pointer, after⟩ <;>
        rw [hFound] at hObject <;> obtain rfl := hObject
      · exact ⟨0, fun _ => rfl, fun others => (zero_add others).symm ▸ .refl⟩
      · obtain ⟨lost, hLost⟩ := ExportCommand.exists_lost hNamed call.object pointer after
        exact ⟨lost, nofun, hLost⟩
    | _ => cases hNamed

/-- To make an object of any class, a payload is moved into storage that was reserved for it. What comes before
that and after it is made of steps. -/
theorem ObjectCommand.steps_create (slot : String) (nativeClass : Native.NativeClass) (session : Session) :
    Steps may ⟨session.estate, session.world⟩
        ⟨((create slot nativeClass).run.run.run session).2.estate,
          ((create slot nativeClass).run.run.run session).2.world⟩ ∨
      ∃ (address : Nat) (rest : Estate) (world : World),
        Steps may ⟨session.estate, session.world⟩ ⟨ofNative {.storage address} + rest, world⟩ ∧
          Steps may ⟨ofNative {.reference address} + rest,
              { world with native := world.native.install address (payloadFor slot nativeClass) }⟩
            ⟨((create slot nativeClass).run.run.run session).2.estate,
              ((create slot nativeClass).run.run.run session).2.world⟩ := by
  have hReserve : Transfers may 0 session 0 (Session.reserve nativeClass)
      fun address => storageEstate (some address) := transfers_reserve nativeClass
  unfold Transfers Hands at hReserve
  rw [ObjectCommand.run, run_bind]
  rcases hRun : (Session.reserve nativeClass).run.run session with ⟨failure | address, middle⟩ <;>
    rw [hRun, ledger_session, ledger_session, zero_add, add_zero, zero_add] at hReserve
  · exact .inl (by simpa only [onSuccess_error, zero_add] using hReserve)
  · refine .inr ⟨address, middle.estate, middle.world, hReserve, ?_⟩
    let installed : Session := { middle with world := { middle.world with
      native := middle.world.native.install address (payloadFor slot nativeClass) } }
    have hKeep : Transfers may 0 installed (oneReference address) (keepObject slot address) fun _ => 0 :=
      transfers_keepObject slot address
    unfold Transfers Hands at hKeep
    rw [onSuccess_zero, ledger_session, ledger_session, add_zero, zero_add, zero_add] at hKeep
    rw [run_bind_snd fun _ _ => rfl]
    exact hKeep

/-- Creating an object is what the slot for it owns afterwards. -/
theorem ObjectCommand.moves_create (slot : String) (nativeClass : Native.NativeClass) (session : Session) :
    Moves may ⟨session.holdings, session.world⟩
      ⟨((create slot nativeClass).run.run.run session).2.holdings,
        ((create slot nativeClass).run.run.run session).2.world⟩ := by
  obtain hSteps | ⟨address, rest, world, hBefore, hAfter⟩ := steps_create slot nativeClass session
  · exact hSteps.moves
  · exact hBefore.moves.trans ((Move.install address _ rfl rfl).toMoves.trans hAfter.moves)

/-- Creating keeps every slot backed by what it names. -/
theorem ObjectCommand.settled_create (slot : String) (nativeClass : Native.NativeClass) {session : Session}
    (hSettled : session.Settled) : ((create slot nativeClass).run.run.run session).2.Settled := by
  have hStart : Ledger.Settled ⟨session.estate, session.world⟩ := hSettled
  obtain hSteps | ⟨address, rest, world, hBefore, hAfter⟩ := @steps_create (fun _ => True) slot nativeClass session
  · exact hSteps.settled hStart
  · refine hAfter.settled ?_
    have hReserved := hBefore.settled hStart
    unfold Ledger.Settled at hReserved ⊢
    rwa [snd_ofNative_add] at hReserved ⊢

/-- Whatever a command does to the world is made of moves; what has no name may be lost on the way. -/
theorem Command.exists_lost (command : Command) (session : Session) :
    ∃ lost : Multiset Holding, (command.isNamed = true → lost = 0) ∧ Moves (command.May session)
      ⟨session.holdings, command.forget session.world⟩
      ⟨lost + (command.run.run.run session).2.holdings, (command.run.run.run session).2.world⟩ := by
  by_cases hProper : command.IsProper
  · obtain ⟨lost, hNothing, hLost⟩ := exists_loses hProper session
    have hMoves := (hLost 0).moves
    rw [zero_add, add_zero] at hMoves
    exact ⟨lost, hNothing, hMoves⟩
  · obtain ⟨slot, hSame⟩ := not_forall_not.mp hProper
    subst hSame
    refine ⟨0, fun _ => rfl, ?_⟩
    rw [zero_add]
    exact ObjectCommand.moves_create slot .foreignSet session

/-- A command is made of moves on what the session owns. -/
theorem Command.moves_run {command : Command} (hNamed : command.isNamed = true) (session : Session) :
    Moves (command.May session) ⟨session.holdings, command.forget session.world⟩
      ⟨(command.run.run.run session).2.holdings, (command.run.run.run session).2.world⟩ := by
  obtain ⟨lost, hNothing, hMoves⟩ := command.exists_lost session
  rwa [hNothing hNamed, zero_add] at hMoves

theorem Command.exists_moves (command : Command) (session : Session) :
    ∃ start finish : Account, start.world = command.forget session.world ∧
      finish.world = (command.run.run.run session).2.world ∧
        Moves (command.May session) start finish := by
  obtain ⟨lost, _, hMoves⟩ := command.exists_lost session
  exact ⟨_, _, rfl, rfl, hMoves⟩

/-- After a command just those references are held that are claimed, if it was so before. -/
theorem Command.settled_run (command : Command) {session : Session} (hSettled : session.Settled) :
    (command.run.run.run session).2.Settled := by
  by_cases hProper : command.IsProper
  · obtain ⟨lost, _, hLost⟩ := exists_loses hProper session
    have hStart : Ledger.Settled ⟨0 + session.estate, command.forget session.world⟩ := by
      rw [zero_add]
      unfold forget
      split <;> exact hSettled
    have hFinish := (hLost 0).settled hStart
    rw [add_zero] at hFinish
    exact hFinish.trans (snd_ofNative_add lost _)
  · obtain ⟨slot, hSame⟩ := not_forall_not.mp hProper
    subst hSame
    exact ObjectCommand.settled_create slot .foreignSet hSettled

namespace Session

def account (session : Session) : Account := ⟨session.holdings, session.world⟩

theorem perform_snd (command : Command) (session : Session) :
    (perform command session).2 = { (command.run.run.run session).2 with
      world := (command.run.run.run session).2.world.settle } := rfl

theorem moves_perform {command : Command} (hNamed : command.isNamed = true) (session : Session) :
    Moves (command.May session) ⟨session.holdings, command.forget session.world⟩
      (perform command session).2.account := by
  rw [perform_snd]
  exact (Command.moves_run hNamed session).trans (.host (World.changes_settle _) _)

theorem settled_perform (command : Command) {session : Session} (hSettled : session.Settled) :
    (perform command session).2.Settled := by
  rw [perform_snd]
  exact (Multiset.coe_eq_coe.mpr (World.visits_settle _).held).trans (command.settled_run hSettled)

theorem settled_empty : Settled {} := rfl

/-- In every session, after any commands, just those references are held that its slots claim. -/
theorem settled_performAll (commands : List Command) {session : Session} (hSettled : session.Settled) :
    (performAll commands session).2.Settled := by
  induction commands generalizing session with
  | nil => exact hSettled
  | cons command rest ih => exact ih (settled_perform command hSettled)

end Session

end HeapBridge
