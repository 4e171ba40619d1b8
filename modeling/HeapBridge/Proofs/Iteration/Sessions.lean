import HeapBridge.Proofs.Iteration.FailFast
import HeapBridge.Proofs.Ownership.Conservation
/-!
Iterators of sessions. Whatever commands do, they are a run of each iterator that was started before: a
command steps it, or leaves it alone unless it gives it up. So iterators fail fast in sessions.
-/
namespace HeapBridge

open Host (Ref)
open Session

variable {α β : Type} {number : Nat} {session : Session} {command : Command} {name : String}

def Stepping.stepper : Stepping → Stepper
  | .native => .native
  | .cursor => .cursor
  | .exported => .exported thread

def Command.stepper? (session : Session) (number : Nat) : Command → Option Stepper
  | .set (.next name) =>
    match session.iterations.get? name with
    | some iteration => if iteration.number = number then some iteration.stepping.stepper else none
    | none => none
  | .exported ⟨slot, .iteratorNext (some name) true⟩ =>
    match session.iterations.get? name with
    | some iteration =>
      if iteration.number = number ∧ iteration.stepping = .exported ∧
          slot.all (fun slot => (session.objects.get? slot).isSome) then some (.exported thread)
      else none
    | none => none
  | _ => none

def Command.ended? : Command → Option String
  | .set (.iterate _ name) | .set (.cursor _ name) | .set (.dropIteration name) => some name
  | .exported ⟨_, .setIterate name⟩ | .exported ⟨_, .iteratorFree name⟩ => name
  | _ => none

def Command.Keeps (session : Session) (number : Nat) (command : Command) : Prop :=
  ∀ iteration, command.ended?.bind session.iterations.get? = some iteration →
    iteration.number ≠ number

/-- The host value over which a command starts an iteration. -/
def Command.source? (session : Session) : Command → Option Ref
  | .set (.iterate slot _) | .set (.cursor slot _) | .exported ⟨some slot, .setIterate _⟩ =>
    (session.objects.get? slot).bind fun object => session.world.native.backing? object.address
  | _ => none

/-- An iterator that a command may move is one that it steps or gives up, or a new one. -/
theorem Command.of_may_cursor (hMay : command.May session (.cursor number)) :
    session.world.cursors.size ≤ number ∨
      ∃ iteration : Iteration, iteration.number = number ∧
        (command.ended?.bind session.iterations.get? = some iteration ∨
          (∃ name, command = .set (.next name) ∧ session.iterations.get? name = some iteration) ∨
          ∃ slot name output, command = .exported ⟨slot, .iteratorNext name output⟩) := by
  cases command with
  | set command =>
    cases command with
    | collect slot =>
      obtain ⟨other, hOther, hSame⟩ := hMay
      exact .inl (Deed.cursor.inj hSame ▸ hOther)
    | iterate slot name | cursor slot name | dropIteration name =>
      obtain ⟨iteration, hIteration, hSame⟩ := hMay
      exact .inr ⟨iteration, (Deed.cursor.inj hSame).symm, .inl hIteration⟩
    | next name =>
      obtain ⟨iteration, hIteration, hSame⟩ := hMay
      exact .inr ⟨iteration, (Deed.cursor.inj hSame).symm, .inr (.inl ⟨name, rfl, hIteration⟩)⟩
    | _ => exact hMay.elim
  | wrapper command =>
    cases command with
    | register | registerBorrowing | registerOwning | registerFramework | installBuiltins | toHost
    | toHostFor | makeHandle | poison => simp [May, WrapperCommand.May, Session.Converts,
        Registry.Converts, PointerWrapper.Converts] at hMay
    | _ => exact hMay.elim
  | exported call =>
    obtain ⟨slot, command⟩ := call
    cases command with
    | setIterate name | iteratorFree name =>
      obtain ⟨iteration, hIteration, hSame⟩ := hMay
      exact .inr ⟨iteration, (Deed.cursor.inj hSame).symm, .inl hIteration⟩
    | iteratorNext name output =>
      obtain ⟨iteration, _, hSame⟩ := hMay
      exact .inr ⟨iteration, (Deed.cursor.inj hSame).symm, .inr (.inr ⟨slot, name, output, rfl⟩)⟩
    | init | register | registerCounted | registerFramework | toHost =>
      simp [May, ExportCommand.May, Session.Converts, Registry.Converts,
        PointerWrapper.Converts] at hMay
    | _ => exact hMay.elim
  | _ => exact hMay.elim

/-- What follows an operation and leaves an iterator alone. -/
theorem World.Aside.bind {first : SessionM α} {next : α → SessionM β} {outcome : Except Failure α}
    {after : Session} (hFirst : first.run.run session = (outcome, after))
    (hStarted : number < after.world.cursors.size)
    (hNext : ∀ value, World.Aside number after.world ((next value).run.run after).2.world) :
    World.Aside number after.world ((first >>= next).run.run session).2.world := by
  rw [run_bind, hFirst]
  cases outcome with
  | error failure => exact .refl hStarted
  | ok value => exact hNext value

namespace Session

/-- The iterator in a slot counts only if it was started by the exported function. -/
theorem run_iteratorArgument (name : Option String) (session : Session) :
    (iteratorArgument name).run.run session =
      (.ok ((name.bind session.iterations.get?).bind fun iteration =>
        if iteration.stepping = .exported then some iteration.number else none), session) := by
  rw [iteratorArgument, run_get]
  cases name.bind session.iterations.get? with
  | none => rfl
  | some iteration =>
    obtain ⟨number, stepping, ordered, seen⟩ := iteration
    cases stepping <;> rfl

/-- A step that has nothing to store its element in is rejected. -/
theorem hands_iteratorNext_rejected {may : Deed → Prop} {others : Estate} {world : World}
    {thread : Thread} (iterator : Option Nat) :
    Hands may others world 0 (Export.iteratorNext thread iterator false)
      fun outcome => .ofHost (refClaims outcome.2) := by
  refine Export.hands_guarded rfl ?_
  cases iterator with
  | none => exact .throw
  | some number =>
    exact .bind (Export.neutral_outputArgument false _ _ _) fun _ _ hRun => by cases hRun

theorem transfers_readIterator {may : Deed → Prop} {others : Estate} {session : Session}
    (name : Option String) :
    Transfers may others session 0 (iteratorArgument name) fun _ => 0 := by
  unfold Transfers Hands
  rw [run_iteratorArgument]
  exact .refl

/-- A call that finds an iterator, and something to store the element in, steps it. -/
theorem stepper?_iteratorNext {slot name : Option String} {object : Pointer}
    (hHolds : session.Holds slot object)
    (hIterator : ((name.bind session.iterations.get?).bind fun iteration =>
      if iteration.stepping = .exported then some iteration.number else none) = some number) :
    Command.stepper? session number (.exported ⟨slot, .iteratorNext name true⟩) ≠ none := by
  obtain ⟨iteration, hIteration, hNumber⟩ := Option.bind_eq_some_iff.mp hIterator
  obtain ⟨name, rfl, hSlot⟩ := Option.bind_eq_some_iff.mp hIteration
  split at hNumber
  next hStepping =>
    have hObject : slot.all (fun slot => (session.objects.get? slot).isSome) = true := by
      cases slot with
      | none => rfl
      | some slot =>
        obtain ⟨content, hContent, _⟩ := hHolds
        simp [hContent]
    simp [Command.stepper?, hSlot, Option.some.inj hNumber, hStepping, hObject]
  next => cases hNumber

/-- A call that asks for another iterator, or gives nothing to store the element in. -/
theorem aside_iteratorNext {slot name : Option String} {output : Bool}
    (hStepper : Command.stepper? session number (.exported ⟨slot, .iteratorNext name output⟩) = none)
    (hStarted : number < session.world.cursors.size) :
    World.Aside number session.world
      ((ExportCall.run ⟨slot, .iteratorNext name output⟩).run.run session).2.world := by
  have hRun : Transfers (fun deed => deed ≠ .cursor number) 0 session 0
      (ExportCall.run ⟨slot, .iteratorNext name output⟩) fun _ => 0 := by
    refine .via (fun _ => 0) ?_ fun object middle hObject => ?_
    · cases slot with
      | none => exact .pure rfl
      | some slot => exact transfers_content fun _ _ => .pure rfl
    · obtain ⟨rfl, hHolds⟩ := run_objectArgument hObject
      refine .via (fun _ => 0) (transfers_readIterator name) fun iterator middle hIterator => ?_
      rw [run_iteratorArgument] at hIterator
      obtain ⟨hFound, rfl⟩ := Prod.mk.inj hIterator
      refine .bind (transfers_exported ?_) fun outcome _ _ => transfers_stepped outcome
      cases output with
      | false => exact hands_iteratorNext_rejected iterator
      | true =>
        refine Export.hands_iteratorNext fun other hOther hSame => ?_
        obtain rfl := Deed.cursor.inj hSame
        rw [hOther] at hFound
        exact stepper?_iteratorNext hHolds (Except.ok.inj hFound) hStepper
  exact hRun.aside (fun hNot => hNot rfl) hStarted

/-- A command that does not step an iterator and does not give it up leaves it alone. -/
theorem aside_perform (hStepper : command.stepper? session number = none)
    (hKeeps : command.Keeps session number) (hStarted : number < session.world.cursors.size) :
    World.Aside number session.world (perform command session).2.world := by
  have hRun : World.Aside number session.world (command.run.run.run session).2.world := by
    by_cases hNext : ∃ slot name output, command = .exported ⟨slot, .iteratorNext name output⟩
    · obtain ⟨slot, name, output, rfl⟩ := hNext
      exact aside_iteratorNext hStepper hStarted
    · have hForget : World.Aside number session.world (command.forget session.world) := by
        unfold Command.forget
        split <;> exact .of_eq hStarted rfl rfl
      obtain ⟨start, finish, hStart, hFinish, hMoves⟩ := command.exists_moves session
      rw [← hFinish]
      refine hForget.trans (hStart ▸ hMoves.aside (fun hMay => ?_) (hStart ▸ hForget.started))
      rcases command.of_may_cursor hMay with hNew | ⟨iteration, hNumber, hTouched⟩
      · omega
      · rcases hTouched with hEnded | ⟨name, rfl, hIteration⟩ | ⟨slot, name, output, rfl⟩
        · exact hKeeps iteration hEnded hNumber
        · simp [Command.stepper?, hIteration, hNumber] at hStepper
        · exact hNext ⟨slot, name, output, rfl⟩
  rw [perform_snd]
  exact hRun.trans ((World.changes_settle _).aside hRun.started)

/-- The part of a command that steps an iterator, and what follows it. -/
theorem aside_stepped {first : SessionM α} {next : α → SessionM β} {stepper : Stepper}
    {outcome : Except Failure α} (between : α → Estate)
    (hFirst : first.run.run session =
      (outcome, { session with world := stepper.step number session.world }))
    (hStarted : number < (stepper.step number session.world).cursors.size)
    (hNext : ∀ value after,
      Transfers (fun _ => False) 0 after (between value) (next value) fun _ => 0) :
    World.Aside number (stepper.step number session.world)
      ((first >>= next).run.run session).2.world :=
  World.Aside.bind hFirst hStarted fun value => (hNext value _).aside id hStarted

def noteStep (name : String) (iteration : Iteration) : Session.Step → SessionM Reply
  | .element form => do
    let iteration := { iteration with seen := iteration.seen ++ [form] }
    modify fun session => { session with iterations := session.iterations.put name iteration }
    return .next (if iteration.ordered then some form else none)
  | .finished => return .exhausted (if iteration.ordered then none else some iteration.seen)
  | .failed => do return .notAdvanced ((← get).world.lastError? thread)

theorem advance_eq (name : String) : advance name = (do
    let iteration ← content (·.iterations) name
    noteStep name iteration (← stepIteration iteration)) := rfl

theorem neutral_noteStep (name : String) (iteration : Iteration) (step : Session.Step) :
    Neutral (noteStep name iteration step) := by
  cases step with
  | element form => exact .bind neutral_modifyIterations fun _ => .pure
  | finished => exact .pure
  | failed => exact .get fun _ => .pure

/-- A command that steps an iterator does with it just what its stepper does. -/
theorem aside_advance {iteration : Iteration} (hIteration : session.iterations.get? name = some iteration)
    (hStarted : iteration.number <
      (iteration.stepping.stepper.step iteration.number session.world).cursors.size) :
    World.Aside iteration.number
      (iteration.stepping.stepper.step iteration.number session.world)
      ((advance name).run.run session).2.world := by
  rw [advance_eq, run_bind, run_content, hIteration]
  dsimp only
  obtain ⟨number, stepping, ordered, seen⟩ := iteration
  cases stepping with
  | native =>
    simp only [stepIteration, bind_assoc]
    refine aside_stepped valueEstate (run_bridge _ session) hStarted fun element after => ?_
    cases element with
    | some value =>
      simp only [bind_assoc, pure_bind]
      exact .bind (transfers_showAndKeepValue none value) fun _ _ _ => neutral_noteStep name _ _ _ _ _
    | none =>
      simp only [pure_bind]
      exact neutral_noteStep name _ _ _ _ _
  | cursor =>
    simp only [stepIteration, bind_assoc]
    refine aside_stepped (fun _ => 0) (run_bridge _ session) hStarted fun element after => ?_
    cases element with
    | some ref =>
      simp only [bind_assoc, pure_bind]
      exact .bind (neutral_showAndKeep none ref _ _ _) fun _ _ _ => neutral_noteStep name _ _ _ _ _
    | none =>
      simp only [pure_bind]
      exact neutral_noteStep name _ _ _ _ _
  | exported =>
    simp only [stepIteration, bind_assoc]
    refine aside_stepped (fun outcome => .ofHost (refClaims outcome.2)) (run_exported _ session) hStarted
      fun outcome after => ?_
    obtain ⟨status, element⟩ := outcome
    cases element with
    | some ref =>
      simp only [bind_assoc, pure_bind]
      exact .bind (transfers_unhold ref) fun _ _ _ =>
        .bind (neutral_showAndKeep none ref _ _ _) fun _ _ _ => neutral_noteStep name _ _ _ _ _
    | none =>
      simp only [pure_bind]
      exact neutral_noteStep name _ _ _ _ _

/-- So does a call of the exported function, if it finds its object and its iterator. -/
theorem aside_steppedByCall {slot : Option String} {iteration : Iteration}
    (hIteration : session.iterations.get? name = some iteration)
    (hStepping : iteration.stepping = .exported)
    (hObject : slot.all (fun slot => (session.objects.get? slot).isSome) = true)
    (hStarted : iteration.number < ((Stepper.exported thread).step iteration.number
      session.world).cursors.size) :
    World.Aside iteration.number ((Stepper.exported thread).step iteration.number session.world)
      ((ExportCall.run ⟨slot, .iteratorNext (some name) true⟩).run.run session).2.world := by
  have hFound : ∃ object, (objectArgument slot).run.run session = (.ok object, session) := by
    cases slot with
    | none => exact ⟨.null, rfl⟩
    | some slot =>
      obtain ⟨content, hContent⟩ := Option.isSome_iff_exists.mp hObject
      exact ⟨.native content.address, by rw [objectArgument, run_bind, run_content, hContent]; rfl⟩
  obtain ⟨object, hFound⟩ := hFound
  rw [ExportCall.run, run_bind, hFound]
  dsimp only
  rw [ExportCommand.runOn, run_bind, run_iteratorArgument]
  simp only [Option.bind_some, hIteration, hStepping, if_true]
  exact aside_stepped (fun outcome => .ofHost (refClaims outcome.2)) (run_exported _ session) hStarted
    fun outcome _ => transfers_stepped outcome

/-- A command that steps an iterator does nothing else with it. -/
theorem aside_steppedBy {stepper : Stepper} (hStepper : command.stepper? session number = some stepper)
    (hStarted : number < (stepper.step number session.world).cursors.size) :
    World.Aside number (stepper.step number session.world) (perform command session).2.world := by
  have hRun : World.Aside number (stepper.step number session.world)
      (command.run.run.run session).2.world := by
    unfold Command.stepper? at hStepper
    split at hStepper
    next name =>
      split at hStepper
      next iteration hIteration =>
        split at hStepper
        next hNumber =>
          obtain rfl := hNumber
          obtain rfl := Option.some.inj hStepper
          exact aside_advance hIteration hStarted
        next => cases hStepper
      next => cases hStepper
    next slot name =>
      split at hStepper
      next iteration hIteration =>
        split at hStepper
        next hSteps =>
          obtain ⟨rfl, hStepping, hObject⟩ := hSteps
          obtain rfl := Option.some.inj hStepper
          exact aside_steppedByCall hIteration hStepping hObject hStarted
        next => cases hStepper
      next => cases hStepper
    next => cases hStepper
  rw [perform_snd]
  exact hRun.trans ((World.changes_settle _).aside hRun.started)

/-- What the steps of an iterator come to while commands are run. -/
def tellings (number : Nat) : List Command → Session → List Told
  | [], _ => []
  | command :: rest, session =>
    (if (command.stepper? session number).isSome then [session.world.told number] else []) ++
      tellings number rest (perform command session).2

/-- Whether none of these commands gives an iterator up. -/
def Keep (number : Nat) : List Command → Session → Prop
  | [], _ => True
  | command :: rest, session =>
    command.Keeps session number ∧ Keep number rest (perform command session).2

/-- A command is a step of an iterator or none. -/
theorem run_perform (hKeeps : command.Keeps session number)
    (hStarted : number < session.world.cursors.size) :
    Run number session.world
      (if (command.stepper? session number).isSome then [session.world.told number] else [])
      (perform command session).2.world := by
  cases hStepper : command.stepper? session number with
  | none => exact .aside .refl (aside_perform hStepper hKeeps hStarted)
  | some stepper =>
    exact .aside (.step .refl stepper) (aside_steppedBy hStepper (stepper.started_step hStarted))

/-- Commands are a run of every iterator that they do not give up. -/
theorem run_performAll {commands : List Command} (hKeep : Keep number commands session)
    (hStarted : number < session.world.cursors.size) :
    Run number session.world (tellings number commands session)
      (performAll commands session).2.world := by
  induction commands generalizing session with
  | nil => exact .refl
  | cons command rest ih =>
    obtain ⟨hFirst, hRest⟩ := hKeep
    have hRun := run_perform hFirst hStarted
    exact hRun.trans (ih hRest (hRun.started hStarted))

/-- The set that an iteration starts over is the one behind the slot. -/
theorem run_backing_of_source? {slot : String} {source : Ref}
    (hSource : (session.objects.get? slot).bind (fun object =>
      session.world.native.backing? object.address) = some source) :
    (backing slot).run.run session = (.ok source, session) := by
  obtain ⟨object, hObject, hBacking⟩ := Option.bind_eq_some_iff.mp hSource
  rw [run_backing, hObject]
  dsimp only
  rw [hBacking]

/-- What a command does with the iterator that was in the slot of a new one. -/
theorem aside_keepIteration (session : Session) {iteration : Iteration} {next : SessionM α}
    (hNext : Neutral next)
    (hKeeps : ∀ old, session.iterations.get? name = some old → old.number ≠ number)
    (hStarted : number < session.world.cursors.size) :
    World.Aside number session.world ((do keepIteration name iteration; next).run.run session).2.world :=
  have hKept : Transfers (fun deed => deed ≠ .cursor number) 0 session 0
      (do keepIteration name iteration; next) fun _ => 0 :=
    .bind (transfers_keepIteration iteration fun old hOld hSame =>
      hKeeps old hOld (Deed.cursor.inj hSame)) fun _ _ _ => hNext _ _ _
  hKept.aside (fun hNot => hNot rfl) hStarted

theorem started_startOver (source : Ref) (size : Nat) (world : World) :
    world.cursors.size < (world.startOver source size).cursors.size := by
  simp [World.startOver, World.startCursor]

/-- An iteration that is started gets an iterator of its own. -/
theorem aside_startIteration {slot : String} {source : Ref} {table : Host.SetTable}
    {stepping : Stepping}
    (hSource : (session.objects.get? slot).bind (fun object =>
      session.world.native.backing? object.address) = some source)
    (hOwn : ForeignSet.ownElements? source session.world.host = some table)
    (hKeeps : ∀ old, session.iterations.get? name = some old →
      old.number ≠ session.world.cursors.size) :
    World.Aside session.world.cursors.size (session.world.startOver source table.size)
      ((startIteration slot name stepping).run.run session).2.world := by
  rw [startIteration, run_bind, run_backing_of_source? hSource]
  dsimp only
  rw [run_bind, run_bridge, ForeignSet.run_iterate hOwn]
  exact aside_keepIteration { session with world := session.world.startOver source table.size } .pure
    hKeeps (started_startOver ..)

/-- So does one that is started by the exported function. -/
theorem aside_iterateExported {slot : String} {iteration : Option String} {source : Ref}
    {table : Host.SetTable}
    (hSource : (session.objects.get? slot).bind (fun object =>
      session.world.native.backing? object.address) = some source)
    (hOwn : ForeignSet.ownElements? source session.world.host = some table)
    (hKeeps : ∀ old, iteration.bind session.iterations.get? = some old →
      old.number ≠ session.world.cursors.size) :
    World.Aside session.world.cursors.size (session.world.startOver source table.size)
      ((ExportCall.run ⟨some slot, .setIterate iteration⟩).run.run session).2.world := by
  obtain ⟨object, hObject, hBacking⟩ := Option.bind_eq_some_iff.mp hSource
  have hStarted := started_startOver source table.size session.world
  have hFound : (objectArgument (some slot)).run.run session =
      (.ok (.native object.address), session) := by
    rw [objectArgument, run_bind, run_content, hObject]
    rfl
  have hCleared : World.Aside session.world.cursors.size (session.world.startOver source table.size)
      ((session.world.startOver source table.size).clearLastError thread) :=
    .of_eq hStarted rfl rfl
  rw [ExportCall.run, run_bind, hFound]
  dsimp only
  rw [ExportCommand.runOn, iterateExported, run_bind, run_exported,
    Export.run_setIterate hOwn hBacking]
  refine hCleared.trans ?_
  cases iteration with
  | none => exact .refl hCleared.started
  | some name =>
    exact aside_keepIteration
      { session with world := (session.world.startOver source table.size).clearLastError thread }
      (neutral_reply _) hKeeps hCleared.started

/-- A command that starts an iteration leaves its new iterator alone from then on. -/
theorem aside_starts {source : Ref} {table : Host.SetTable} (hSource : command.source? session = some source)
    (hOwn : ForeignSet.ownElements? source session.world.host = some table)
    (hKeeps : command.Keeps session session.world.cursors.size) :
    World.Aside session.world.cursors.size (session.world.startOver source table.size)
      (perform command session).2.world := by
  have hRun : World.Aside session.world.cursors.size (session.world.startOver source table.size)
      (command.run.run.run session).2.world := by
    unfold Command.source? at hSource
    split at hSource
    · exact aside_startIteration hSource hOwn hKeeps
    · exact aside_startIteration hSource hOwn hKeeps
    · exact aside_iterateExported hSource hOwn hKeeps
    · cases hSource
  rw [perform_snd]
  exact hRun.trans ((World.changes_settle _).aside hRun.started)

/-- Iteration over the elements of a set from a world on. -/
structure Iterates (before : World) (source : Ref) (size : Nat) : Prop where
  /-- An iterator starts with a number of its own, -/
  starts : (ForeignSet.iterate source).run.run before =
    (.ok before.cursors.size, before.startOver source size)
  /-- and so does one that the exported function starts over a proxy of the set. -/
  exported : ∀ thread address, before.native.backing? address = some source →
    (Export.setIterate thread (.native address)).run before =
      (some before.cursors.size, (before.startOver source size).clearLastError thread)
  /-- It fails fast and for good wherever it is led to by steps of its own and by what does not step it, -/
  runs : ∀ past world, Run before.cursors.size (before.startOver source size) past world →
    FailFast before.cursors.size source size past world
  /-- hence after any commands that do not give it up, whatever else they do. -/
  sessions : ∀ (session : Session) (command : Command) (commands : List Command),
    session.world = before → command.source? session = some source →
      Keep before.cursors.size (command :: commands) session →
        FailFast before.cursors.size source size
          (tellings before.cursors.size commands (perform command session).2)
          (performAll commands (perform command session).2).2.world

/-- Iterators over a set whose class leaves iteration to sets fail fast: a step fails just if the set has
another size than at the start of its iterator, or that iterator has failed before; otherwise it hands out
what is in the set, until the iterator is exhausted for good. -/
theorem iteration_failFast {before : World} {source : Ref} {table : Host.SetTable}
    (hOwn : ForeignSet.ownElements? source before.host = some table) :
    Iterates before source table.size where
  starts := ForeignSet.run_iterate hOwn
  exported thread _ hBacking := Export.run_setIterate hOwn hBacking thread
  runs _ _ hRun := (hRun.standing (.startOver hOwn)).failFast
  sessions session command commands hWorld hSource hKeep := by
    subst hWorld
    have hFirst := aside_starts hSource hOwn hKeep.1
    have hRest := run_performAll hKeep.2 hFirst.started
    have hRun := (Run.aside .refl hFirst).trans hRest
    exact (hRun.standing (.startOver hOwn)).failFast

/-- A world with a set of one element and a proxy of it. -/
def oneElement : World := (performAll [.set (.create "s" (.set [.int 1]))] {}).2.world

theorem iteration_failFast_oneElement :
    ∃ table, ForeignSet.ownElements? (.object 0) oneElement.host = some table ∧ table.size = 1 ∧
      Iterates oneElement (.object 0) table.size := by
  have hElement : (ForeignSet.ownElements? (.object 0) oneElement.host).map (·.size) = some 1 := by
    decide +kernel
  obtain ⟨table, hOwn, hSize⟩ := Option.map_eq_some_iff.mp hElement
  exact ⟨table, hOwn, hSize, iteration_failFast hOwn⟩

end Session

end HeapBridge
