import HeapBridge.Proofs.Boundary.Refinement
import HeapBridge.Proofs.Iteration.Runs
/-!
The ways to iterate agree. A program that goes over a host value is given native values by an iterator, or
host objects, or calls the exported functions; only the forms differ in which it is given elements and
errors. The main statement is about every such program, whatever else it does and however that depends on
what it has been given: once the forms are made alike, it comes to the same, and the world to the same but
for the last errors.
-/
namespace HeapBridge

open Host (HostM Ref)

variable {α β : Type} {world other : World} {number : Nat} {source : Ref} {thread : Thread}

/-- Whether two actions that have run have come to the same, but for the last errors. -/
def Agree (first second : α × World) : Prop := second.1 = first.1 ∧ first.2.Agrees second.2

/-- Whether an action comes to the same whatever the last errors are. It may change them. -/
def Oblivious (action : World → α × World) : Prop :=
  ∀ world other, world.Agrees other → Agree (action world) (action other)

theorem Unaware.oblivious {operation : BridgeM α} (hOperation : Unaware operation) :
    Oblivious operation.run.run := by
  rintro world _ ⟨lastErrors, rfl⟩
  rw [hOperation]
  exact ⟨rfl, .withErrors _ _⟩

/-- The text of an error, unless a reader would not see it in full. -/
def BridgeError.readable? (error : BridgeError) : Option String :=
  if hasNul error.message then none else some error.message

theorem BridgeError.lastError?_setLastError (error : BridgeError) (thread : Thread) (world : World) :
    (world.setLastError thread error.message).lastError? thread = error.readable? := by
  rw [World.lastError?_setLastError, if_pos rfl]
  rfl

/-- What native code makes of a run of an operation if it reads errors only. -/
def legible : Except BridgeError α × World → Except (Option String) α × World
  | (.ok value, world) => (.ok value, world)
  | (.error error, world) => (.error error.readable?, world)

namespace ForeignSet

/-- The native value of a host object whose reference is handed over. -/
def takenValue (ref : Ref) : BridgeM (Option NativeValue) := do
  let result ← tryCatch (Except.ok <$> some <$> NativeValue.fromHost ref)
    fun error => return .error error
  modify (·.letGo ref)
  BridgeM.finish result

theorem unaware_takenValue (ref : Ref) : Unaware (takenValue ref) :=
  .of_overlooks fun _ => .bind ((NativeValue.overlooks_fromHost ref).map some).attempt fun result =>
    .bind (.modify (World.commutes_letGo ref)) fun _ => BridgeM.overlooks_finish result

theorem unaware_elementValue (element : Option Ref) : Unaware (elementValue element) :=
  .of_overlooks fun _ => overlooks_elementValue element

theorem unaware_nextValue (number : Nat) : Unaware (nextValue number) :=
  .of_overlooks fun _ => overlooks_nextValue number

end ForeignSet

/-- What a step gives to native code: a value, none at the end, or the text of an error. -/
abbrev Yield := Except (Option String) (Option NativeValue)

namespace Stepper

/-- Starts an iterator over a host value, or over a proxy of it for a caller of the exported function. -/
def start (stepper : Stepper) (source : Ref) (proxy : Nat) (world : World) :
    Except (Option String) Nat × World :=
  match stepper with
  | native | cursor => legible ((ForeignSet.iterate source).run.run world)
  | exported thread =>
    match (Export.setIterate thread (.native proxy)).run world with
    | (some number, after) => (.ok number, after)
    | (none, after) => (.error (after.lastError? thread), after)

/-- Takes the next value from an iterator. A host object is converted, and let go of. -/
def take (stepper : Stepper) (number : Nat) (world : World) : Yield × World :=
  match stepper with
  | native => legible ((ForeignSet.nextValue number).run.run world)
  | cursor =>
    match (ForeignSet.next number).run.run world with
    | (.ok element, after) => legible ((ForeignSet.elementValue element).run.run after)
    | (.error error, after) => (.error error.readable?, after)
  | exported thread =>
    match (Export.iteratorNext thread (some number) true).run world with
    | ((_, some ref), after) => legible ((ForeignSet.takenValue ref).run.run after)
    | ((status, none), after) =>
      (if status = 0 then .ok none else .error (after.lastError? thread), after)

def free (stepper : Stepper) (number : Nat) (world : World) : World :=
  match stepper with
  | native | cursor => ForeignSet.dropIterator number world
  | exported thread => ((Export.iteratorFree thread (some number)).run world).2

end Stepper

/-- A program that goes over a host value. What it does may depend on what it has been given. -/
inductive Traversal (α : Type) : Type 1 where
  | done (value : α)
  /-- Does anything else that the last errors have no part in. -/
  | act {β : Type} (action : World → β × World) (hOblivious : Oblivious action)
    (next : β → Traversal α)
  | take (next : Yield → Traversal α)
  | free (next : Traversal α)

/-- Runs a program with an iterator that is stepped in one of the ways. -/
def Traversal.run (stepper : Stepper) (number : Nat) : Traversal α → World → α × World
  | .done value, world => (value, world)
  | .act action _ next, world => run stepper number (next (action world).1) (action world).2
  | .take next, world =>
    run stepper number (next (stepper.take number world).1) (stepper.take number world).2
  | .free next, world => run stepper number next (stepper.free number world)

/-- Starts an iterator and runs a program with it, unless that fails. -/
def Stepper.serve (stepper : Stepper) (source : Ref) (proxy : Nat) (failed : Option String → α)
    (program : Traversal α) (world : World) : α × World :=
  match stepper.start source proxy world with
  | (.ok number, after) => program.run stepper number after
  | (.error text, after) => (failed text, after)

theorem Agree.legible {first second : Except BridgeError α × World} (hAgree : Agree first second) :
    Agree (legible first) (legible second) := by
  obtain ⟨_, after⟩ := first
  obtain ⟨outcome, other⟩ := second
  obtain ⟨rfl, hWorlds⟩ := hAgree
  cases outcome <;> exact ⟨rfl, hWorlds⟩

theorem Export.unaware_setArgument (proxy : Nat) : Unaware (setArgument (.native proxy)) := by
  refine .get (fun _ _ => rfl) fun world => ?_
  split
  · exact .pure
  · exact .throw

/-- The exported function starts an iterator over what its argument is a proxy of. -/
theorem Export.run_setIterate_native {proxy : Nat} (hProxy : world.native.backing? proxy = some source) :
    (setIterate thread (.native proxy)).run world =
      match (ForeignSet.iterate source).run.run world with
      | (.ok number, after) => (some number, after.clearLastError thread)
      | (.error error, after) => (none, after.setLastError thread error.message) := by
  have hUnaware : Unaware (do
      return some (← ForeignSet.iterate (← setArgument (.native proxy))) : BridgeM (Option Nat)) :=
    .bind (unaware_setArgument proxy) fun backing =>
      .bind (ForeignSet.unaware_iterate backing) fun _ => .pure
  rw [setIterate, run_guarded_of_unaware hUnaware, run_bind, run_setArgument_native, hProxy]
  dsimp only
  rw [run_bind]
  rcases (ForeignSet.iterate source).run.run world with ⟨error | number, after⟩ <;> rfl

/-- A step that has nowhere to store its element is rejected at once. -/
theorem Export.run_iteratorNext_rejected (thread : Thread) (number : Nat) (world : World) :
    (iteratorNext thread (some number) false).run world =
      ((-1, none), world.setLastError thread "Null output pointer") := by
  have hOutput : (outputArgument false).run.run (world.clearLastError thread) =
      (.error (.invalidArgument .nullOutput), world.clearLastError thread) := rfl
  rw [iteratorNext, run_guarded, run_bind, hOutput]
  exact congrArg (Prod.mk _) (World.setLastError_clearLastError ..)

namespace Stepper

/-- Whoever starts an iterator starts the same one. -/
theorem agree_start (stepper : Stepper) {proxy : Nat} (hAgrees : world.Agrees other)
    (hProxy : world.native.backing? proxy = some source) :
    Agree (native.start source proxy world) (stepper.start source proxy other) := by
  have hStart := (ForeignSet.unaware_iterate source).oblivious world other hAgrees
  cases stepper with
  | native => exact hStart.legible
  | cursor => exact hStart.legible
  | exported thread =>
    obtain ⟨lastErrors, rfl⟩ := hAgrees
    have hBacking : (world.withErrors lastErrors).native.backing? proxy = some source := hProxy
    rw [start, start, Export.run_setIterate_native hBacking]
    revert hStart
    rcases (ForeignSet.iterate source).run.run world with ⟨_, after⟩
    rcases (ForeignSet.iterate source).run.run (world.withErrors lastErrors) with ⟨outcome, other⟩
    rintro ⟨rfl, hAfter⟩
    cases outcome with
    | ok number => exact ⟨rfl, hAfter.clearLastError thread⟩
    | error error =>
      exact ⟨congrArg Except.error (error.lastError?_setLastError thread other),
        hAfter.setLastError thread _⟩

/-- Whoever takes a step takes the same one. -/
theorem agree_take (stepper : Stepper) (number : Nat) (hAgrees : world.Agrees other) :
    Agree (native.take number world) (stepper.take number other) := by
  cases stepper with
  | native => exact ((ForeignSet.unaware_nextValue number).oblivious world other hAgrees).legible
  | cursor =>
    have hNext := (ForeignSet.unaware_next number).oblivious world other hAgrees
    rw [take, take, ForeignSet.run_nextValue, World.told, World.stepped]
    revert hNext
    rcases (ForeignSet.next number).run.run world with ⟨_, after⟩
    rcases (ForeignSet.next number).run.run other with ⟨outcome, otherAfter⟩
    rintro ⟨rfl, hAfter⟩
    cases outcome with
    | ok element =>
      exact ((ForeignSet.unaware_elementValue element).oblivious _ _ hAfter).legible
    | error error => exact ⟨rfl, hAfter⟩
  | exported thread =>
    have hNext := (ForeignSet.unaware_next number).oblivious world other hAgrees
    have hTold : other.told number = world.told number := hNext.1
    have hStepped : (world.stepped number).Agrees (other.stepped number) := hNext.2
    rw [take, take, Export.run_iteratorNext, ForeignSet.run_nextValue, hTold]
    rcases world.told number with error | _ | ref
    · exact ⟨congrArg Except.error (error.lastError?_setLastError thread _),
        hStepped.setLastError thread _⟩
    · exact ⟨rfl, hStepped.clearLastError thread⟩
    · have hHeld : ((world.stepped number).hold ref).Agrees
          (((other.stepped number).clearLastError thread).hold ref) :=
        (hStepped.clearLastError thread).change fun _ _ => rfl
      exact ((ForeignSet.unaware_takenValue ref).oblivious _ _ hHeld).legible

/-- Whoever gives an iterator up gives up the same one. -/
theorem agrees_free (stepper : Stepper) (number : Nat) (hAgrees : world.Agrees other) :
    (native.free number world).Agrees (stepper.free number other) := by
  have hDropped := hAgrees.change (.dropIterator number)
  cases stepper with
  | native => exact hDropped
  | cursor => exact hDropped
  | exported thread =>
    have hUnaware : Unaware (modify (ForeignSet.dropIterator number)) := .modify (.dropIterator number)
    have hFree := Export.run_guarded_of_unaware hUnaware thread () other
    have hFreed : (exported thread).free number other =
        (ForeignSet.dropIterator number other).clearLastError thread := congrArg Prod.snd hFree
    rw [hFreed]
    exact hDropped.clearLastError thread

end Stepper

/-- A program comes to the same however its iterator is stepped. -/
theorem Traversal.agree_run (program : Traversal α) (stepper : Stepper) (number : Nat)
    (hAgrees : world.Agrees other) :
    Agree (program.run .native number world) (program.run stepper number other) := by
  induction program generalizing world other with
  | done value => exact ⟨rfl, hAgrees⟩
  | act action hOblivious next ih =>
    obtain ⟨hSame, hAfter⟩ := hOblivious world other hAgrees
    rw [run, run, hSame]
    exact ih _ hAfter
  | take next ih =>
    obtain ⟨hSame, hAfter⟩ := stepper.agree_take number hAgrees
    rw [run, run, hSame]
    exact ih _ hAfter
  | free next ih =>
    rw [run, run]
    exact ih (stepper.agrees_free number hAgrees)

/-- So it does with the iterator started in the same way. -/
theorem Stepper.agree_serve (stepper : Stepper) {proxy : Nat} (failed : Option String → α)
    (program : Traversal α) (hAgrees : world.Agrees other)
    (hProxy : world.native.backing? proxy = some source) :
    Agree (native.serve source proxy failed program world)
      (stepper.serve source proxy failed program other) := by
  have hStart := stepper.agree_start hAgrees hProxy
  unfold serve
  revert hStart
  rcases native.start source proxy world with ⟨_, after⟩
  rcases stepper.start source proxy other with ⟨outcome, otherAfter⟩
  rintro ⟨rfl, hAfter⟩
  cases outcome with
  | ok number => exact program.agree_run stepper number hAfter
  | error text => exact ⟨rfl, hAfter⟩

end HeapBridge
