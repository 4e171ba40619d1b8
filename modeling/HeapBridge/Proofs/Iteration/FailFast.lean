import HeapBridge.Proofs.Iteration.Runs
/-!
Iteration fails fast and for good. However the steps of an iterator are mixed with whatever else is done, a
step fails just if the set has another size than at the start or an earlier step has failed; once an iterator
is exhausted it stays so.
-/
namespace HeapBridge

open Host (Ref SetTable)

variable {world before after : World} {number size : Nat} {source : Ref} {past : List Told}

/-- Where an iterator over the elements of a set stands after steps that came to `past`. -/
structure Standing (number : Nat) (source : Ref) (size : Nat) (past : List Told) (world : World) :
    Prop where
  started : number < world.cursors.size
  exhausted : .ok none ∈ past → world.cursor number = .finished
  running : .ok none ∉ past → world.host.HasElements source ∧ ∃ position broken,
    world.cursor number = .elements source position size broken ∧
      (broken = true ↔ .error ForeignSet.sizeChanged ∈ past)

/-- What the next step of an iterator comes to, which started over a set of a size and whose steps have
come to `past`. -/
structure FailFast (number : Nat) (source : Ref) (size : Nat) (past : List Told) (world : World) :
    Prop where
  /-- An exhausted iterator is exhausted for good, and a step does nothing. -/
  sticky : .ok none ∈ past → world.told number = .ok none ∧ world.stepped number = world
  /-- Any other one fails just if the set has another size now or the iterator has failed before; it hands
  out what is in the set now. -/
  running : .ok none ∉ past → ∃ table, (world.host.body source).elements? = some table ∧
    (world.told number = .error ForeignSet.sizeChanged ↔
      table.size ≠ size ∨ .error ForeignSet.sizeChanged ∈ past) ∧
    (∀ error, world.told number = .error error → error = ForeignSet.sizeChanged) ∧
    ∀ ref, world.told number = .ok (some ref) → ref ∈ table.toList
  /-- A step that fails changes nothing but where the iterator itself stands. -/
  failing : world.told number = .error ForeignSet.sizeChanged →
    ∃ cursor, world.stepped number = world.moveCursor number cursor
  /-- The other ways to step the iterator come to the same: the element is converted, -/
  native : (ForeignSet.nextValue number).run.run world =
    (BridgeM.finish (world.told number) >>= ForeignSet.elementValue).run.run (world.stepped number)
  /-- or stored for the caller unless the step fails. -/
  exported : ∀ thread, (Export.iteratorNext thread (some number) true).run world =
    ((world.told number).reported, (world.told number).leave thread (world.stepped number))

/-- The world in which an iterator over the elements of a set of a size has just been started. -/
def World.startOver (source : Ref) (size : Nat) (world : World) : World :=
  (world.startCursor (.elements source 0 size false)).2

namespace ForeignSet

theorem elements_of_ownElements? {heap : Host.Heap} {table : SetTable}
    (hOwn : ownElements? source heap = some table) : (heap.body source).elements? = some table := by
  unfold ownElements? at hOwn
  split at hOwn
  · exact hOwn
  · cases hOwn

theorem run_iterate {table : SetTable} (hOwn : ownElements? source world.host = some table) :
    (iterate source).run.run world =
      (.ok world.cursors.size, world.startOver source table.size) := by
  rw [iterate_eq, run_get, hOwn]
  rfl

end ForeignSet

/-- The exported function starts the same iterator. -/
theorem Export.run_setIterate {table : SetTable} {address : Nat}
    (hOwn : ForeignSet.ownElements? source world.host = some table)
    (hBacking : world.native.backing? address = some source) (thread : Thread) :
    (setIterate thread (.native address)).run world =
      (some world.cursors.size, (world.startOver source table.size).clearLastError thread) := by
  have hSource : (setArgument (.native address)).run.run (world.clearLastError thread) =
      (.ok source, world.clearLastError thread) := by
    rw [run_setArgument_native, show (world.clearLastError thread).native = world.native from rfl,
      hBacking]
  have hIterate : (ForeignSet.iterate source).run.run (world.clearLastError thread) =
      (.ok world.cursors.size, (world.clearLastError thread).startOver source table.size) :=
    ForeignSet.run_iterate hOwn
  rw [setIterate, run_guarded, run_bind, hSource]
  dsimp only
  rw [run_bind, hIterate]
  rfl

namespace Standing

/-- An iterator starts with nothing behind it. -/
theorem startOver {table : SetTable} (hOwn : ForeignSet.ownElements? source world.host = some table) :
    Standing world.cursors.size source table.size [] (world.startOver source table.size) where
  started := by simp [World.startOver, World.startCursor]
  exhausted hPast := by cases hPast
  running _ := by
    have hElements : world.host.HasElements source := by
      rw [Host.Heap.HasElements, ForeignSet.elements_of_ownElements? hOwn]
      rfl
    exact ⟨hElements, 0, false, World.cursor_startCursor_self _ world, by simp⟩

/-- What is done elsewhere does not change how an iterator stands. -/
theorem aside (hStanding : Standing number source size past before)
    (hAside : World.Aside number before after) : Standing number source size past after where
  started := hAside.started
  exhausted hPast := hAside.cursor.trans (hStanding.exhausted hPast)
  running hPast := by
    obtain ⟨hElements, position, broken, hCursor, hBroken⟩ := hStanding.running hPast
    have hSource : source ∈ (before.cursor number).references := by
      rw [hCursor]
      exact List.mem_singleton_self _
    exact ⟨hAside.elements source hSource hElements, position, broken,
      hAside.cursor.trans hCursor, hBroken⟩

/-- What an iterator comes to that is not exhausted. -/
theorem cases (hStanding : Standing number source size past world) (hPast : .ok none ∉ past) :
    ∃ table position broken, (world.host.body source).elements? = some table ∧
      world.cursor number = .elements source position size broken ∧
      (broken = true ↔ .error ForeignSet.sizeChanged ∈ past) ∧
      (world.told number, world.stepped number) =
        match table.step position size broken with
        | .changed => (.error ForeignSet.sizeChanged,
            world.moveCursor number (.elements source position size true))
        | .exhausted => (.ok none, (world.moveCursor number .finished).release [source])
        | .element next ref =>
          (.ok (some ref), world.moveCursor number (.elements source next size false)) := by
  obtain ⟨hElements, position, broken, hCursor, hBroken⟩ := hStanding.running hPast
  obtain ⟨table, hTable⟩ := Option.isSome_iff_exists.mp hElements
  exact ⟨table, position, broken, hTable, hCursor, hBroken,
    ForeignSet.run_next_elements hCursor hTable⟩

theorem told_finished (hStanding : Standing number source size past world) (hPast : .ok none ∈ past) :
    world.told number = .ok none ∧ world.stepped number = world := by
  have hRun := ForeignSet.run_next_finished (hStanding.exhausted hPast)
  exact ⟨congrArg Prod.fst hRun, congrArg Prod.snd hRun⟩

/-- A step keeps the books on where the iterator stands. -/
theorem next (hStanding : Standing number source size past world) :
    Standing number source size (past ++ [world.told number]) (world.stepped number) := by
  have hStarted := hStanding.started
  by_cases hPast : .ok none ∈ past
  · obtain ⟨hTold, hStepped⟩ := hStanding.told_finished hPast
    rw [hTold, hStepped]
    exact ⟨hStarted, fun _ => hStanding.exhausted hPast, fun hNot => (hNot (by simp)).elim⟩
  · obtain ⟨table, position, broken, hTable, hCursor, hBroken, hRun⟩ := hStanding.cases hPast
    have hElements : world.host.HasElements source := by
      rw [Host.Heap.HasElements, hTable]
      rfl
    cases hStep : table.step position size broken with
    | changed =>
      rw [hStep] at hRun
      obtain ⟨hTold, hStepped⟩ := Prod.mk.inj hRun
      rw [hTold, hStepped]
      refine ⟨by simpa using hStarted, fun hNone => ?_, fun _ => ⟨hElements, position, true,
        World.cursor_moveCursor_self hStarted _, by simp⟩⟩
      simp [hPast] at hNone
    | exhausted =>
      rw [hStep] at hRun
      obtain ⟨hTold, hStepped⟩ := Prod.mk.inj hRun
      have hAside : World.Aside number (world.moveCursor number .finished)
          ((world.moveCursor number .finished).release [source]) :=
        (World.changes_release [source] _).aside (by simpa using hStarted)
      rw [hTold, hStepped]
      exact ⟨hAside.started, fun _ =>
        hAside.cursor.trans (World.cursor_moveCursor_self hStarted _),
        fun hNot => (hNot (by simp)).elim⟩
    | element after ref =>
      have hSame : table.size = size ∧ broken = false := by
        have hUnchanged : table.step position size broken ≠ .changed := by simp [hStep]
        simpa [Host.SetTable.step_eq_changed_iff] using hUnchanged
      rw [hStep] at hRun
      obtain ⟨hTold, hStepped⟩ := Prod.mk.inj hRun
      rw [hSame.2] at hBroken
      rw [hTold, hStepped]
      refine ⟨by simpa using hStarted, fun hNone => ?_, fun _ => ⟨hElements, after, false,
        World.cursor_moveCursor_self hStarted _, by simpa using hBroken⟩⟩
      simp [hPast] at hNone

/-- What a step of an iterator that is not exhausted comes to. -/
theorem running_told (hStanding : Standing number source size past world)
    (hPast : .ok none ∉ past) : ∃ table, (world.host.body source).elements? = some table ∧
      (world.told number = .error ForeignSet.sizeChanged ↔
        table.size ≠ size ∨ .error ForeignSet.sizeChanged ∈ past) ∧
      (∀ error, world.told number = .error error → error = ForeignSet.sizeChanged) ∧
      ∀ ref, world.told number = .ok (some ref) → ref ∈ table.toList := by
  obtain ⟨table, position, broken, hTable, _, hBroken, hRun⟩ := hStanding.cases hPast
  have hChanged : table.step position size broken = .changed ↔ table.size ≠ size ∨ broken = true :=
    Host.SetTable.step_eq_changed_iff
  rw [hBroken] at hChanged
  refine ⟨table, hTable, ?_⟩
  rw [← hChanged]
  cases hStep : table.step position size broken with
  | changed =>
    rw [hStep] at hRun
    rw [(Prod.mk.inj hRun).1]
    exact ⟨by simp, by simp, by simp⟩
  | exhausted =>
    rw [hStep] at hRun
    rw [(Prod.mk.inj hRun).1]
    exact ⟨by simp, by simp, by simp⟩
  | element after ref =>
    rw [hStep] at hRun
    rw [(Prod.mk.inj hRun).1]
    refine ⟨by simp, by simp, fun other hOther => ?_⟩
    obtain rfl : ref = other := by simpa using hOther
    exact Host.SetTable.mem_of_step hStep

/-- A step that fails marks the iterator and does nothing else. -/
theorem failing_stepped (hStanding : Standing number source size past world)
    (hTold : world.told number = .error ForeignSet.sizeChanged) :
    ∃ cursor, world.stepped number = world.moveCursor number cursor := by
  have hPast : .ok none ∉ past := by
    intro hPast
    rw [(hStanding.told_finished hPast).1] at hTold
    cases hTold
  obtain ⟨table, position, broken, _, _, _, hRun⟩ := hStanding.cases hPast
  split at hRun
  · exact ⟨_, (Prod.mk.inj hRun).2⟩
  · rw [(Prod.mk.inj hRun).1] at hTold
    cases hTold
  · rw [(Prod.mk.inj hRun).1] at hTold
    cases hTold

/-- Where an iterator stands decides whether it goes on. -/
theorem failFast (hStanding : Standing number source size past world) :
    FailFast number source size past world where
  sticky := hStanding.told_finished
  running := hStanding.running_told
  failing := hStanding.failing_stepped
  native := ForeignSet.run_nextValue number world
  exported thread := Export.run_iteratorNext thread number world

/-- Whoever steps an iterator does with it what a step for a host object does. -/
theorem step (hStanding : Standing number source size past world) (stepper : Stepper) :
    Standing number source size (past ++ [world.told number]) (stepper.step number world) := by
  have hNext := hStanding.next
  cases stepper with
  | cursor => exact hNext
  | native =>
    refine hNext.aside ?_
    rw [Stepper.step, ForeignSet.run_nextValue]
    have hConverted : Transfers (fun _ => False) 0 (world.stepped number) 0
        (BridgeM.finish (world.told number) >>= ForeignSet.elementValue) valueEstate :=
      .via (fun _ => 0) (BridgeM.transfers_finish (onSuccess_zero _).symm) fun element _ _ =>
        ForeignSet.transfers_elementValue element
    exact hConverted.aside id hNext.started
  | exported thread =>
    rw [Stepper.step, Export.run_iteratorNext]
    exact hNext.aside (Told.aside_leave hNext.started _)

end Standing

/-- Wherever a run has led to, the iterator stands as the steps in it tell. -/
theorem Run.standing {start finish : World} (run : Run number start past finish)
    (hStart : Standing number source size [] start) : Standing number source size past finish := by
  induction run with
  | refl => exact hStart
  | aside _ hAside ih => exact ih.aside hAside
  | step _ stepper ih => exact ih.step stepper

end HeapBridge
