import HeapBridge.Proofs.Handles.Crossing
import HeapBridge.Proofs.Iteration.Agreement
import HeapBridge.Proofs.Iteration.Sessions
import HeapBridge.Proofs.Ownership.Sweeping
/-!
Iteration is complete. An iterator over a set that is not modified hands out the elements of the set one
after the other and is exhausted then, whatever else is done in between; in particular it keeps the set
alive by itself. The main statement is about a run of an iterator: its steps tell just the list of elements.
-/
namespace HeapBridge

open Host (Heap Ref SetTable)

variable {world before after : World} {number : Nat} {source : Ref} {table : SetTable}
  {past : List Told}

namespace Host.SetTable

/-- The elements from a slot on. -/
def remaining (table : SetTable) (position : Nat) : List Ref :=
  ((table.slots.toList.drop position).filterMap (·.element?)).map (·.2)

@[simp] theorem remaining_zero (table : SetTable) : table.remaining 0 = table.toList := rfl

theorem length_toList (table : SetTable) : table.toList.length = table.size := by
  rw [toList, List.length_map, entries, List.length_filterMap_eq_countP, size,
    Array.countP_toList]

/-- What is found from a slot on is the first of the elements that remain there. -/
theorem remaining_eq (table : SetTable) (position : Nat) :
    table.remaining position = match table.from? position with
      | some (found, _, ref) => ref :: table.remaining (found + 1)
      | none => [] := by
  unfold from?
  generalize hCount : table.slots.size - position = count
  induction count generalizing position with
  | zero =>
    have hOut : table.slots.toList.length ≤ position := by
      rw [Array.length_toList]
      omega
    rw [firstWithin, remaining, List.drop_eq_nil_of_le hOut]
    rfl
  | succ count ih =>
    have hIn : position < table.slots.toList.length := by
      rw [Array.length_toList]
      omega
    have hSlot : table.slot position = table.slots.toList[position] := by
      rw [Array.length_toList] at hIn
      rw [slot, Array.getD_eq_getD_getElem?, Array.getElem?_eq_getElem hIn, Option.getD_some,
        Array.getElem_toList]
    rw [firstWithin, remaining, List.drop_eq_getElem_cons hIn, ← hSlot, List.filterMap_cons]
    cases (table.slot position).element? with
    | some entry => rfl
    | none => exact ih (position + 1) (by omega)

/-- A step over a set of the same size hands out the first of the elements that remain. -/
theorem step_eq (table : SetTable) (position : Nat) :
    (table.remaining position = [] ∧ table.step position table.size false = .exhausted) ∨
      ∃ next ref, table.remaining position = ref :: table.remaining next ∧
        table.step position table.size false = .element next ref := by
  have hStep : table.step position table.size false = match table.from? position with
      | some (found, _, ref) => .element (found + 1) ref
      | none => .exhausted := by
    unfold step
    exact if_neg (by simp)
  rw [hStep, remaining_eq table position]
  rcases table.from? position with _ | ⟨found, _, ref⟩
  · exact .inl ⟨rfl, rfl⟩
  · exact .inr ⟨found + 1, ref, rfl, rfl⟩

end Host.SetTable

def World.Keeps (source : Ref) (table : SetTable) (world : World) : Prop :=
  ∀ address object, source = .object address → world.host.object? address = some object →
    object.body.elements? = some table

theorem World.Keeps.elements (hKeeps : world.Keeps source table)
    (hElements : world.host.HasElements source) :
    (world.host.body source).elements? = some table := by
  obtain ⟨address, object, rfl, hObject, _⟩ := hElements.exists_object
  rw [Heap.body, Heap.view_of_object? hObject]
  exact hKeeps address object rfl hObject

/-- A run of an iterator over a set that has the same elements at every step. -/
inductive Steady (number : Nat) (source : Ref) (table : SetTable) (start : World) :
    List Told → World → Prop where
  | refl : Steady number source table start [] start
  /-- Something else is done. -/
  | aside {past : List Told} {middle finish : World}
      (prior : Steady number source table start past middle)
      (aside : World.Aside number middle finish) : Steady number source table start past finish
  | step {past : List Told} {middle : World}
      (prior : Steady number source table start past middle) (hKeeps : middle.Keeps source table)
      (stepper : Stepper) :
      Steady number source table start (past ++ [middle.told number]) (stepper.step number middle)

/-- Where an iterator stands that has handed out some elements of a set. -/
structure Midway (number : Nat) (source : Ref) (table : SetTable) (past : List Told)
    (world : World) : Prop where
  standing : Standing number source table.size past world
  /-- The steps have told the elements in order, and nothing from then on. -/
  told : ∀ index < past.length, past[index]? = some (.ok table.toList[index]?)
  /-- The elements that remain are those that have not been told. -/
  position : past.length ≤ table.size → ∃ position,
    world.cursor number = .elements source position table.size false ∧
      table.remaining position = table.toList.drop past.length

/-- Whoever steps an iterator does nothing to it but the step. -/
theorem Stepper.aside_step (stepper : Stepper) (hStarted : number < (world.stepped number).cursors.size) :
    World.Aside number (world.stepped number) (stepper.step number world) := by
  cases stepper with
  | cursor => exact .refl hStarted
  | native =>
    rw [Stepper.step, ForeignSet.run_nextValue]
    have hConverted : Transfers (fun _ => False) 0 (world.stepped number) 0
        (BridgeM.finish (world.told number) >>= ForeignSet.elementValue) valueEstate :=
      .via (fun _ => 0) (BridgeM.transfers_finish (onSuccess_zero _).symm) fun element _ _ =>
        ForeignSet.transfers_elementValue element
    exact hConverted.aside id hStarted
  | exported thread =>
    rw [Stepper.step, Export.run_iteratorNext]
    exact Told.aside_leave hStarted _

namespace Midway

theorem startOver (hOwn : ForeignSet.ownElements? source world.host = some table) :
    Midway world.cursors.size source table [] (world.startOver source table.size) where
  standing := .startOver hOwn
  told := nofun
  position _ := ⟨0, World.cursor_startCursor_self _ world, rfl⟩

/-- What others do does not move an iterator on. -/
theorem aside (hMidway : Midway number source table past before)
    (hAside : World.Aside number before after) : Midway number source table past after where
  standing := hMidway.standing.aside hAside
  told := hMidway.told
  position hPast := by
    obtain ⟨position, hCursor, hRemaining⟩ := hMidway.position hPast
    exact ⟨position, hAside.cursor.trans hCursor, hRemaining⟩

/-- The iterator is exhausted once the steps have told more than the elements. -/
theorem exhausted_iff (hMidway : Midway number source table past world) :
    .ok none ∈ past ↔ table.size < past.length := by
  rw [← SetTable.length_toList]
  constructor
  · intro hExhausted
    obtain ⟨index, hIndex, hNone⟩ := List.mem_iff_getElem.mp hExhausted
    have hTold := hMidway.told index hIndex
    rw [List.getElem?_eq_getElem hIndex, hNone, Option.some.injEq, Except.ok.injEq, eq_comm,
      List.getElem?_eq_none_iff] at hTold
    omega
  · intro hPast
    refine List.mem_of_getElem? ((hMidway.told table.toList.length hPast).trans ?_)
    rw [List.getElem?_eq_none (Nat.le_refl _)]

/-- The next step tells the next element, and the elements after it remain. -/
theorem next (hMidway : Midway number source table past world)
    (hKeeps : world.Keeps source table) :
    world.told number = .ok table.toList[past.length]? ∧
      (past.length < table.size → ∃ position,
        (world.stepped number).cursor number = .elements source position table.size false ∧
          table.remaining position = table.toList.drop (past.length + 1)) := by
  by_cases hPast : table.size < past.length
  · have hTold := (hMidway.standing.told_finished (hMidway.exhausted_iff.mpr hPast)).1
    rw [List.getElem?_eq_none (table.length_toList ▸ Nat.le_of_lt hPast)]
    exact ⟨hTold, fun hLess => by omega⟩
  · obtain ⟨position, hCursor, hRemaining⟩ := hMidway.position (Nat.le_of_not_lt hPast)
    have hElements := (hMidway.standing.running (mt hMidway.exhausted_iff.mp hPast)).1
    have hRun : (world.told number, world.stepped number) = _ :=
      ForeignSet.run_next_elements hCursor (hKeeps.elements hElements)
    rcases table.step_eq position with ⟨hNone, hStep⟩ | ⟨after, ref, hSome, hStep⟩
    · have hLength : table.size ≤ past.length := by
        rw [hNone, eq_comm, List.drop_eq_nil_iff, SetTable.length_toList] at hRemaining
        exact hRemaining
      rw [hStep] at hRun
      rw [List.getElem?_eq_none (table.length_toList ▸ hLength)]
      exact ⟨(Prod.mk.inj hRun).1, fun hLess => by omega⟩
    · rw [hStep] at hRun
      obtain ⟨hTold, hStepped⟩ := Prod.mk.inj hRun
      have hDrop : table.toList.drop past.length = ref :: table.remaining after :=
        hRemaining.symm.trans hSome
      have hElement : table.toList[past.length]? = some ref := by
        rw [← List.head?_drop, hDrop, List.head?_cons]
      have hTail : table.remaining after = table.toList.drop (past.length + 1) := by
        rw [← List.tail_drop, hDrop, List.tail_cons]
      refine ⟨by rw [hTold, hElement], fun _ => ⟨after, ?_, hTail⟩⟩
      rw [hStepped, World.cursor_moveCursor_self hMidway.standing.started]

/-- After a step the elements that remain are one less, or the walk is over. -/
theorem step (hMidway : Midway number source table past world)
    (hKeeps : world.Keeps source table) (stepper : Stepper) :
    Midway number source table (past ++ [world.told number]) (stepper.step number world) := by
  obtain ⟨hTold, hStepped⟩ := hMidway.next hKeeps
  refine ⟨hMidway.standing.step stepper, fun index hIndex => ?_, fun hPast => ?_⟩
  · rcases Nat.lt_or_ge index past.length with hEarlier | hLast
    · rw [List.getElem?_append_left hEarlier]
      exact hMidway.told index hEarlier
    · obtain rfl : index = past.length := by
        rw [List.length_append, List.length_singleton] at hIndex
        omega
      rw [List.getElem?_append_right (Nat.le_refl _), Nat.sub_self, hTold]
      rfl
  · rw [List.length_append, List.length_singleton] at hPast ⊢
    obtain ⟨position, hCursor, hRemaining⟩ := hStepped hPast
    have hAside := stepper.aside_step hMidway.standing.next.started
    exact ⟨position, hAside.cursor.trans hCursor, hRemaining⟩

end Midway

/-- However an iterator over a set that keeps its elements has been stepped, it has told them in order. -/
theorem Steady.midway {start finish : World} (steady : Steady number source table start past finish)
    (hStart : Midway number source table [] start) : Midway number source table past finish := by
  induction steady with
  | refl => exact hStart
  | aside _ hAside ih => exact ih.aside hAside
  | step _ hKeeps stepper ih => exact ih.step hKeeps stepper

namespace ForeignSet

/-- A set of which the class leaves that to sets counts its elements. -/
theorem run_count (hTable : (world.host.body source).elements? = some table)
    (hPlain : world.host.scripted? source "__len__" = none) :
    (count source).run.run world = (.ok table.toList.length, world) := by
  rw [count_eq, BridgeM.contract, BridgeM.run_host, Host.runOn_length hTable hPlain, SetTable.length_toList]

/-- With its iterator a set is given up at the latest, unless something else refers to it. -/
theorem isReferenced_of_dropIterator {address : Nat} {world : World}
    (hSource : (world.cursor number).references = [.object address])
    (hLive : (dropIterator number world).host.isLive (.object address) = true) :
    (dropIterator number world).isReferenced (.object address) = true := by
  rw [dropIterator, hSource] at hLive ⊢
  exact World.isReferenced_of_release hLive

end ForeignSet

namespace Session

/-- Whether a set has these elements, as long as it is there, whenever a command is run. -/
def Unmodified (source : Ref) (table : SetTable) : List Command → Session → Prop
  | [], _ => True
  | command :: rest, session =>
    session.world.Keeps source table ∧ Unmodified source table rest (perform command session).2

/-- Commands that do not modify a set are a steady run of every iterator that they do not give up. -/
theorem steady_performAll {start : World} {commands : List Command} {session : Session}
    (steady : Steady number source table start past session.world) (hKeep : Keep number commands session)
    (hUnmodified : Unmodified source table commands session)
    (hStarted : number < session.world.cursors.size) :
    Steady number source table start (past ++ tellings number commands session)
      (performAll commands session).2.world := by
  induction commands generalizing session past with
  | nil =>
    rw [tellings, List.append_nil]
    exact steady
  | cons command rest ih =>
    obtain ⟨hKeeps, hKeepRest⟩ := hKeep
    obtain ⟨hTable, hRest⟩ := hUnmodified
    have hLater : number < (perform command session).2.world.cursors.size :=
      (run_perform hKeeps hStarted).started hStarted
    rw [tellings, ← List.append_assoc]
    refine ih ?_ hKeepRest hRest hLater
    cases hStepper : command.stepper? session number with
    | none => simpa using steady.aside (aside_perform hStepper hKeeps hStarted)
    | some stepper =>
      exact (steady.step hTable stepper).aside
        (aside_steppedBy hStepper (stepper.started_step hStarted))

/-- Iteration from a world on over a set that is not modified. -/
structure Completes (before : World) (source : Ref) (table : SetTable) : Prop where
  /-- There are as many elements as are counted, -/
  counted : before.host.scripted? source "__len__" = none →
    (ForeignSet.count source).run.run before = (.ok table.toList.length, before)
  /-- the steps tell them one after the other and nothing from then on, wherever the iterator is led to;
  the set stays as long as there is something left to tell, -/
  runs : ∀ past world,
    Steady before.cursors.size source table (before.startOver source table.size) past world →
      (∀ index < past.length, past[index]? = some (.ok table.toList[index]?)) ∧
        (past.length ≤ table.toList.length → world.host.HasElements source)
  /-- hence so do the steps that commands make, whatever else they do and whatever they let go of. -/
  sessions : ∀ (session : Session) (command : Command) (commands : List Command),
    session.world = before → command.source? session = some source →
      Keep before.cursors.size (command :: commands) session →
        Unmodified source table commands (perform command session).2 →
          ∀ index < (tellings before.cursors.size commands (perform command session).2).length,
            (tellings before.cursors.size commands (perform command session).2)[index]? =
              some (.ok table.toList[index]?)

/-- The ways to iterate over a host value are as good as each other. -/
structure Interchange (source : Ref) : Prop where
  /-- A step for a native value is a step for a host object, which is converted, -/
  native : ∀ number world, (ForeignSet.nextValue number).run.run world =
    (BridgeM.finish (world.told number) >>= ForeignSet.elementValue).run.run (world.stepped number)
  /-- and so is a step by the exported function, which is held or told as an error. -/
  exported : ∀ thread number world, (Export.iteratorNext thread (some number) true).run world =
    ((world.told number).reported, (world.told number).leave thread (world.stepped number))
  /-- So no program that iterates over the host value tells them apart: it comes to the same with any, and
  the world to the same but for the last errors. -/
  programs : ∀ {α : Type} (stepper : Stepper) (proxy : Nat) (failed : Option String → α)
    (program : Traversal α) (world : World), world.native.backing? proxy = some source →
      Agree (Stepper.native.serve source proxy failed program world)
        (stepper.serve source proxy failed program world)
  /-- A call that has nowhere to store an element takes none. -/
  rejected : ∀ thread number (world : World),
    ∃ after, (Export.iteratorNext thread (some number) false).run world = ((-1, none), after) ∧
      world.Agrees after ∧ after.told number = world.told number ∧
        after.lastError? thread = some "Null output pointer"
  /-- Over a set that is not modified each element is handed out once. -/
  complete : ∀ before table, ForeignSet.ownElements? source before.host = some table →
    Completes before source table
  /-- The set is given up with the iterator at the latest, unless something else refers to it. -/
  released : ∀ (stepper : Stepper) number (world : World) address, number < world.cursors.size →
    source = .object address → (world.cursor number).references = [source] →
      (stepper.free number world).cursor number = .finished ∧
        ((stepper.free number world).host.isLive source = true →
          (stepper.free number world).isReferenced source = true)

/-- A new iterator over a set completes, however it is stepped. -/
theorem completes {before : World} (hOwn : ForeignSet.ownElements? source before.host = some table) :
    Completes before source table where
  counted hPlain := ForeignSet.run_count (ForeignSet.elements_of_ownElements? hOwn) hPlain
  runs past world hSteady := by
    have hMidway := hSteady.midway (.startOver hOwn)
    refine ⟨hMidway.told, fun hPast => (hMidway.standing.running (mt hMidway.exhausted_iff.mp ?_)).1⟩
    rw [← SetTable.length_toList]
    exact Nat.not_lt.mpr hPast
  sessions session command commands hWorld hSource hKeep hUnmodified := by
    subst hWorld
    have hFirst := aside_starts hSource hOwn hKeep.1
    have hSteady := steady_performAll (Steady.refl.aside hFirst) hKeep.2 hUnmodified hFirst.started
    exact (hSteady.midway (.startOver hOwn)).told

/-- Iterators for native values, those for host objects and those of the exported functions are as good
as each other over any host value; over a set that is not modified they are complete. -/
theorem iterators_interchange (source : Ref) : Interchange source where
  native := ForeignSet.run_nextValue
  exported := Export.run_iteratorNext
  programs stepper _ failed program world hProxy :=
    stepper.agree_serve failed program (.refl world) hProxy
  rejected thread number world := by
    have hAgrees : world.Agrees (world.setLastError thread "Null output pointer") :=
      (World.Agrees.refl world).setLastError thread _
    refine ⟨_, Export.run_iteratorNext_rejected thread number world, hAgrees, ?_, ?_⟩
    · exact ((ForeignSet.unaware_next number).oblivious _ _ hAgrees).1
    · rw [World.lastError?_setLastError, if_pos rfl]
      rfl
  complete _ _ := completes
  released stepper number world address _ hSource hCursor := by
    subst hSource
    obtain ⟨lastErrors, hFree⟩ := stepper.agrees_free number (.refl world)
    rw [hFree]
    exact ⟨(ForeignSet.cursor_dropIterator_eq_ite number _ number).trans (if_pos rfl),
      ForeignSet.isReferenced_of_dropIterator hCursor⟩

/-- An iteration over two elements during which the only proxy of the set is given up. -/
example :
    let started := performAll [.set (.create "s" (.set [.int 1, .int 2])), .set (.iterate "s" "i")] {}
    tellings 0 [.exported ⟨some "s", .setRelease⟩, .set (.next "i"), .set (.next "i"),
        .set (.next "i")] started.2 =
      [.ok (some (.atom (.int 1))), .ok (some (.atom (.int 2))), .ok none] := by
  decide +kernel

end Session

end HeapBridge
