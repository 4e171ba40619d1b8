import HeapBridge.Proofs.Ownership.Exports
/-!
Steps of iterators. An iterator over the elements of a set looks at the size of the set first: if that is
another one than at the start, or once was, the step fails and nothing else happens. Otherwise it hands out
an element that the set has now, or is exhausted and lets go of the set. The three ways to step an iterator
tell the same.
-/
namespace HeapBridge

open Host (Ref SetTable)

variable {world : World} {number position size : Nat} {source ref : Ref} {broken : Bool}
  {table : SetTable}

namespace Host.SetTable

/-- What is in a slot is an element. -/
theorem mem_toList_of_slot {index : Nat} {hash : Int}
    (hSlot : (table.slot index).element? = some (hash, ref)) : ref ∈ table.toList := by
  unfold slot at hSlot
  rcases Nat.lt_or_ge index table.slots.size with hIn | hOut
  · rw [Array.getD_eq_getD_getElem?, Array.getElem?_eq_getElem hIn, Option.getD_some] at hSlot
    unfold toList entries
    exact List.mem_map.mpr ⟨(hash, ref), List.mem_filterMap.mpr
      ⟨table.slots[index], Array.mem_toList_iff.mpr (Array.getElem_mem hIn), hSlot⟩, rfl⟩
  · rw [Array.getD_eq_getD_getElem?, Array.getElem?_eq_none hOut] at hSlot
    cases hSlot

/-- What a walk finds is an element. -/
theorem mem_toList_of_firstWithin {count index found : Nat} {hash : Int}
    (hFound : table.firstWithin count index = some (found, hash, ref)) : ref ∈ table.toList := by
  induction count generalizing index with
  | zero => cases hFound
  | succ count ih =>
    rw [firstWithin] at hFound
    split at hFound
    next entry hSlot =>
      cases hFound
      exact mem_toList_of_slot hSlot
    next => exact ih hFound

/-- A walk breaks off just if the size of the set has changed, now or before. -/
theorem step_eq_changed_iff :
    table.step position size broken = .changed ↔ table.size ≠ size ∨ broken = true := by
  unfold step
  split
  next h => simpa [or_comm] using h
  next h =>
    have hSame : ¬ (table.size ≠ size ∨ broken = true) := by simpa [or_comm] using h
    refine iff_of_false ?_ hSame
    split <;> nofun

/-- An element that a walk hands out is in the set. -/
theorem mem_of_step {next : Nat} (hStep : table.step position size broken = .element next ref) :
    ref ∈ table.toList := by
  unfold step at hStep
  split at hStep
  · cases hStep
  · split at hStep
    next found hash other hFound =>
      cases hStep
      exact mem_toList_of_firstWithin hFound
    next => cases hStep

end Host.SetTable

namespace World

theorem cursor_moveCursor_self (hStarted : number < world.cursors.size) (cursor : Cursor) :
    (world.moveCursor number cursor).cursor number = cursor := by
  simp [World.cursor, moveCursor, Array.getElem?_setIfInBounds_self_of_lt hStarted]

theorem cursor_moveCursor_of_ne {other : Nat} (hOther : number ≠ other) (cursor : Cursor) :
    (world.moveCursor number cursor).cursor other = world.cursor other := by
  simp [World.cursor, moveCursor, Array.getElem?_setIfInBounds_ne hOther]

@[simp] theorem size_moveCursor (number : Nat) (cursor : Cursor) (world : World) :
    (world.moveCursor number cursor).cursors.size = world.cursors.size := by
  simp [moveCursor]

theorem cursor_congr {before after : World} (hCursors : after.cursors = before.cursors) (number : Nat) :
    after.cursor number = before.cursor number := by
  rw [World.cursor, World.cursor, hCursors]

theorem cursor_release (refs : List Ref) (world : World) (number : Nat) :
    (world.release refs).cursor number = world.cursor number :=
  cursor_congr (changes_release refs world).cursors_registry.1 number

theorem cursor_startCursor_self (cursor : Cursor) (world : World) :
    (world.startCursor cursor).2.cursor world.cursors.size = cursor := by
  simp [World.cursor, startCursor]

theorem cursor_startCursor_of_lt (hStarted : number < world.cursors.size) (cursor : Cursor) :
    (world.startCursor cursor).2.cursor number = world.cursor number := by
  simp [World.cursor, startCursor, Array.getElem?_push, Nat.ne_of_lt hStarted]

end World

namespace ForeignSet

/-- Dropping an iterator ends it and no other. -/
theorem cursor_dropIterator_eq_ite (dropped : Nat) (world : World) (number : Nat) :
    (dropIterator dropped world).cursor number =
      if dropped = number then .finished else world.cursor number := by
  refine (World.cursor_release _ _ number).trans ?_
  split
  next hSame =>
    subst hSame
    rcases Nat.lt_or_ge dropped world.cursors.size with hStarted | hNever
    · exact World.cursor_moveCursor_self hStarted _
    · simp [World.cursor, World.moveCursor, Array.getD, Nat.not_lt.mpr hNever]
  next hOther => exact World.cursor_moveCursor_of_ne hOther _

def sizeChanged : BridgeError :=
  .contractViolation .iterate "RuntimeError: Set changed size during iteration"

theorem run_next_finished (hCursor : world.cursor number = .finished) :
    (next number).run.run world = (.ok none, world) := by
  change (HostCall.contract (.step number)).run.run world = _
  rw [HostCall.run_contract, HostCall.outcome, HostCall.stepped, run_get, hCursor]
  rfl

/-- What a step of an iterator over the elements of a set comes to. -/
theorem run_next_elements (hCursor : world.cursor number = .elements source position size broken)
    (hTable : (world.host.body source).elements? = some table) :
    (next number).run.run world =
      match table.step position size broken with
      | .changed =>
        (.error sizeChanged, world.moveCursor number (.elements source position size true))
      | .exhausted => (.ok none, (world.moveCursor number .finished).release [source])
      | .element after ref =>
        (.ok (some ref), world.moveCursor number (.elements source after size false)) := by
  change (HostCall.contract (.step number)).run.run world = _
  rw [HostCall.run_contract, HostCall.outcome, HostCall.stepped, run_get, hCursor]
  dsimp only
  rw [hTable, Option.getD_some]
  cases table.step position size broken <;> rfl

end ForeignSet

end HeapBridge
