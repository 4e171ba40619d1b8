import HeapBridge.Proofs.Evaluating
import HeapBridge.Proofs.Iteration.Steps
import HeapBridge.Proofs.Ownership.Sweeping
/-!
Worlds that shrink. Where references are only given up, nothing comes into either heap: objects go, native
objects have fewer references, and iterators are given up. What is left is what it was, and refers to
what it referred to.
-/
namespace HeapBridge

open Host (Ref)
open Native (Cell NativeClass Payload)

variable {world before middle after : World} {ref : Ref} {address number : Nat}

namespace Native

/-- What a cell holds, however often it is referred to. -/
def Cell.content : Cell → NativeClass ⊕ Payload
  | .reserved nativeClass => .inl nativeClass
  | .live object => .inr object.payload

/-- What is in a heap after a release was there before. -/
theorem Heap.content_of_release {heap : Heap} {other : Nat} {cell : Cell}
    (hCell : (heap.release address).2.cell? other = some cell) :
    ∃ old, heap.cell? other = some old ∧ old.content = cell.content := by
  cases hObject : heap.object? address with
  | none =>
    rw [release, hObject] at hCell
    exact ⟨cell, hCell, rfl⟩
  | some object =>
    rw [cell?_release hObject, Object.afterRelease] at hCell
    split at hCell
    next hSame =>
      split at hCell
      next => cases hCell
      next =>
        cases hCell
        exact ⟨.live object, hSame ▸ object?_eq_some_iff.mp hObject, rfl⟩
    next => exact ⟨cell, hCell, rfl⟩

/-- Storage that is given back is not there any more, and nothing else is changed. -/
theorem Heap.cell?_of_discard {heap : Heap} {other : Nat} {cell : Cell}
    (hCell : (heap.discard address).cell? other = some cell) : heap.cell? other = some cell := by
  unfold discard at hCell
  split at hCell
  next hReserved =>
    rcases eq_or_ne address other with rfl | hOther
    · rw [cell?_setCell_self (lt_size_of_cell? hReserved)] at hCell
      cases hCell
    · rwa [cell?_setCell_of_ne hOther] at hCell
  next => exact hCell

/-- References of the heap are those of its live objects. -/
theorem Heap.mem_references {heap : Heap} : ref ∈ heap.references ↔
    ∃ address object, heap.object? address = some object ∧ ref ∈ object.payload.references := by
  have hObjects (object : Object) :
      object ∈ heap.objects ↔ ∃ address, heap.object? address = some object := by
    simp only [objects, List.mem_filterMap, object?_eq_some_iff]
    constructor
    · rintro ⟨cell, hCell, hObject⟩
      obtain ⟨address, hIn, rfl⟩ := List.mem_iff_getElem.mp hCell
      split at hObject
      next found hFound =>
        cases hObject
        refine ⟨address, ?_⟩
        rw [cell?, Array.getElem?_eq_getElem (by simpa using hIn)]
        simpa using hFound
      next => cases hObject
    · rintro ⟨address, hCell⟩
      have hIn := lt_size_of_cell? hCell
      rw [cell?, Array.getElem?_eq_getElem hIn, Option.join_some] at hCell
      exact ⟨_, Array.getElem_mem_toList hIn, by rw [hCell]⟩
  simp only [references, List.mem_flatMap, hObjects]
  constructor
  · rintro ⟨object, ⟨address, hObject⟩, hRef⟩
    exact ⟨address, object, hObject, hRef⟩
  · rintro ⟨address, object, hObject, hRef⟩
    exact ⟨object, ⟨address, hObject⟩, hRef⟩

end Native

namespace World

/-- References of cursors are those of each. -/
theorem mem_cursor_references :
    ref ∈ world.cursors.toList.flatMap Cursor.references ↔
      ∃ number, ref ∈ (world.cursor number).references := by
  rw [List.mem_flatMap]
  constructor
  · rintro ⟨cursor, hCursor, hRef⟩
    obtain ⟨number, hIn, rfl⟩ := List.mem_iff_getElem.mp hCursor
    have hStarted : number < world.cursors.size := by simpa using hIn
    refine ⟨number, ?_⟩
    simpa [World.cursor, Array.getD, hStarted] using hRef
  · rintro ⟨number, hRef⟩
    rcases Nat.lt_or_ge number world.cursors.size with hStarted | hNever
    · refine ⟨world.cursors[number], Array.getElem_mem_toList hStarted, ?_⟩
      simpa [World.cursor, Array.getD, hStarted] using hRef
    · simp [World.cursor, Array.getD, Nat.not_lt.mpr hNever, Cursor.references] at hRef

/-- What refers to a host object, apart from whoever holds it from outside. -/
inductive Mentions (world : World) (ref : Ref) : Prop where
  | proxy {address : Nat} {object : Native.Object}
      (hObject : world.native.object? address = some object)
      (hRef : ref ∈ object.payload.references)
  | cursor (number : Nat) (hRef : ref ∈ (world.cursor number).references)
  | converter (hRef : ref ∈ world.registry.references)
  | object {address : Nat} {object : Host.Object} (hObject : world.host.object? address = some object)
      (hRef : ref ∈ object.references)
  | script {script : Host.Script} (hScript : script ∈ world.host.scripts)
      (hRef : ref ∈ script.references)

/-- To be referred to is to be held from outside or mentioned within. -/
theorem isReferenced_iff :
    world.isReferenced ref = true ↔ ref ∈ world.held ∨ world.Mentions ref := by
  have hHost : ref ∈ world.host.references ↔
      (∃ address object, world.host.object? address = some object ∧ ref ∈ object.references) ∨
        ∃ script ∈ world.host.scripts, ref ∈ script.references := by
    rw [← List.contains_iff_mem, ← Host.Heap.refersTo_eq, Host.Heap.refersTo_iff]
  rw [isReferenced_eq, List.contains_iff_mem]
  simp only [references, List.mem_append, Native.Heap.mem_references, mem_cursor_references, hHost]
  constructor
  · rintro ((((hHeld | ⟨address, object, hObject, hRef⟩) | ⟨number, hRef⟩) | hRef) |
      ⟨address, object, hObject, hRef⟩ | ⟨script, hScript, hRef⟩)
    · exact .inl hHeld
    · exact .inr (.proxy hObject hRef)
    · exact .inr (.cursor number hRef)
    · exact .inr (.converter hRef)
    · exact .inr (.object hObject hRef)
    · exact .inr (.script hScript hRef)
  · rintro (hHeld | ⟨hObject, hRef⟩ | ⟨number, hRef⟩ | hRef | ⟨hObject, hRef⟩ | ⟨hScript, hRef⟩)
    · exact .inl (.inl (.inl (.inl hHeld)))
    · exact .inl (.inl (.inl (.inr ⟨_, _, hObject, hRef⟩)))
    · exact .inl (.inl (.inr ⟨number, hRef⟩))
    · exact .inl (.inr hRef)
    · exact .inr (.inl ⟨_, _, hObject, hRef⟩)
    · exact .inr (.inr ⟨_, hScript, hRef⟩)

/-- Whether a world has nothing that another one does not have, but for what is held. -/
structure Shrinks (before after : World) : Prop where
  sizes : after.host.cells.size = before.host.cells.size ∧
    after.native.cells.size = before.native.cells.size
  scripts : after.host.scripts = before.host.scripts
  registry : after.registry = before.registry
  object : ∀ address object, after.host.object? address = some object →
    before.host.object? address = some object
  cell : ∀ address cell, after.native.cell? address = some cell →
    ∃ old, before.native.cell? address = some old ∧ old.content = cell.content
  cursor : ∀ number, after.cursor number = before.cursor number ∨ after.cursor number = .finished

namespace Shrinks

/-- Beside the heaps, the registry and the iterators anything may be changed. -/
theorem aside (hHost : after.host = before.host) (hNative : after.native = before.native)
    (hCursors : after.cursors = before.cursors) (hRegistry : after.registry = before.registry) :
    Shrinks before after where
  sizes := by rw [hHost, hNative]; exact ⟨rfl, rfl⟩
  scripts := by rw [hHost]
  registry := hRegistry
  object := by simp [hHost]
  cell _ cell hCell := ⟨cell, hNative ▸ hCell, rfl⟩
  cursor number := .inl (by rw [World.cursor, World.cursor, hCursors])

theorem refl (world : World) : Shrinks world world := .aside rfl rfl rfl rfl

/-- Shrinking adds up. -/
theorem trans (hFirst : Shrinks before middle) (hSecond : Shrinks middle after) :
    Shrinks before after where
  sizes := ⟨hSecond.sizes.1.trans hFirst.sizes.1, hSecond.sizes.2.trans hFirst.sizes.2⟩
  scripts := hSecond.scripts.trans hFirst.scripts
  registry := hSecond.registry.trans hFirst.registry
  object address object hObject := hFirst.object _ _ (hSecond.object _ _ hObject)
  cell address cell hCell := by
    obtain ⟨next, hNext, hContent⟩ := hSecond.cell address cell hCell
    obtain ⟨old, hOld, hSame⟩ := hFirst.cell address next hNext
    exact ⟨old, hOld, hSame.trans hContent⟩
  cursor number := by
    rcases hSecond.cursor number with hSame | hFinished
    · rw [hSame]
      exact hFirst.cursor number
    · exact .inr hFinished

/-- A cell that becomes vacant makes the world smaller. -/
theorem free (address : Nat) (world : World) :
    Shrinks world { world with host := world.host.free address } where
  sizes := ⟨by simp [Host.Heap.free], rfl⟩
  scripts := rfl
  registry := rfl
  object other object hObject := by
    rcases eq_or_ne address other with rfl | hOther
    · rw [Host.Heap.object?_free_self] at hObject
      cases hObject
    · rwa [Host.Heap.object?_free_of_ne hOther] at hObject
  cell _ cell hCell := ⟨cell, hCell, rfl⟩
  cursor _ := .inl rfl

/-- A release makes the world no larger. -/
theorem releaseNative (address : Nat) (world : World) :
    Shrinks world { world with native := (world.native.release address).2 } where
  sizes := by simp
  scripts := rfl
  registry := rfl
  object _ _ hObject := hObject
  cell _ _ hCell := Native.Heap.content_of_release hCell
  cursor _ := .inl rfl

theorem dropNative (address : Nat) (world : World) : Shrinks world (world.dropNative address).2 :=
  (releaseNative address world).trans (.aside (dropNative_host address world) (dropNative_native address world)
    (aside_dropNative address world).2.1 (aside_dropNative address world).2.2)

theorem dropHandle (discipline : Discipline) (pointer : Pointer) (world : World) :
    Shrinks world (world.dropHandle discipline pointer).2 := by
  cases discipline <;> cases pointer <;> first | exact .refl world | exact .dropNative _ world

/-- Reclaiming an object makes the world smaller. -/
theorem reclaim (address : Nat) (world : World) : Shrinks world (world.reclaim address).2 := by
  have hFree := Shrinks.free address world
  unfold World.reclaim
  dsimp only
  split
  next =>
    refine Shrinks.trans ?_ (.dropHandle _ _ _)
    exact hFree.trans (.aside rfl rfl rfl rfl)
  next => exact hFree

theorem discard (address : Nat) (world : World) :
    Shrinks world { world with native := world.native.discard address } where
  sizes := by simp
  scripts := rfl
  registry := rfl
  object _ _ hObject := hObject
  cell _ cell hCell := ⟨cell, Native.Heap.cell?_of_discard hCell, rfl⟩
  cursor _ := .inl rfl

/-- So does finishing an iterator. -/
theorem finish (number : Nat) (world : World) :
    Shrinks world (world.moveCursor number .finished) where
  sizes := ⟨rfl, rfl⟩
  scripts := rfl
  registry := rfl
  object _ _ hObject := hObject
  cell _ cell hCell := ⟨cell, hCell, rfl⟩
  cursor other := by
    rcases eq_or_ne number other with rfl | hOther
    · rcases Nat.lt_or_ge number world.cursors.size with hStarted | hNever
      · exact .inr (cursor_moveCursor_self hStarted _)
      · simp [World.cursor, World.moveCursor, Array.setIfInBounds, Nat.not_lt.mpr hNever]
    · exact .inl (cursor_moveCursor_of_ne hOther _)

/-- A native object that is left was there before and has its payload still. -/
theorem native (hShrinks : Shrinks before after) {object : Native.Object}
    (hObject : after.native.object? address = some object) :
    ∃ old, before.native.object? address = some old ∧ old.payload = object.payload := by
  rw [Native.Heap.object?_eq_some_iff] at hObject
  obtain ⟨cell, hCell, hContent⟩ := hShrinks.cell _ _ hObject
  cases cell with
  | reserved nativeClass => cases hContent
  | live old => exact ⟨old, Native.Heap.object?_eq_some_iff.mpr hCell, Sum.inr.inj hContent⟩

/-- What lives in the smaller world has lived before. -/
theorem isLive (hShrinks : Shrinks before after) (hLive : after.host.isLive ref = true) :
    before.host.isLive ref = true := by
  cases ref with
  | atom value => rfl
  | object address =>
    obtain ⟨object, hObject⟩ := Option.isSome_iff_exists.mp hLive
    exact Option.isSome_iff_exists.mpr ⟨object, hShrinks.object address object hObject⟩

/-- An object that is left is as it was. -/
theorem object?_eq (hShrinks : Shrinks before after)
    (hLive : after.host.isLive (.object address) = true) :
    after.host.object? address = before.host.object? address := by
  obtain ⟨object, hObject⟩ := Option.isSome_iff_exists.mp hLive
  rw [hObject, hShrinks.object address object hObject]

/-- What refers to an object now did so before. -/
theorem mentions (hShrinks : Shrinks before after) (hMentions : after.Mentions ref) :
    before.Mentions ref := by
  cases hMentions with
  | proxy hObject hRef =>
    obtain ⟨old, hOld, hPayload⟩ := hShrinks.native hObject
    exact .proxy hOld (hPayload ▸ hRef)
  | cursor number hRef =>
    rcases hShrinks.cursor number with hSame | hFinished
    · exact .cursor number (hSame ▸ hRef)
    · rw [hFinished] at hRef
      cases hRef
  | converter hRef => exact .converter (hShrinks.registry ▸ hRef)
  | object hObject hRef => exact .object (hShrinks.object _ _ hObject) hRef
  | script hScript hRef => exact .script (hShrinks.scripts ▸ hScript) hRef

end Shrinks

/-- What a native object held that comes to its end was referred to by it. -/
theorem mentions_of_dropNative (hRef : ref ∈ (world.dropNative address).1) : world.Mentions ref := by
  unfold World.dropNative at hRef
  dsimp only at hRef
  split at hRef
  next payload hPayload =>
    cases hObject : world.native.object? address with
    | none =>
      rw [Native.Heap.release, hObject] at hPayload
      cases hPayload
    | some object =>
      rw [Native.Heap.release_fst hObject] at hPayload
      split at hPayload
      next =>
        cases hPayload
        refine .proxy hObject ?_
        revert hRef
        cases object.payload <;> exact id
      next => cases hPayload
  next => cases hRef

/-- So was what a host object held that is given up, by it or by what it owned. -/
theorem mentions_of_reclaim (hLive : world.host.isLive (.object address) = true)
    (hRef : ref ∈ (world.reclaim address).1) : world.Mentions ref := by
  obtain ⟨object, hObject⟩ := Option.isSome_iff_exists.mp hLive
  unfold World.reclaim at hRef
  dsimp only at hRef
  split at hRef
  next typeId _ pointer discipline _ =>
    have hFreed : world.Shrinks ((World.emit (.handleReleased typeId)
        { world with host := world.host.free address }).noteCall
          { discipline, request := .release, pointer }) :=
      (Shrinks.free address world).trans (.aside rfl rfl rfl rfl)
    refine hFreed.mentions ?_
    revert hRef
    cases discipline <;> cases pointer <;>
      first | exact mentions_of_dropNative | exact fun hRef => absurd hRef List.not_mem_nil
  next =>
    rw [Host.Heap.view_of_object? hObject] at hRef
    exact .object hObject hRef

end World

end HeapBridge
