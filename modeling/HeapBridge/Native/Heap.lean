import HeapBridge.Pointer
/-!
The native heap. An object is made in two steps: storage is reserved, and then a payload moves in
and the object starts with one reference. A retain adds a reference, a release takes one away, and
the release of the last one destroys the payload. Addresses are not given out again.
-/
namespace HeapBridge.Native

open Host (Ref)

inductive NativeClass where
  /-- Objects without a payload. -/
  | plain
  /-- Objects that report their destruction. -/
  | tracked
  /-- Proxies of host sets. -/
  | foreignSet
  deriving DecidableEq, Repr

def NativeClass.name : NativeClass → String
  | .plain => "Object"
  | .tracked => "Tracked"
  | .foreignSet => "ForeignSet"

/-- What an object carries. -/
inductive Payload where
  | plain
  | tracked (tag : String)
  /-- The host value behind a proxy, to which the proxy holds one reference. -/
  | foreignSet (backing : Ref)
  deriving DecidableEq, Repr

def Payload.nativeClass : Payload → NativeClass
  | .plain => .plain
  | .tracked _ => .tracked
  | .foreignSet _ => .foreignSet

def Payload.references : Payload → List Ref
  | .foreignSet backing => [backing]
  | _ => []

structure Object where
  retainCount : Nat
  payload : Payload
  deriving DecidableEq, Repr

/-- Storage that has been handed out. -/
inductive Cell where
  | reserved (nativeClass : NativeClass)
  | live (object : Object)
  deriving DecidableEq, Repr

def Object.afterRelease (object : Object) : Option Cell :=
  if object.retainCount ≤ 1 then none
  else some (.live { object with retainCount := object.retainCount - 1 })

structure Heap where
  cells : Array (Option Cell) := #[]
  deriving Repr

instance : Inhabited Heap := ⟨{}⟩

namespace Heap

def cell? (heap : Heap) (address : Nat) : Option Cell := (heap.cells[address]?).join

def object? (heap : Heap) (address : Nat) : Option Object :=
  match heap.cell? address with
  | some (.live object) => some object
  | _ => none

def setCell (heap : Heap) (address : Nat) (cell : Option Cell) : Heap :=
  { heap with cells := heap.cells.setIfInBounds address cell }

def reserve (heap : Heap) (nativeClass : NativeClass) : Nat × Heap :=
  (heap.cells.size, { heap with cells := heap.cells.push (some (.reserved nativeClass)) })

/-- Moves a payload into reserved storage. The new object has one reference. -/
def install (heap : Heap) (address : Nat) (payload : Payload) : Heap :=
  heap.setCell address (some (.live { retainCount := 1, payload }))

/-- Gives reserved storage back. There is no payload to destroy. -/
def discard (heap : Heap) (address : Nat) : Heap :=
  match heap.cell? address with
  | some (.reserved _) => heap.setCell address none
  | _ => heap

def retain (heap : Heap) (address : Nat) : Heap :=
  match heap.object? address with
  | some object =>
    heap.setCell address (some (.live { object with retainCount := object.retainCount + 1 }))
  | none => heap

/-- Takes a reference away. If it was the last one the object is gone, and its payload is the
first result. -/
def release (heap : Heap) (address : Nat) : Option Payload × Heap :=
  match heap.object? address with
  | some object =>
    if object.retainCount ≤ 1 then (some object.payload, heap.setCell address none)
    else
      (none,
        heap.setCell address (some (.live { object with retainCount := object.retainCount - 1 })))
  | none => (none, heap)

def retainCount (heap : Heap) (address : Nat) : Nat :=
  ((heap.object? address).map (·.retainCount)).getD 0

def backing? (heap : Heap) (address : Nat) : Option Ref :=
  match heap.object? address with
  | some { payload := .foreignSet backing, .. } => some backing
  | _ => none

def objects (heap : Heap) : List Object :=
  heap.cells.toList.filterMap fun cell =>
    match cell with
    | some (.live object) => some object
    | _ => none

def references (heap : Heap) : List Ref := heap.objects.flatMap (·.payload.references)

theorem cell?_setCell_of_ne {heap : Heap} {address other : Nat} {cell : Option Cell}
    (hOther : address ≠ other) : (heap.setCell address cell).cell? other = heap.cell? other := by
  simp [setCell, cell?, Array.getElem?_setIfInBounds_ne hOther]

theorem cell?_setCell_self {heap : Heap} {address : Nat} {cell : Option Cell}
    (hIn : address < heap.cells.size) : (heap.setCell address cell).cell? address = cell := by
  simp [setCell, cell?, hIn]

theorem lt_size_of_cell? {heap : Heap} {address : Nat} {cell : Cell}
    (hCell : heap.cell? address = some cell) : address < heap.cells.size := by
  exact (Array.getElem?_eq_some_iff.mp (Option.join_eq_some_iff.mp hCell)).1

theorem object?_eq_some_iff {heap : Heap} {address : Nat} {object : Object} :
    heap.object? address = some object ↔ heap.cell? address = some (.live object) := by
  unfold object?
  split
  next found hCell => simp [hCell]
  next hCell => exact ⟨nofun, fun h => (hCell object h).elim⟩

@[simp] theorem size_setCell (heap : Heap) (address : Nat) (cell : Option Cell) :
    (heap.setCell address cell).cells.size = heap.cells.size := by
  simp [setCell]

theorem cell?_reserve (heap : Heap) (nativeClass : NativeClass) (address : Nat) :
    (heap.reserve nativeClass).2.cell? address =
      if address = heap.cells.size then some (.reserved nativeClass) else heap.cell? address := by
  simp only [reserve, cell?, Array.getElem?_push]
  split <;> rfl

theorem cell?_install {heap : Heap} {address : Nat} {cell : Cell}
    (hCell : heap.cell? address = some cell) (payload : Payload) (other : Nat) :
    (heap.install address payload).cell? other =
      if other = address then some (.live { retainCount := 1, payload }) else heap.cell? other := by
  unfold install
  split
  next hSame => rw [hSame, cell?_setCell_self (lt_size_of_cell? hCell)]
  next hOther => exact cell?_setCell_of_ne (Ne.symm hOther)

theorem cell?_discard {heap : Heap} {address : Nat} {nativeClass : NativeClass}
    (hCell : heap.cell? address = some (.reserved nativeClass)) (other : Nat) :
    (heap.discard address).cell? other = if other = address then none else heap.cell? other := by
  rw [discard, hCell]
  dsimp only
  split
  next hSame => rw [hSame, cell?_setCell_self (lt_size_of_cell? hCell)]
  next hOther => exact cell?_setCell_of_ne (Ne.symm hOther)

/-- Retaining changes nothing but the count of one object. -/
theorem cell?_retain {heap : Heap} {address : Nat} {object : Object}
    (hObject : heap.object? address = some object) (other : Nat) :
    (heap.retain address).cell? other =
      if other = address then some (.live { object with retainCount := object.retainCount + 1 })
      else heap.cell? other := by
  rw [retain, hObject]
  dsimp only
  split
  next hSame =>
    rw [hSame, cell?_setCell_self (lt_size_of_cell? (object?_eq_some_iff.mp hObject))]
  next hOther => exact cell?_setCell_of_ne (Ne.symm hOther)

/-- Releasing changes one cell, and leaves it vacant if the reference was the last. -/
theorem cell?_release {heap : Heap} {address : Nat} {object : Object}
    (hObject : heap.object? address = some object) (other : Nat) :
    (heap.release address).2.cell? other =
      if other = address then object.afterRelease else heap.cell? other := by
  have hIn := lt_size_of_cell? (object?_eq_some_iff.mp hObject)
  unfold release Object.afterRelease
  rw [hObject]
  dsimp only
  split <;> split
  next hSame => rw [hSame, cell?_setCell_self hIn]
  next hOther => exact cell?_setCell_of_ne (Ne.symm hOther)
  next hSame => rw [hSame, cell?_setCell_self hIn]
  next hOther => exact cell?_setCell_of_ne (Ne.symm hOther)

/-- What is left of an object comes to light with its last reference. -/
theorem release_fst {heap : Heap} {address : Nat} {object : Object}
    (hObject : heap.object? address = some object) :
    (heap.release address).1 = if object.retainCount ≤ 1 then some object.payload else none := by
  unfold release
  rw [hObject]
  dsimp only
  split <;> rfl

theorem object?_of_cell?_eq {heap other : Heap} {address : Nat}
    (hCell : heap.cell? address = other.cell? address) :
    heap.object? address = other.object? address := by
  simp only [object?, hCell]

theorem object?_of_reserved {heap : Heap} {address : Nat} {nativeClass : NativeClass}
    (hCell : heap.cell? address = some (.reserved nativeClass)) : heap.object? address = none := by
  simp only [object?, hCell]

theorem object?_of_vacant {heap : Heap} {address : Nat} (hCell : heap.cell? address = none) :
    heap.object? address = none := by
  simp only [object?, hCell]

theorem cell?_size (heap : Heap) : heap.cell? heap.cells.size = none := by
  simp [cell?]

theorem object?_reserve (heap : Heap) (nativeClass : NativeClass) (address : Nat) :
    (heap.reserve nativeClass).2.object? address = heap.object? address := by
  have hCell := cell?_reserve heap nativeClass address
  split at hCell
  next hSame => rw [object?_of_reserved hCell, object?_of_vacant (hSame ▸ cell?_size heap)]
  next => exact object?_of_cell?_eq hCell

/-- Storage becomes an object as a payload is moved in. -/
theorem object?_install {heap : Heap} {address : Nat} {cell : Cell}
    (hCell : heap.cell? address = some cell) (payload : Payload) (other : Nat) :
    (heap.install address payload).object? other =
      if other = address then some { retainCount := 1, payload } else heap.object? other := by
  have hInstall := cell?_install hCell payload other
  split at hInstall
  next hSame => rw [if_pos hSame, object?_eq_some_iff.mpr hInstall]
  next hOther => rw [if_neg hOther, object?_of_cell?_eq hInstall]

/-- Reserved storage is no object, so giving it back ends none. -/
theorem object?_discard {heap : Heap} {address : Nat} {nativeClass : NativeClass}
    (hCell : heap.cell? address = some (.reserved nativeClass)) (other : Nat) :
    (heap.discard address).object? other = heap.object? other := by
  have hDiscard := cell?_discard hCell other
  split at hDiscard
  next hSame => rw [object?_of_vacant hDiscard, hSame, object?_of_reserved hCell]
  next => exact object?_of_cell?_eq hDiscard

/-- Of the live objects, just the one that is retained is counted anew. -/
theorem object?_retain {heap : Heap} {address : Nat} {object : Object}
    (hObject : heap.object? address = some object) (other : Nat) :
    (heap.retain address).object? other =
      if other = address then some { object with retainCount := object.retainCount + 1 }
      else heap.object? other := by
  have hRetain := cell?_retain hObject other
  split at hRetain
  next hSame => rw [if_pos hSame, object?_eq_some_iff.mpr hRetain]
  next hOther => rw [if_neg hOther, object?_of_cell?_eq hRetain]

/-- An object is gone after a release just if it had one reference left. -/
theorem object?_release {heap : Heap} {address : Nat} {object : Object}
    (hObject : heap.object? address = some object) (other : Nat) :
    (heap.release address).2.object? other =
      if other = address then
        if object.retainCount ≤ 1 then none
        else some { object with retainCount := object.retainCount - 1 }
      else heap.object? other := by
  have hRelease := cell?_release hObject other
  rw [Object.afterRelease] at hRelease
  split at hRelease
  next hSame =>
    rw [if_pos hSame]
    split at hRelease
    next hLast => rw [if_pos hLast, object?_of_vacant hRelease]
    next hMore => rw [if_neg hMore, object?_eq_some_iff.mpr hRelease]
  next hOther => rw [if_neg hOther, object?_of_cell?_eq hRelease]

theorem retainCount_of_object? {heap : Heap} {address : Nat} {object : Object}
    (hObject : heap.object? address = some object) :
    heap.retainCount address = object.retainCount := by
  simp [retainCount, hObject]

end Heap

end HeapBridge.Native
