import HeapBridge.Host.Object
/-!
The host heap. Objects live at addresses that are never given out again, so a reference can dangle
but never name another object. Classes are kept for good, together with the objects their scripts
mention.
-/
namespace HeapBridge.Host

structure Heap where
  cells : Array (Option Object) := #[]
  scripts : Array Script := #[]
  deriving Repr

instance : Inhabited Heap := ⟨{}⟩

def Atom.body : Atom → Body
  | .nil => .nil
  | .bool value => .bool value
  | .int value => .int value
  | .text codes => .text codes
  | .bytes content => .bytes content
  | .emptyTuple => .tuple []
  | .notImplemented => .notImplemented

namespace Heap

def object? (heap : Heap) (address : Nat) : Option Object := (heap.cells[address]?).join

/-- The object that a reference names; a dangling one names a bare object. -/
def view (heap : Heap) : Ref → Object
  | .atom value => { body := value.body }
  | .object address => (heap.object? address).getD default

def body (heap : Heap) (ref : Ref) : Body := (heap.view ref).body

/-- Whether a reference names an object that has not been reclaimed. -/
def isLive (heap : Heap) : Ref → Bool
  | .atom _ => true
  | .object address => (heap.object? address).isSome

def script? (heap : Heap) (ref : Ref) : Option Script :=
  (heap.view ref).script.bind fun number => heap.scripts[number]?

/-- What the object's class puts in place of a method, if it replaces it. -/
def scripted? (heap : Heap) (ref : Ref) (method : String) : Option Action :=
  (heap.script? ref).bind (·.method? method)

def typeName (heap : Heap) (ref : Ref) : String :=
  match heap.script? ref with
  | some script => script.name
  | none => (heap.body ref).kind.typeName

/-- Puts an object at a new address. -/
def allocate (heap : Heap) (object : Object) : Ref × Heap :=
  (.object heap.cells.size, { heap with cells := heap.cells.push (some object) })

def put (heap : Heap) (address : Nat) (object : Object) : Heap :=
  { heap with cells := heap.cells.setIfInBounds address (some object) }

/-- Replaces the body of an object by one that it may go on with. Interned values have no state to
replace. -/
def setBody (heap : Heap) (ref : Ref) (body : Body) : Heap :=
  match ref with
  | .atom _ => heap
  | .object address =>
    match heap.object? address with
    | some object =>
      if object.body.canBecome body then heap.put address { object with body } else heap
    | none => heap

def setAttributes (heap : Heap) (ref : Ref) (attributes : List (String × Ref)) : Heap :=
  match ref with
  | .atom _ => heap
  | .object address =>
    match heap.object? address with
    | some object => heap.put address { object with attributes }
    | none => heap

def markFinalized (heap : Heap) (address : Nat) : Heap :=
  match heap.object? address with
  | some object => heap.put address { object with finalized := true }
  | none => heap

def free (heap : Heap) (address : Nat) : Heap :=
  { heap with cells := heap.cells.setIfInBounds address none }

def addScript (heap : Heap) (script : Script) : Nat × Heap :=
  (heap.scripts.size, { heap with scripts := heap.scripts.push script })

def atom? : Body → Option Atom
  | .nil => some .nil
  | .bool value => some (.bool value)
  | .int value => if isSmall value then some (.int value) else none
  | .text codes => if isShortText codes then some (.text codes) else none
  | .bytes content => if content.length ≤ 1 then some (.bytes content) else none
  | .tuple [] => some .emptyTuple
  | .notImplemented => some .notImplemented
  | _ => none

/-- A reference to an object of a built-in type with that body: the interned one if there is one,
and a new one otherwise. -/
def make (heap : Heap) (body : Body) : Ref × Heap :=
  match atom? body with
  | some value => (.atom value, heap)
  | none => heap.allocate { body }

def addresses (heap : Heap) : List Nat :=
  (List.range heap.cells.size).filter fun address => (heap.object? address).isSome

/-- All references held inside the heap: by objects and by the scripts of classes. -/
def references (heap : Heap) : List Ref :=
  (heap.cells.toList.filterMap id).flatMap Object.references ++
    heap.scripts.toList.flatMap Script.references

/-- Whether something inside the heap refers to an object. -/
def refersTo (heap : Heap) (ref : Ref) : Bool :=
  (heap.cells.any fun cell => cell.any fun object => object.references.contains ref) ||
    heap.scripts.any fun script => script.references.contains ref

/-- A body of which there is one object has it interned. -/
theorem isUnique_of_atom? {body : Body} (hAtom : atom? body = none) : body.isUnique = false := by
  cases body <;> first | rfl | cases hAtom

/-- To be referred to from within the heap is to be among its references. -/
theorem refersTo_eq (heap : Heap) (ref : Ref) :
    heap.refersTo ref = heap.references.contains ref := by
  simp only [refersTo, references, List.contains_append, ← Array.any_toList]
  congr 1
  · induction heap.cells.toList with
    | nil => rfl
    | cons cell rest ih =>
      cases cell with
      | none => simpa using ih
      | some object =>
        rw [List.any_cons, ih]
        simp only [List.filterMap_cons, id, List.flatMap_cons, List.contains_append, Option.any_some]
  · induction heap.scripts.toList with
    | nil => rfl
    | cons script rest ih => rw [List.any_cons, ih, List.flatMap_cons, List.contains_append]

@[simp] theorem view_atom (heap : Heap) (value : Atom) :
    heap.view (.atom value) = { body := value.body } := rfl

theorem view_of_object? {heap : Heap} {address : Nat} {object : Object}
    (hObject : heap.object? address = some object) : heap.view (.object address) = object := by
  simp only [view, hObject, Option.getD_some]

theorem lt_size_of_object? {heap : Heap} {address : Nat} {object : Object}
    (hObject : heap.object? address = some object) : address < heap.cells.size :=
  (Array.getElem?_eq_some_iff.mp (Option.join_eq_some_iff.mp hObject)).1

/-- Putting an object in place is seen at its address only. -/
theorem object?_put {heap : Heap} {address : Nat} {old : Object}
    (hOld : heap.object? address = some old) (new : Object) (other : Nat) :
    (heap.put address new).object? other =
      if other = address then some new else heap.object? other := by
  have hIn := lt_size_of_object? hOld
  split
  next hSame => simp [put, object?, hSame, hIn]
  next hOther => simp [put, object?, Array.getElem?_setIfInBounds_ne (Ne.symm hOther)]

theorem object?_allocate_self (heap : Heap) (object : Object) :
    (heap.allocate object).2.object? heap.cells.size = some object := by
  simp [allocate, object?]

theorem object?_allocate (heap : Heap) (object : Object) (address : Nat) :
    (heap.allocate object).2.object? address =
      if address = heap.cells.size then some object else heap.object? address := by
  split
  next hNew => rw [hNew, object?_allocate_self]
  next hOld => simp [allocate, object?, Array.getElem?_push, hOld]

theorem object?_allocate_of_lt {heap : Heap} {object : Object} {address : Nat}
    (hOld : address < heap.cells.size) :
    (heap.allocate object).2.object? address = heap.object? address := by
  simp [allocate, object?, Array.getElem?_push, Nat.ne_of_lt hOld]

theorem object?_free_self (heap : Heap) (address : Nat) :
    (heap.free address).object? address = none := by
  simp only [free, object?, Array.getElem?_setIfInBounds_self]
  split <;> rfl

theorem object?_free_of_ne {heap : Heap} {address other : Nat} (hOther : address ≠ other) :
    (heap.free address).object? other = heap.object? other := by
  simp [free, object?, Array.getElem?_setIfInBounds_ne hOther]

end Heap

end HeapBridge.Host
