import HeapBridge.Host.Heap
/-!
What an object looks like from outside: its value written out, with the items of containers in the
order of iteration. Objects of scripted classes only show the name of their class.
-/
namespace HeapBridge.Host

/-- How a pointer is named from outside. -/
inductive PointerName where
  | null
  /-- The native object in a slot. -/
  | native (slot : String)
  /-- The host object in a slot. -/
  | host (slot : String)
  /-- The host object that was passed in. -/
  | self
  | number (n : Nat)
  deriving DecidableEq, Repr

inductive Form where
  | nil
  | bool (value : Bool)
  | int (value : Int)
  | float (bits : UInt64)
  | text (codes : CodePoints)
  | bytes (content : List UInt8)
  | list (items : List Form)
  | tuple (items : List Form)
  | set (elements : List Form)
  | frozenset (elements : List Form)
  | dict (entries : List (Form × Form))
  | scripted (className : String)
  | handle (typeId typeName : String) (pointer : PointerName)
  | other (typeName : String)
  deriving Repr, Inhabited

/-- The form of an object, with containers written out to that depth. -/
def Heap.formWithin (heap : Heap) (name : Pointer → PointerName) : Nat → Ref → Form
  | 0, ref => .other (heap.typeName ref)
  | depth + 1, ref =>
    match heap.script? ref with
    | some script => .scripted script.name
    | none =>
      match heap.body ref with
      | .nil => .nil
      | .bool value => .bool value
      | .int value => .int value
      | .float bits => .float bits
      | .text codes => .text codes
      | .bytes content => .bytes content
      | .list items => .list (items.map (heap.formWithin name depth))
      | .tuple items => .tuple (items.map (heap.formWithin name depth))
      | .set elements => .set (elements.toList.map (heap.formWithin name depth))
      | .frozenset elements => .frozenset (elements.toList.map (heap.formWithin name depth))
      | .dict entries =>
        .dict (entries.toList.map fun entry =>
          (heap.formWithin name depth entry.key, heap.formWithin name depth entry.value))
      | .handle handle => .handle handle.typeId handle.typeName (name handle.pointer)
      | body => .other body.kind.typeName

/-- The form of an object. Containers in one another are no deeper than there are objects, unless one
is inside itself. -/
def Heap.form (heap : Heap) (name : Pointer → PointerName) (ref : Ref) : Form :=
  heap.formWithin name (heap.cells.size + 1) ref

end HeapBridge.Host
