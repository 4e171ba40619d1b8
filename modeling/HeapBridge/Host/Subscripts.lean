import HeapBridge.Host.DictObject
import HeapBridge.Host.ListObject
/-!
Subscripts. A sequence is subscripted by integers, of which a negative one counts from the end, and a
dictionary by its keys. A class derived from dictionaries may say what stands for a missing key.
-/
namespace HeapBridge.Host

def Heap.isIndex (heap : Heap) (ref : Ref) : Bool :=
  (heap.body ref).int?.isSome || (heap.scripted? ref "__index__").isSome

/-- The integer that an object stands for; one that no length reaches is refused. -/
def boundedIndex (ops : Ops) (exception : String) (ref : Ref) : HostM Int := do
  let typeName ← typeNameOf ref
  let (value, _) ← index ops ref
  if value < -maxLength - 1 || maxLength < value then
    refuse exception s!"cannot fit '{Cause.long typeName}' into an index-sized integer"
  else return value

def placeAt? (length : Nat) (index : Int) : Option Nat :=
  let place := if index < 0 then index + length else index
  if 0 ≤ place && place < length then some place.toNat else none

/-- What is said about a subscript that is no integer. -/
def wrongSubscript (kind : Kind) (typeName : String) : String :=
  let given := Cause.long typeName
  match kind with
  | .list => s!"list indices must be integers or slices, not {given}"
  | .tuple => s!"tuple indices must be integers or slices, not {given}"
  | .text => s!"string indices must be integers, not '{given}'"
  | _ => s!"byte indices must be integers or slices, not {given}"

def subscriptIndex (ops : Ops) (kind : Kind) (subscript : Ref) : HostM Int := do
  let heap ← heap
  if heap.isIndex subscript then boundedIndex ops "IndexError" subscript
  else refuse "TypeError" (wrongSubscript kind (heap.typeName subscript))

/-- What is said about a subscript that no item has. -/
def outOfRange : Kind → String
  | .list => "list index out of range"
  | .tuple => "tuple index out of range"
  | .text => "string index out of range"
  | _ => "index out of range"

def sequenceItem (ops : Ops) (kind : Kind) (sequence subscript : Ref) : HostM Ref := do
  let index ← subscriptIndex ops kind subscript
  let heap ← heap
  let place := (heap.size? (heap.body sequence)).bind (placeAt? · index)
  match ← place.bindM (itemAt? sequence) with
  | some item => return item
  | none => refuse "IndexError" (outOfRange kind)

/-- The value of a key, or what the class has to say about a missing one. -/
def dictItem (ops : Ops) (dict key : Ref) : HostM Ref := do
  match ← DictObject.get? ops dict key with
  | some value => return value
  | none =>
    match ← scripted? ops dict "__missing__" [key] with
    | some value => return value
    | none => fail (.missingKey key)

def builtinItem (ops : Ops) (container subscript : Ref) : HostM Ref := do
  match ← kindOf container with
  | .dict => dictItem ops container subscript
  | kind =>
    if kind = .list || kind = .tuple || kind = .text || kind = .bytes then
      sequenceItem ops kind container subscript
    else
      refuse "TypeError" s!"'{Cause.long (← typeNameOf container)}' object is not subscriptable"

def item (ops : Ops) (container subscript : Ref) : HostM Ref := do
  match ← scripted? ops container "__getitem__" [subscript] with
  | some value => return value
  | none => builtinItem ops container subscript

namespace ListObject

def assigned (ops : Ops) (list subscript : Ref) : HostM Nat := do
  let index ← subscriptIndex ops .list subscript
  match placeAt? (← items list).length index with
  | some place => return place
  | none => refuse "IndexError" "list assignment index out of range"

def setItem (ops : Ops) (list subscript value : Ref) : HostM Unit := do
  let place ← assigned ops list subscript
  let old ← items list
  setItems list (old.set place value)
  ops.release old[place]?.toList

/-- Takes the item at a place out, if there is one. It is in flight. -/
def takeAt (list : Ref) (place : Nat) : HostM (Option Ref) := do
  let old ← items list
  setItems list (old.eraseIdx place)
  return old[place]?

def deleteItem (ops : Ops) (list subscript : Ref) : HostM Unit := do
  let place ← assigned ops list subscript
  ops.release (← takeAt list place).toList

end ListObject

namespace DictObject

def deleteItem (ops : Ops) (dict key : Ref) : HostM Unit := do
  match ← remove? ops dict key with
  | some value => ops.release [value]
  | none => fail (.missingKey key)

end DictObject

end HeapBridge.Host
