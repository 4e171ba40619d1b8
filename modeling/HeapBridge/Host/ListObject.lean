import HeapBridge.Host.Iteration
/-!
The items of lists and tuples. A list takes up the items of an iteration one by one, so those that
came before a failure stay; the length that the source announces is made room for at first.
-/
namespace HeapBridge.Host.ListObject

def items (list : Ref) : HostM (List Ref) := return (← bodyOf list).items?.getD []

def setItems (list : Ref) (items : List Ref) : HostM Unit := setBody list (.list items)

def append (list item : Ref) : HostM Unit := do setItems list ((← items list) ++ [item])

def clear (ops : Ops) (list : Ref) : HostM Unit := do
  let old ← items list
  setItems list []
  ops.release old.reverse

/-- Makes room for as many items as an object announces, or for so many if it does not. -/
def makeRoom (ops : Ops) (list source : Ref) (unannounced : Nat) : HostM Unit := do
  let hint := (← lengthHint? ops source).getD unannounced
  let size := (← items list).length
  if maxLength < (size + hint : Nat) then return () else reserve (size + hint)

def drainInto (ops : Ops) (list iterator : Ref) : Nat → HostM Unit
  | 0 => outOfSteps
  | steps + 1 => do
    match ← next ops iterator with
    | none => return ()
    | some item =>
      append list item
      drainInto ops list iterator steps

/-- Whether an object is a list or tuple of the built-in type. -/
def isExactSequence (ref : Ref) : HostM Bool := do
  let object := (← heap).view ref
  return object.script.isNone && object.body.items?.isSome

def extend (ops : Ops) (list source : Ref) : HostM Unit := do
  if source = list || (← isExactSequence source) then
    setItems list ((← items list) ++ (← items source))
  else
    let iterator ← iterate ops source
    keeping ops [iterator] do
      holding [source] (makeRoom ops list source 8)
      drainInto ops list iterator stepLimit

/-- A new list, filled by an operation. It is let go of if that fails. -/
def filled (ops : Ops) (fill : Ref → HostM Unit) : HostM Ref := do
  let list ← make (.list [])
  completing ops list (fill list)

def ofItems (ops : Ops) (source : Ref) : HostM Ref := filled ops fun list => extend ops list source

/-- The items of an object as a tuple. A tuple of the built-in type is its own. -/
def tupleOf (ops : Ops) (source : Ref) : HostM Ref := do
  let object := (← heap).view source
  match object.script, object.body with
  | none, .tuple _ => return source
  | none, .list items => make (.tuple items)
  | _, _ =>
    let list ← filled ops fun list => do
      let iterator ← iterate ops source
      keeping ops [iterator] do
        holding [source] (makeRoom ops list source 10)
        drainInto ops list iterator stepLimit
    let tuple ← make (.tuple (← items list))
    holding [tuple] (ops.release [list])
    return tuple

end HeapBridge.Host.ListObject
