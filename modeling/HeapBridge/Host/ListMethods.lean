import HeapBridge.Host.ListSort
import HeapBridge.Host.SequenceMethods
import HeapBridge.Host.Showing
/-!
The methods of lists. A search compares the items one by one with the needle on the right, and what is
then done is done at the place that was found, whatever the comparisons did to the list.
-/
namespace HeapBridge.Host.ListObject

def insertAt (list : Ref) (index : Int) (item : Ref) : HostM Unit := do
  let old ← items list
  let place := (counted old.length index).toNat
  setItems list (old.take place ++ item :: old.drop place)

/-- Takes the item at an index out. It is in flight. -/
def pop (list : Ref) (index : Int) : HostM Ref := do
  let old ← items list
  if old.isEmpty then fail .popFromEmptyList
  else
    match ← (placeAt? old.length index).bindM (takeAt list) with
    | some item => return item
    | none => fail .popOutOfRange

def remove (ops : Ops) (list needle : Ref) : HostM Unit := do
  match ← firstSame ops list needle maxLength stepLimit 0 with
  | some place => ops.release (← takeAt list place).toList
  | none => fail .notInList

/-- What is said about a needle that is not in a list: nothing if it cannot be shown. -/
def notAmong (ops : Ops) (needle : Ref) : HostM Cause := do
  match ← attempt (ops.shown needle) with
  | .ok shown => return .notAmongItems (CodePoints.toText shown)
  | .error fault => if fault.cause = .outOfSteps then throw fault else return .refused "ValueError" ""

def repeatItems (ops : Ops) (list times : Ref) : HostM Unit := do
  let count := (← boundedIndex ops "OverflowError" times).toNat
  let old ← items list
  if old.isEmpty || count = 1 then return ()
  else if count = 0 then clear ops list
  else
    reserve (old.length * count)
    setItems list (repetition count old)

def callMethod? (ops : Ops) (list : Ref) (name : String) (arguments : List Ref) :
    HostM (Option Ref) := do
  let method := s!"{← typeNameOf list}.{name}"
  let only := Arguments.only method arguments
  let nothing := Arguments.nothing method arguments
  match name with
  | "append" => some <$> do append list (← only); return .nil
  | "extend" => some <$> do extend ops list (← only); return .nil
  | "insert" => some <$> do
    Arguments.between name 2 2 arguments
    insertAt list (← smallIndex ops (arguments.headD .nil)) (arguments.getD 1 .nil)
    return .nil
  | "pop" => some <$> do
    Arguments.between name 0 1 arguments
    pop list (← arguments.head?.elim (pure (-1)) (smallIndex ops))
  | "remove" => some <$> do remove ops list (← only); return .nil
  | "clear" => some <$> do nothing; clear ops list; return .nil
  | "copy" => some <$> do nothing; make (.list (← items list))
  | "count" => some <$> do make (.int (← countSame ops list (← only) stepLimit 0))
  | "index" => some <$> do
    match ← indexOf ops list arguments with
    | some place => make (.int place)
    | none => fail (← notAmong ops (arguments.headD .nil))
  | "reverse" => some <$> do nothing; setItems list (← items list).reverse; return .nil
  | "sort" => some <$> do
    if arguments.isEmpty then sort ops list
    else Arguments.refuse "sort() takes no positional arguments"
    return .nil
  | "__getitem__" => some <$> do sequenceItem ops .list list (← only)
  | "__setitem__" => some <$> do
    let (subscript, value) ← Arguments.assignment arguments
    setItem ops list subscript value
    return .nil
  | "__delitem__" => some <$> do
    deleteItem ops list (← Arguments.operand arguments)
    return .nil
  | "__iadd__" => some <$> do extend ops list (← Arguments.operand arguments); return list
  | "__imul__" => some <$> do repeatItems ops list (← Arguments.factor arguments); return list
  | "__reversed__" => some <$> do
    nothing
    make (.walk .reverseListWalk (.backwards list (← items list).length))
  | _ => return none

end HeapBridge.Host.ListObject
