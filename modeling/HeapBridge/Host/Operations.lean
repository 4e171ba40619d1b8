import HeapBridge.Host.Attributes
import HeapBridge.Host.Comparison
import HeapBridge.Host.Construction
import HeapBridge.Host.Hashing
import HeapBridge.Host.ListMethods
/-!
The operations behind the syntax of the host language, called as methods by their names. Called like
this, an operation is the one of the kind that the object's class derives from, whatever the class puts
in its place.
-/
namespace HeapBridge.Host

def Heap.remaining (heap : Heap) : Walk → Nat
  | .items source index => (heap.size? (heap.body source)).getD 0 - index
  | .backwards source due => if (heap.size? (heap.body source)).getD 0 < due then 0 else due
  | .elements source _ size due _ | .entries source _ size due _ =>
    if heap.size? (heap.body source) = some size then due else 0
  | _ => 0

/-- An operation that takes the object alone. -/
def callUnary? (ops : Ops) (ref : Ref) (name : String) : HostM (Option Ref) := do
  let heap ← heap
  let body := heap.body ref
  let number (value : Option Int) : HostM (Option Ref) := value.mapM fun value => make (.int value)
  match name with
  | "__len__" => number ((heap.size? body).map Int.ofNat)
  | "__iter__" => builtinIterator? ref
  | "__next__" =>
    match body with
    | .walk kind walk =>
      match ← advance ops ref kind walk with
      | some value => return some value
      | none => fail (.raised "StopIteration" "")
    | _ => return none
  | "__hash__" => number (some (← builtinHash ops ref))
  | "__repr__" => some <$> do make (.text (← builtinShown ops ref))
  | "__str__" =>
    let answer ← if body.codes?.isSome then pure none else scripted? ops ref "__repr__" []
    match answer with
    | some answer => return some answer
    | none => some <$> do make (.text (← builtinTextOf ops ref))
  | "__bool__" => return body.truth?.map .bool
  | "__int__" | "__index__" | "__trunc__" | "__pos__" =>
    match body with
    | .float bits => if name = "__pos__" then return some ref else number (← integerPart bits)
    | _ => number body.int?
  | "__neg__" => number (body.int?.map (- ·))
  | "__abs__" => number (body.int?.map fun value => (value.natAbs : Int))
  | "__float__" =>
    match body with
    | .float bits => some <$> make (.float bits)
    | _ => body.int?.mapM fun value => do make (.float (← nearestNumber value))
  | "__length_hint__" =>
    match body with
    | .walk _ walk => number (some (heap.remaining walk))
    | _ => return none
  | _ => return none

def arithmetic? (name : String) (left right : Int) : Option Int :=
  match name with
  | "__add__" | "__radd__" => some (left + right)
  | "__sub__" => some (left - right)
  | "__rsub__" => some (right - left)
  | "__mul__" | "__rmul__" => some (left * right)
  | _ => none

def callArithmetic? (ref : Ref) (name : String) (arguments : List Ref) : HostM (Option Ref) := do
  let other ← Arguments.operand arguments
  match (← bodyOf ref).int?, (← bodyOf other).int? with
  | some left, some right => (arithmetic? name left right).mapM fun value => make (.int value)
  | _, _ => return none

/-- An operation that comes with the kind of an object and takes another one. -/
def callBinary? (ops : Ops) (ref : Ref) (name : String) (arguments : List Ref) :
    HostM (Option Ref) := do
  match Relation.ofMethod? name with
  | some relation => do
    let answer ← builtinOpinion ops relation ref (← Arguments.operand arguments)
    return some (answer.getD .notImplemented)
  | none =>
    match name with
    | "__contains__" => some <$> do
      return .bool (← builtinContains ops ref (← Arguments.operand arguments))
    | "__getattribute__" => some <$> do
      let given ← Arguments.operand arguments
      match (← bodyOf given).codes? with
      | some codes => plainAttribute ops ref (CodePoints.toText codes)
      | none =>
        refuse "TypeError"
          s!"attribute name must be string, not '{Cause.long (← typeNameOf given)}'"
    | "__setattr__" => some <$> do
      let (given, value) ← Arguments.assignment arguments
      match (← bodyOf given).codes? with
      | some codes => setPlainly ops ref (CodePoints.toText codes) value
      | none =>
        refuse "TypeError"
          s!"attribute name must be string, not '{Cause.long (← typeNameOf given)}'"
      return .nil
    | _ => return none

def initialiseAgain (ops : Ops) (ref : Ref) (arguments : List Ref) : HostM Ref := do
  match ← bodyOf ref with
  | .list _ | .set _ | .dict _ =>
    Arguments.between (← kindOf ref).typeName 0 1 arguments
    match arguments.head?, ← bodyOf ref with
    | some value, _ => refill ops ref value
    | none, .list _ => ListObject.clear ops ref
    | none, .set _ => SetObject.clear ops ref
    | none, _ => pure ()
    return .nil
  | .plain =>
    if arguments.isEmpty then return .nil
    else
      Arguments.refuse (s!"{Cause.long (← typeNameOf ref)}.__init__() takes exactly one argument " ++
        "(the instance to initialize)")
  | _ => return .nil

def unaryOperations : List String :=
  ["__len__", "__iter__", "__next__", "__hash__", "__repr__", "__str__", "__bool__", "__int__",
    "__index__", "__trunc__", "__pos__", "__neg__", "__abs__", "__float__"]

/-- An operation by the name of the method behind it. One that is not known here makes nothing of its
operands. -/
def callOperation (ops : Ops) (ref : Ref) (name : String) (arguments : List Ref) : HostM Ref := do
  let known ←
    if unaryOperations.contains name then
      Arguments.operands 0 arguments
      callUnary? ops ref name
    else if name = "__init__" then some <$> initialiseAgain ops ref arguments
    else if name = "__call__" then some <$> ops.invoke ref arguments
    else
      match ← callBinary? ops ref name arguments, ← bodyOf ref with
      | some answer, _ => pure (some answer)
      | none, .set _ | none, .frozenset _ => SetObject.callOperator? ops ref name arguments
      | none, .dict _ =>
        match ← DictObject.callOperator? ops ref name arguments with
        | some answer => pure (some answer)
        | none => DictObject.callMethod? ops ref name arguments
      | none, .list _ =>
        match ← callSequenceOperator? ops ref name arguments with
        | some answer => pure (some answer)
        | none => ListObject.callMethod? ops ref name arguments
      | none, .tuple _ | none, .text _ | none, .bytes _ =>
        callSequenceOperator? ops ref name arguments
      | none, .int _ | none, .bool _ | none, .float _ => callArithmetic? ref name arguments
      | none, _ => pure none
  return known.getD .notImplemented

end HeapBridge.Host
