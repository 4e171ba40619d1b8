import HeapBridge.Host.Lifetime
import HeapBridge.Host.Operations
import HeapBridge.Host.TextMethods
/-!
Calls. A method is looked up like any attribute and then called; what is not a method is called as an
object. The operations of the host are those of a level that no sensible program comes to the end of.
-/
namespace HeapBridge.Host

/-- Ends a generator that is not to be asked again. -/
def closeGenerator (ops : Ops) (ref : Ref) : HostM Ref := do
  match ← bodyOf ref with
  | .walk kind walk => exhaust ops ref kind walk
  | _ => pure ()
  return .nil

/-- A method that comes with the kind of an object, and that is not an operation. -/
def callKindMethod? (ops : Ops) (ref : Ref) (name : String) (arguments : List Ref) :
    HostM (Option Ref) := do
  let body ← bodyOf ref
  let method := s!"{← typeNameOf ref}.{name}"
  match body with
  | .list _ => ListObject.callMethod? ops ref name arguments
  | .tuple _ => callTupleMethod? ops ref name arguments
  | .text _ | .bytes _ => callSearch? ops ref name arguments
  | .set _ | .frozenset _ => SetObject.callMethod? ops ref name arguments
  | .dict _ => DictObject.callMethod? ops ref name arguments
  | .view _ _ =>
    if name = "isdisjoint" then
      return some (.bool (← DictObject.viewIsDisjoint ops ref (← Arguments.only method arguments)))
    else return none
  | .walk .generator _ =>
    match name with
    | "close" => some <$> do Arguments.nothing method arguments; closeGenerator ops ref
    | "send" => do
      discard (Arguments.only method arguments)
      callUnary? ops ref "__next__"
    | _ => return none
  | _ =>
    match name with
    | "__length_hint__" | "__trunc__" => do
      Arguments.nothing method arguments
      callUnary? ops ref name
    | "conjugate" => some <$> do
      Arguments.nothing method arguments
      computedAttribute ops ref "real"
    | _ => return none

def callBuiltin (ops : Ops) (ref : Ref) (member : Member) (name : String) (arguments : List Ref) :
    HostM Ref :=
  nested " while calling a Python object" do
    match member with
    | .operation => callOperation ops ref name arguments
    | _ =>
      match ← callKindMethod? ops ref name arguments with
      | some answer => return answer
      | none => refuse "NotImplementedError" name

def invoke (ops : Ops) (callee : Ref) (arguments : List Ref) : HostM Ref := do
  match ← scripted? ops callee "__call__" arguments with
  | some answer => return answer
  | none =>
    match ← bodyOf callee with
    | .method .builtinMethod receiver name => callBuiltin ops receiver .method name arguments
    | .method .operatorMethod receiver name => callBuiltin ops receiver .operation name arguments
    | .method _ receiver name =>
      match ← scripted? ops receiver name arguments with
      | some answer => return answer
      | none => fail (.notCallable (← typeNameOf callee))
    | _ => fail (.notCallable (← typeNameOf callee))

def call (ops : Ops) (ref : Ref) (name : String) (arguments : List Ref) : HostM Ref := do
  let heap ← heap
  let isPlain := (heap.scripted? ref "__getattribute__").isNone
  match isPlain, heap.binding ref name with
  | true, .script action => perform ops ref name arguments action
  | true, .builtin .method => callBuiltin ops ref .method name arguments
  | true, .builtin .operation => callBuiltin ops ref .operation name arguments
  | _, _ =>
    let value ← getAttribute ops ref name
    keeping ops [value] (invoke ops value arguments)

/-- The operations one level above others. -/
def Ops.above (ops : Ops) : Ops where
  call := Host.call ops
  invoke := Host.invoke ops
  getAttribute := Host.getAttribute ops
  compare := Host.compared ops
  hash := Host.hash ops
  shown := Host.shown ops
  release := Host.release ops

/-- The operations that may nest so many levels deep. -/
def Ops.ofDepth : Nat → Ops
  | 0 => .exhausted
  | depth + 1 => (Ops.ofDepth depth).above

/-- How many levels there are: several for each operation that may be nested in another. -/
def depthLimit : Nat := 5000

def ops : Ops := .ofDepth depthLimit

end HeapBridge.Host
