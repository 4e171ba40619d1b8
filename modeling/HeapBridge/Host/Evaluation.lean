import HeapBridge.Binary64
import HeapBridge.Host.Change
import HeapBridge.Host.Fault
/-!
Evaluation of host operations. An operation reads and changes the world, since host objects own native
ones and are owned by them, and ends in a result or a fault; what it changed before a fault stays
changed. Whatever an operation does is made of the changes that host code can make; it gives back what
it holds meanwhile, and it is the same in all surroundings. Operations call one another through scripts
and containers, so each is defined over the operations of the next lower level, and at level zero every
operation faults.

A result is in flight: nothing refers to it yet. Whoever asked for it stores it or lets go of it.
-/
namespace HeapBridge.Host

structure Context where
  /-- How many operations it is nested in. -/
  nesting : Nat := 0
  /-- The containers that are being shown. -/
  showing : List Ref := []
  deriving Repr

/-- A host operation, with what all of them keep to. -/
structure HostM (α : Type) where
  eval : Context → World → Except Fault α × World
  changes (context : Context) (world : World) : Changes world (eval context world).2
  /-- What is held from outside is the same afterwards, in some order. -/
  balanced (context : Context) (world : World) : (eval context world).2.held.Perm world.held
  /-- The surroundings are neither seen nor changed. -/
  blind (context : Context) (world : World) (surroundings : Surroundings) :
    eval context (world.within surroundings) =
      ((eval context world).1, (eval context world).2.within surroundings)

namespace HostM

variable {α β : Type}

@[always_inline, inline] protected def pure (value : α) : HostM α where
  eval _ world := (.ok value, world)
  changes _ _ := .refl
  balanced _ _ := .refl _
  blind _ _ _ := rfl

@[always_inline, inline] protected def bind (action : HostM α) (next : α → HostM β) : HostM β where
  eval context world :=
    match action.eval context world with
    | (.ok value, world) => (next value).eval context world
    | (.error fault, world) => (.error fault, world)
  changes context world := by
    have hAction := action.changes context world
    split
    next value middle hEval =>
      rw [hEval] at hAction
      exact hAction.trans ((next value).changes context middle)
    next fault middle hEval => rwa [hEval] at hAction
  balanced context world := by
    have hAction := action.balanced context world
    split
    next value middle hEval =>
      rw [hEval] at hAction
      exact ((next value).balanced context middle).trans hAction
    next fault middle hEval => rwa [hEval] at hAction
  blind context world surroundings := by
    rw [action.blind]
    rcases action.eval context world with ⟨fault | value, middle⟩
    · rfl
    · exact (next value).blind context middle surroundings

@[always_inline, inline] protected def throw (fault : Fault) : HostM α where
  eval _ world := (.error fault, world)
  changes _ _ := .refl
  balanced _ _ := .refl _
  blind _ _ _ := rfl

@[always_inline, inline] protected def tryCatch (action : HostM α) (handler : Fault → HostM α) :
    HostM α where
  eval context world :=
    match action.eval context world with
    | (.ok value, world) => (.ok value, world)
    | (.error fault, world) => (handler fault).eval context world
  changes context world := by
    have hAction := action.changes context world
    split
    next value middle hEval => rwa [hEval] at hAction
    next fault middle hEval =>
      rw [hEval] at hAction
      exact hAction.trans ((handler fault).changes context middle)
  balanced context world := by
    have hAction := action.balanced context world
    split
    next value middle hEval => rwa [hEval] at hAction
    next fault middle hEval =>
      rw [hEval] at hAction
      exact ((handler fault).balanced context middle).trans hAction
  blind context world surroundings := by
    rw [action.blind]
    rcases action.eval context world with ⟨fault | value, middle⟩
    · exact (handler fault).blind context middle surroundings
    · rfl

@[always_inline, inline] protected def read : HostM Context where
  eval context world := (.ok context, world)
  changes _ _ := .refl
  balanced _ _ := .refl _
  blind _ _ _ := rfl

@[always_inline, inline] protected def withReader (change : Context → Context) (action : HostM α) :
    HostM α where
  eval context world := action.eval (change context) world
  changes context world := action.changes (change context) world
  balanced context world := action.balanced (change context) world
  blind context world := action.blind (change context) world

instance : Monad HostM where
  pure := HostM.pure
  bind := HostM.bind

instance : MonadExceptOf Fault HostM where
  throw := HostM.throw
  tryCatch := HostM.tryCatch

instance : MonadReaderOf Context HostM where
  read := HostM.read

instance : MonadWithReaderOf Context HostM where
  withReader := HostM.withReader

def runOn (operation : HostM α) (world : World) : Except Fault α × World := operation.eval {} world

end HostM

def fail {α : Type} (cause : Cause) : HostM α := throw { cause }

def refuse {α : Type} (exception text : String) : HostM α := fail (.refused exception text)

/-- What the world tells an operation, whatever its surroundings are. -/
@[always_inline, inline] def ask {α : Type} (question : World → α)
    (hBlind : ∀ world surroundings, question (world.within surroundings) = question world := by
      intros; rfl) : HostM α where
  eval _ world := (.ok (question world), world)
  changes _ _ := .refl
  balanced _ _ := .refl _
  blind _ world surroundings := by rw [hBlind]

def heap : HostM Heap := ask (·.host)

def refuseHandle {α : Type} : HostM α :=
  refuse "TypeError" "No constructor defined for OpaquePointer"

def make (body : Body) : HostM Ref :=
  if hBody : body.isHandle = false then
    { eval := fun _ world =>
        let (ref, host) := world.host.make body
        (.ok ref, { world with host })
      changes := fun _ world => .make hBody world
      balanced := fun _ _ => .refl _
      blind := fun _ _ _ => rfl }
  else refuseHandle

def allocate (object : Object) : HostM Ref :=
  if hBody : object.body.isHandle = false ∧ object.body.isUnique = false then
    { eval := fun _ world =>
        let (ref, host) := world.host.allocate object
        (.ok ref, { world with host })
      changes := fun _ _ => (Change.allocate object hBody.1 hBody.2).toChanges
      balanced := fun _ _ => .refl _
      blind := fun _ _ _ => rfl }
  else make object.body

def setBody (ref : Ref) (body : Body) : HostM Unit where
  eval _ world := (.ok (), { world with host := world.host.setBody ref body })
  changes _ world := .setBody ref body world
  balanced _ _ := .refl _
  blind _ _ _ := rfl

/-- Replaces the attributes of an object's own. -/
def setOwnAttributes (ref : Ref) (attributes : List (String × Ref)) : HostM Unit where
  eval _ world := (.ok (), { world with host := world.host.setAttributes ref attributes })
  changes _ world := .setAttributes ref attributes world
  balanced _ _ := .refl _
  blind _ _ _ := rfl

/-- Notes that an object was told that it is about to be given up. -/
def markFinalized (address : Nat) : HostM Unit where
  eval _ world := (.ok (), { world with host := world.host.markFinalized address })
  changes _ world := .markFinalized address world
  balanced _ _ := .refl _
  blind _ _ _ := rfl

def addScript (script : Script) : HostM Nat where
  eval _ world :=
    let (number, host) := world.host.addScript script
    (.ok number, { world with host })
  changes _ _ := (Change.define script).toChanges
  balanced _ _ := .refl _
  blind _ _ _ := rfl

def holdingAll {α : Type} (refs : List Ref) (action : HostM α) : HostM α where
  eval context world :=
    let (result, world) := action.eval context (world.holdAll refs)
    (result, world.unholdAll refs)
  changes context world :=
    ((Change.hold refs).toChanges.trans (action.changes context _)).trans (.unholdAll refs _)
  balanced context world := World.held_unholdAll (action.balanced context (world.holdAll refs))
  blind context world surroundings := by
    have hAction := action.blind context (world.holdAll refs) surroundings
    change (action.eval context ((world.holdAll refs).within surroundings) |>.map id
      (·.unholdAll refs)) = _
    rw [hAction]
    exact congrArg (Prod.mk _) (World.unholdAll_within refs _ surroundings)

def makeText (text : String) : HostM Ref := make (.text (.ofString text))

def bodyOf (ref : Ref) : HostM Body := return (← heap).body ref

def kindOf (ref : Ref) : HostM Kind := return (← bodyOf ref).kind

def typeNameOf (ref : Ref) : HostM String := return (← heap).typeName ref

def isExact (ref : Ref) : HostM Bool := return ((← heap).view ref).script.isNone

def attempt {α : Type} (action : HostM α) : HostM (Except Fault α) :=
  tryCatch (Except.ok <$> action) fun fault => return .error fault

def finish {α : Type} : Except Fault α → HostM α
  | .ok value => return value
  | .error fault => throw fault

/-- Notes the line of host code that a fault of `action` passes through. -/
def within {α : Type} (frame : Frame) (action : HostM α) : HostM α :=
  tryCatch action fun fault => throw (fault.through frame)

def nestingLimit : Nat := 1000

def nested {α : Type} (activity : String) (action : HostM α) : HostM α := do
  if nestingLimit ≤ (← read).nesting then fail (.tooDeep activity)
  else withReader (fun context => { context with nesting := context.nesting + 1 }) action

inductive Relation where
  | equal
  | unequal
  | less
  | lessOrEqual
  | greater
  | greaterOrEqual
  deriving DecidableEq, Repr

namespace Relation

def method : Relation → String
  | .equal => "__eq__"
  | .unequal => "__ne__"
  | .less => "__lt__"
  | .lessOrEqual => "__le__"
  | .greater => "__gt__"
  | .greaterOrEqual => "__ge__"

def sign : Relation → String
  | .equal => "=="
  | .unequal => "!="
  | .less => "<"
  | .lessOrEqual => "<="
  | .greater => ">"
  | .greaterOrEqual => ">="

def swapped : Relation → Relation
  | .less => .greater
  | .lessOrEqual => .greaterOrEqual
  | .greater => .less
  | .greaterOrEqual => .lessOrEqual
  | relation => relation

def ofMethod? (name : String) : Option Relation :=
  [Relation.equal, .unequal, .less, .lessOrEqual, .greater, .greaterOrEqual].find?
    fun relation => relation.method = name

def holds : Relation → Ordering → Bool
  | .equal, order => order = .eq
  | .unequal, order => order ≠ .eq
  | .less, order => order = .lt
  | .lessOrEqual, order => order ≠ .gt
  | .greater, order => order = .gt
  | .greaterOrEqual, order => order ≠ .lt

end Relation

structure Ops where
  /-- Calls a method by its name. -/
  call : Ref → String → List Ref → HostM Ref
  /-- Calls an object. -/
  invoke : Ref → List Ref → HostM Ref
  /-- The value of an attribute. -/
  getAttribute : Ref → String → HostM Ref
  /-- What comparing two objects answers. -/
  compare : Relation → Ref → Ref → HostM Ref
  hash : Ref → HostM Int
  shown : Ref → HostM CodePoints
  /-- Lets go of references in flight, one after the other. -/
  release : List Ref → HostM Unit

def outOfDepth {α : Type} : HostM α := fail (.tooDeep "")

/-- The operations of level zero. -/
def Ops.exhausted : Ops where
  call _ _ _ := outOfDepth
  invoke _ _ := outOfDepth
  getAttribute _ _ := outOfDepth
  compare _ _ _ := outOfDepth
  hash _ := outOfDepth
  shown _ := outOfDepth
  release _ := return ()

/-- Refers to objects while an operation runs, and has them in flight again afterwards. -/
def holding {α : Type} (refs : List Ref) (action : HostM α) : HostM α :=
  let objects := refs.filter Ref.isObject
  if objects.isEmpty then action else holdingAll objects action

/-- Refers to objects while an operation runs, and lets go of them afterwards. -/
def keeping {α : Type} (ops : Ops) (refs : List Ref) (action : HostM α) : HostM α := do
  let objects := refs.filter Ref.isObject
  if objects.isEmpty then action
  else
    let result ← attempt (holdingAll objects action)
    ops.release objects
    finish result

/-- Refers to objects while an operation runs that answers an object. The answer stays in flight when
they are let go of. -/
def keepingArguments (ops : Ops) (refs : List Ref) (action : HostM Ref) : HostM Ref := do
  match ← attempt (holding refs action) with
  | .ok answer =>
    holding [answer] (ops.release refs)
    return answer
  | .error fault =>
    ops.release refs
    throw fault

/-- Goes on making an object in flight, and lets go of it if that fails. -/
def completing (ops : Ops) (ref : Ref) (action : HostM Unit) : HostM Ref := do
  match ← attempt (holding [ref] action) with
  | .ok () => return ref
  | .error fault =>
    ops.release [ref]
    throw fault

/-- The exceptions that scripts can raise with a text. -/
def exceptionNames : List String :=
  ["ArithmeticError", "AssertionError", "AttributeError", "BaseException", "BlockingIOError",
    "BrokenPipeError", "BufferError", "BytesWarning", "ChildProcessError",
    "ConnectionAbortedError", "ConnectionError", "ConnectionRefusedError", "ConnectionResetError",
    "DeprecationWarning", "EOFError", "EncodingWarning", "Exception", "FileExistsError",
    "FileNotFoundError", "FloatingPointError", "FutureWarning", "GeneratorExit", "ImportError",
    "ImportWarning", "IndentationError", "IndexError", "InterruptedError", "IsADirectoryError",
    "KeyError", "KeyboardInterrupt", "LookupError", "MemoryError", "ModuleNotFoundError",
    "NameError", "NotADirectoryError", "NotImplementedError", "OSError", "OverflowError",
    "PendingDeprecationWarning", "PermissionError", "ProcessLookupError", "RecursionError",
    "ReferenceError", "ResourceWarning", "RuntimeError", "RuntimeWarning", "StopAsyncIteration",
    "StopIteration", "SyntaxError", "SyntaxWarning", "SystemError", "SystemExit", "TabError",
    "TimeoutError", "TypeError", "UnboundLocalError", "UnicodeError", "UnicodeWarning",
    "UserWarning", "ValueError", "Warning", "ZeroDivisionError"]

/-- The fault of raising an exception by its name with a text. Some exceptions have other names, too,
and some cannot be made from a text. -/
def Cause.ofRaise (name text : String) : Cause :=
  if name = "IOError" || name = "EnvironmentError" then .raised "OSError" text
  else if name = "UnicodeDecodeError" || name = "UnicodeEncodeError" then
    .wrongArguments "function takes exactly 5 arguments (1 given)"
  else if name = "UnicodeTranslateError" then
    .wrongArguments "function takes exactly 4 arguments (1 given)"
  else if name = "ExceptionGroup" || name = "BaseExceptionGroup" then
    .wrongArguments "BaseExceptionGroup.__new__() takes exactly 2 arguments (1 given)"
  else if exceptionNames.contains name then .raised name text
  else .refused "NameError" s!"name '{name}' is not defined"

/-- Runs the script of a method. A script that raises or calls does so on its second line; a
generator only starts to run when it is asked for its first value. -/
def perform (ops : Ops) (receiver : Ref) (method : String) (arguments : List Ref)
    (action : Action) : HostM Ref :=
  nested "" do
    match action with
    | .give result => return result
    | .raise exception text =>
      throw { cause := .ofRaise exception text, frames := [⟨2, method⟩] }
    | .yield items failure =>
      make (.walk .generator (.suspended receiver arguments method items failure))
    | .call target name given result =>
      within ⟨2, method⟩ do
        let answer ← holding (receiver :: arguments) (ops.call target name given)
        ops.release [answer]
      return result

/-- Calls the script that replaces a method, if the class of the receiver has one. -/
def scripted? (ops : Ops) (receiver : Ref) (method : String) (arguments : List Ref) :
    HostM (Option Ref) := do
  match (← heap).scripted? receiver method with
  | some action => some <$> perform ops receiver method arguments action
  | none => return none

/-- The integer that an object stands for where one is required, and the name of the type of the
object that carried it. -/
def index (ops : Ops) (ref : Ref) : HostM (Int × String) := do
  match (← bodyOf ref).int? with
  | some value => return (value, ← typeNameOf ref)
  | none =>
    match ← scripted? ops ref "__index__" [] with
    | some result =>
      let typeName ← typeNameOf result
      let value := (← bodyOf result).int?
      ops.release [result]
      match value with
      | some value => return (value, typeName)
      | none => fail (.indexNotInteger typeName)
    | none => fail (.notInteger (← typeNameOf ref))

/-- The largest length that the host can count. -/
def maxLength : Int := Nat.pow 2 63 - 1

/-- The integer that an object stands for, which has to be in the range of lengths. -/
def smallIndex (ops : Ops) (ref : Ref) : HostM Int := do
  let (value, _) ← index ops ref
  if value < -maxLength - 1 || maxLength < value then fail .indexTooLarge else return value

/-- The integer that an object stands for, moved into the range of lengths. -/
def clampedIndex (ops : Ops) (ref : Ref) : HostM Int := do
  let (value, _) ← index ops ref
  return max (-maxLength - 1) (min maxLength value)

/-- The number of items of a built-in container. -/
def Heap.size? (heap : Heap) : Body → Option Nat
  | .list items | .tuple items => some items.length
  | .set table | .frozenset table => some table.size
  | .dict table => some table.size
  | .text codes => some codes.length
  | .bytes content => some content.length
  | .view _ source => some ((heap.body source).entries?.elim 0 DictTable.size)
  | _ => none

def length (ops : Ops) (ref : Ref) : HostM Nat := do
  match ← scripted? ops ref "__len__" [] with
  | some result =>
    let (value, typeName) ← keeping ops [result] (index ops result)
    if value < 0 then fail .negativeLength
    else if maxLength < value then fail (.lengthTooLarge typeName)
    else return value.toNat
  | none =>
    let heap ← heap
    match heap.size? (heap.body ref) with
    | some size => return size
    | none => fail (.noLength (heap.typeName ref))

def Body.truth? : Body → Option Bool
  | .nil => some false
  | .bool value => some value
  | .int value => some (value ≠ 0)
  | .float bits => some (!Binary64.isZero bits)
  | _ => none

def truth (ops : Ops) (ref : Ref) : HostM Bool := do
  match ← scripted? ops ref "__bool__" [] with
  | some result =>
    let typeName ← typeNameOf result
    let answer ← bodyOf result
    ops.release [result]
    match answer with
    | .bool value => return value
    | _ => fail (.truthNotBool typeName)
  | none =>
    let heap ← heap
    match (heap.body ref).truth? with
    | some value => return value
    | none =>
      if (heap.scripted? ref "__len__").isSome || (heap.size? (heap.body ref)).isSome then
        return (← length ops ref) ≠ 0
      else return true

/-- Whether comparing or showing an object runs no script. -/
def Heap.isInert (heap : Heap) (ref : Ref) : Bool :=
  let object := heap.view ref
  match object.body with
  | .nil | .bool _ | .int _ | .float _ | .text _ | .bytes _ | .plain | .handle _ => object.script.isNone
  | _ => false

def decided (ops : Ops) (answer : Ref) : HostM Bool := keeping ops [answer] (truth ops answer)

/-- How many steps an operation is followed that goes on for as long as scripts let it: more than there
is room for in any container. -/
def stepLimit : Nat := Nat.pow 2 63

theorem exists_stepLimit : ∃ steps, stepLimit = steps + 1 := ⟨Nat.pow 2 63 - 1, rfl⟩

def outOfSteps {α : Type} : HostM α := fail .outOfSteps

end HeapBridge.Host
