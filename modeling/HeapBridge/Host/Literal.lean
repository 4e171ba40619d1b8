import HeapBridge.Host.Methods
/-!
Literals: descriptions of host values. Building one makes a new object for every part that is not
a reference to an existing one; collections take their items in order, so a set keeps the first of
equal elements and a dictionary the first key and the last value.
-/
namespace HeapBridge.Host

mutual

inductive Literal where
  | nil
  | bool (value : Bool)
  | int (value : Int)
  | float (bits : UInt64)
  | text (codes : CodePoints)
  | bytes (content : List UInt8)
  | list (items : List Literal)
  | tuple (items : List Literal)
  | set (items : List Literal)
  | frozenset (items : List Literal)
  | dict (entries : List (Literal × Literal))
  | plain
  /-- The very object in a slot. -/
  | slot (name : String)
  /-- An object of a new class derived from a built-in type, made from a value of that type. -/
  | scripted (name : String) (base : Kind) (value : Option Literal)
      (methods : List (String × LiteralAction))

/-- The script of a method, by literals for the objects it mentions. -/
inductive LiteralAction where
  | give (result : Literal)
  | raise (exception text : String)
  | yield (items : List Literal) (failure : Option (String × String))
  | call (slot method : String) (arguments : List Literal) (result : Literal)

end

/-- Building makes objects in flight; what is left of them by a failure is nobody's. It fails like a host
operation, or at a name that is not a slot. -/
abbrev BuildM := ExceptT String HostM

def BuildM.host {α : Type} (operation : HostM α) : BuildM α := ExceptT.lift operation

def makeSet (empty : HostM Ref) (items : List Ref) : HostM Ref := do
  let set ← empty
  SetObject.addAll ops set items
  holding [set] (ops.release items)
  return set

def makeDict (entries : List (Ref × Ref)) : HostM Ref := do
  let dict ← make (.dict .empty)
  DictObject.insertAll ops dict entries
  holding [dict] (ops.release (entries.flatMap fun entry => [entry.1, entry.2]))
  return dict

def makeScripted (script : Script) (value : Option Ref) : HostM Ref := do
  let object ← define ops script value
  holding [object] (ops.release value.toList)
  return object

mutual

def Literal.build (slots : String → Option Ref) : Literal → BuildM Ref
  | .nil => .host (make .nil)
  | .bool value => .host (make (.bool value))
  | .int value => .host (make (.int value))
  | .float bits => .host (make (.float bits))
  | .text codes => .host (make (.text codes))
  | .bytes content => .host (make (.bytes content))
  | .list items => do .host (make (.list (← buildAll slots items)))
  | .tuple items => do .host (make (.tuple (← buildAll slots items)))
  | .set items => do .host (makeSet (make (.set .empty)) (← buildAll slots items))
  | .frozenset items => do .host (makeSet (make (.frozenset .empty)) (← buildAll slots items))
  | .dict entries => do .host (makeDict (← buildEntries slots entries))
  | .plain => .host (make .plain)
  | .slot name =>
    match slots name with
    | some ref => return ref
    | none => throw name
  | .scripted name base value methods => do
    let value ← match value with
      | some value => some <$> value.build slots
      | none => pure none
    let methods ← buildMethods slots methods
    .host (makeScripted { name, base, methods } value)

def buildAll (slots : String → Option Ref) : List Literal → BuildM (List Ref)
  | [] => return []
  | literal :: rest => return (← literal.build slots) :: (← buildAll slots rest)

def buildEntries (slots : String → Option Ref) :
    List (Literal × Literal) → BuildM (List (Ref × Ref))
  | [] => return []
  | (key, value) :: rest => do
    let key ← key.build slots
    let value ← value.build slots
    return (key, value) :: (← buildEntries slots rest)

def buildMethods (slots : String → Option Ref) :
    List (String × LiteralAction) → BuildM (List (String × Action))
  | [] => return []
  | (name, action) :: rest => do
    let action ← action.build slots
    return (name, action) :: (← buildMethods slots rest)

def LiteralAction.build (slots : String → Option Ref) : LiteralAction → BuildM Action
  | .give result => return .give (← result.build slots)
  | .raise exception text => return .raise exception text
  | .yield items failure => return .yield (← buildAll slots items) failure
  | .call slot method arguments result => do
    match slots slot with
    | some receiver =>
      let arguments ← buildAll slots arguments
      return .call receiver method arguments (← result.build slots)
    | none => throw slot

end

end HeapBridge.Host
