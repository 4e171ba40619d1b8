import HeapBridge.Host.DictObject
/-!
Attributes. A value that is computed comes before an attribute of the object's own, and that before the
methods of its class and of the kind the class derives from. Only objects of scripted classes have room
for attributes of their own. A class may answer for itself, or only for what is missing.
-/
namespace HeapBridge.Host

/-- What a name comes to on an object. -/
inductive Binding where
  /-- A value that is computed when it is asked for. -/
  | computed
  /-- An attribute of the object's own. -/
  | own (value : Ref)
  | script (action : Action)
  | builtin (member : Member)
  | absent
  deriving DecidableEq, Repr

/-- Whether objects of classes derived from a kind tell whether they are referred to weakly. -/
def Kind.hasWeakAttribute : Kind → Bool
  | .plain | .float | .text | .list | .dict => true
  | _ => false

/-- Whether a name stands for a value that the class computes and that hides attributes of an object's
own. -/
def Object.computes (object : Object) (name : String) : Bool :=
  let kind := object.body.kind
  name = "__class__" || kind.values.contains name ||
    (object.script.isSome &&
      (name = "__dict__" || (name = "__weakref__" && kind.hasWeakAttribute)))

def Heap.classBinding (heap : Heap) (ref : Ref) (name : String) : Binding :=
  match heap.scripted? ref name with
  | some action => .script action
  | none =>
    let object := heap.view ref
    if object.computes name then .computed
    else if name = "__hash__" && (heap.script? ref).any Script.isUnhashable then .builtin .value
    else if name = "__doc__" && object.script.isSome then .builtin .value
    else (object.body.kind.member? name).elim .absent .builtin

def Heap.binding (heap : Heap) (ref : Ref) (name : String) : Binding :=
  match heap.classBinding ref name with
  | .computed => .computed
  | binding => ((heap.view ref).attributes.lookup name).elim binding .own

def attributeDict (ops : Ops) (ref : Ref) : HostM Ref := do
  let dict ← make (.dict .empty)
  completing ops dict do
    for entry in ((← heap).view ref).attributes do
      let name ← makeText entry.1
      DictObject.insert ops dict name entry.2

def computedAttribute (ops : Ops) (ref : Ref) (name : String) : HostM Ref := do
  let heap ← heap
  match name, heap.body ref with
  | "__class__", _ => make (.type (heap.typeName ref))
  | "__dict__", _ => attributeDict ops ref
  | "real", .float bits => make (.float bits)
  | "imag", .float _ => make (.float 0)
  | "imag", _ => make (.int 0)
  | "denominator", _ => make (.int 1)
  | "type_id", .handle handle => makeText handle.typeId
  | "type_name", .handle handle => makeText handle.typeName
  | "__pointer__", .handle handle => make (.int handle.pointer.number)
  | _, body => body.int?.elim (pure .nil) fun value => make (.int value)

def plainAttribute (ops : Ops) (ref : Ref) (name : String) : HostM Ref := do
  let heap ← heap
  match heap.binding ref name with
  | .computed => computedAttribute ops ref name
  | .own value => return value
  | .script _ => make (.method .scriptedMethod ref name)
  | .builtin .method => make (.method .builtinMethod ref name)
  | .builtin .operation => make (.method .operatorMethod ref name)
  | .builtin .value => return .nil
  | .absent => fail (.noAttribute (heap.typeName ref) name)

def askFor (ops : Ops) (ref : Ref) (method name : String) : HostM (Option Ref) := do
  if ((← heap).scripted? ref method).isNone then return none
  else
    let text ← makeText name
    keeping ops [text] (scripted? ops ref method [text])

def getAttribute (ops : Ops) (ref : Ref) (name : String) : HostM Ref :=
  tryCatch
    (do
      match ← askFor ops ref "__getattribute__" name with
      | some value => return value
      | none => plainAttribute ops ref name)
    fun fault => do
      if fault.exception = "AttributeError" then
        match ← askFor ops ref "__getattr__" name with
        | some value => return value
        | none => throw fault
      else throw fault

def withAttribute (name : String) (value : Ref) : List (String × Ref) → List (String × Ref)
  | [] => [(name, value)]
  | (other, old) :: rest =>
    if other = name then (name, value) :: rest else (other, old) :: withAttribute name value rest

def Kind.valueOwner : Kind → String
  | .bool => Kind.int.typeName
  | kind => kind.typeName

def replaceAttributes (ops : Ops) (ref value : Ref) : HostM Unit := do
  match ← bodyOf value with
  | .dict table =>
    let heap ← heap
    let attributes := table.toList.filterMap fun entry =>
      (heap.body entry.key).codes?.map fun codes =>
        (String.ofList (codes.map Char.ofNat), entry.value)
    let old := (heap.view ref).attributes
    setOwnAttributes ref attributes
    ops.release (old.map (·.2))
  | _ =>
    refuse "TypeError"
      s!"__dict__ must be set to a dictionary, not a '{Cause.long (← typeNameOf value)}'"

/-- Sets what a class computes, which is hardly ever possible. -/
def setComputed (ops : Ops) (ref : Ref) (name : String) (value : Ref) : HostM Unit := do
  match name with
  | "__class__" =>
    match ← bodyOf value with
    | .type _ =>
      refuse "TypeError"
        "__class__ assignment only supported for heap types or ModuleType subclasses"
    | _ =>
      refuse "TypeError"
        s!"__class__ must be set to a class, not '{← typeNameOf value}' object"
  | "__dict__" => replaceAttributes ops ref value
  | "__weakref__" => fail (.readOnlyAttribute (← typeNameOf ref) name)
  | _ => fail (.readOnlyAttribute (← kindOf ref).valueOwner name)

def setPlainly (ops : Ops) (ref : Ref) (name : String) (value : Ref) : HostM Unit := do
  let heap ← heap
  let object := heap.view ref
  match heap.classBinding ref name with
  | .computed => setComputed ops ref name value
  | binding =>
    if object.script.isSome then
      setOwnAttributes ref (withAttribute name value object.attributes)
      ops.release (object.attributes.lookup name).toList
    else if binding = .absent && name ≠ "__doc__" then
      fail (.noAttribute (heap.typeName ref) name)
    else fail (.fixedAttribute (heap.typeName ref) name)

def setAttribute (ops : Ops) (ref : Ref) (name : String) (value : Ref) : HostM Unit := do
  if ((← heap).scripted? ref "__setattr__").isNone then setPlainly ops ref name value
  else
    let text ← makeText name
    let answer ← keeping ops [text] (scripted? ops ref "__setattr__" [text, value])
    ops.release answer.toList

end HeapBridge.Host
