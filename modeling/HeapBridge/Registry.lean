import HeapBridge.Error
import HeapBridge.Event
import HeapBridge.TypeEncoding
/-!
The registry of pointer wrappers: a table from type identifiers to display names and converters.
The first well-formed registration of an identifier stays; nothing is ever replaced or removed. A
writer that dies in the middle of its work poisons the table for good.
-/
namespace HeapBridge

open Host (Ref)

/-- What a converter routine from outside does when it is asked for a pointer. It answers with a
status and may store a pointer and leave an exception behind. -/
inductive Routine where
  /-- Stores the integer it is given. -/
  | number
  /-- Fails with an exception of its own. -/
  | refuse
  /-- Fails without one. -/
  | silent
  /-- Stores a pointer and fails without an exception. -/
  | partly
  /-- Succeeds without storing anything. -/
  | nothing
  deriving DecidableEq, Repr

/-- Converters from pointers to host values. -/
inductive ToHost where
  /-- The number of the pointer. -/
  | number
  /-- Always this object, to which the converter holds a reference. -/
  | constant (ref : Ref)
  | refuse (exception text : String)
  /-- Always the host's nil. -/
  | nil
  /-- Registers another type and answers what came of it. -/
  | register (typeId : String)
  /-- A new handle, which owns nothing without a discipline. -/
  | handle (typeId name : String) (discipline : Option Discipline)
  /-- The host object at the address. -/
  | object
  deriving DecidableEq, Repr

/-- Converters from host values to pointers. -/
inductive FromHost where
  /-- The pointer with the number that the value stands for. -/
  | number
  /-- Always this pointer. -/
  | constant (pointer : Pointer)
  | refuse (exception text : String)
  /-- The pointer of a handle of that type. -/
  | handle (typeId : String)
  /-- The address of the value. -/
  | object
  | routine (routine : Routine)
  deriving DecidableEq, Repr

structure PointerWrapper where
  typeId : String
  name : String
  toHost : ToHost
  fromHost : FromHost
  deriving DecidableEq, Repr

def isIdentifier (typeId : String) : Bool := typeId ≠ "" && !hasNul typeId

structure Registry where
  wrappers : List PointerWrapper := []
  poisoned : Bool := false
  /-- What came of the first installation of the built-in wrappers. -/
  builtins : Option (Except BridgeError Unit) := none

instance : Inhabited Registry := ⟨{}⟩

namespace Registry

def find? (registry : Registry) (typeId : String) : Option PointerWrapper :=
  registry.wrappers.find? fun wrapper => wrapper.typeId = typeId

/-- Adds a wrapper at the end of the table. -/
def push (registry : Registry) (wrapper : PointerWrapper) : Registry :=
  { registry with wrappers := registry.wrappers ++ [wrapper] }

/-- What a registration makes of the table: the new table, or why it stays as it is. -/
def insert (registry : Registry) (wrapper : PointerWrapper) : Except BridgeError Registry :=
  if !isIdentifier wrapper.typeId then .error (.invalidIdentifier wrapper.typeId)
  else if registry.poisoned then .error .poisoned
  else if (registry.find? wrapper.typeId).isSome then .error (.duplicateWrapper wrapper.typeId)
  else .ok (registry.push wrapper)

def insertEvent (wrapper : PointerWrapper) : Except BridgeError Registry → Option Event
  | .ok _ => some (.wrapperRegistered wrapper.typeId wrapper.name)
  | .error (.invalidIdentifier typeId) => some (.identifierRejected typeId)
  | .error (.duplicateWrapper typeId) => some (.duplicateRejected typeId)
  | .error _ => none

def lookup (registry : Registry) (typeId : String) : Except BridgeError PointerWrapper :=
  if registry.poisoned then .error .poisoned
  else
    match registry.find? typeId with
    | some wrapper => .ok wrapper
    | none => .error (.unknownType typeId)

/-- The bytewise order of texts, which is the order of their code points. -/
def textBelow (a b : String) : Bool := !(b < a)

def insertSorted (text : String) : List String → List String
  | [] => [text]
  | other :: rest =>
    if textBelow text other then text :: other :: rest else other :: insertSorted text rest

def typeIds (registry : Registry) : Except BridgeError (List String) :=
  if registry.poisoned then .error .poisoned
  else .ok ((registry.wrappers.map (·.typeId)).foldr insertSorted [])

def references (registry : Registry) : List Ref :=
  registry.wrappers.filterMap fun wrapper =>
    match wrapper.toHost with
    | .constant ref => some ref
    | _ => none

end Registry

/-- Converters of plain pointers: handles that own nothing. -/
def PointerWrapper.borrowing (typeId name : String) : PointerWrapper :=
  { typeId, name, toHost := .handle typeId name none, fromHost := .handle typeId }

/-- Converters of counted handles: each wrapper owns a reference. -/
def PointerWrapper.owning (typeId name : String) (discipline : Discipline) : PointerWrapper :=
  { typeId, name, toHost := .handle typeId name (some discipline), fromHost := .handle typeId }

/-- Converters of framework handles, whose display names follow from their identifiers. -/
def PointerWrapper.framework (typeId : String) : PointerWrapper :=
  .owning typeId (TypeEncoding.handleName typeId) .frameworkObject

def builtinWrappers : List PointerWrapper :=
  [ { typeId := "_object", name := "PyObject", toHost := .object, fromHost := .object },
    .borrowing "_NSZone" "NSZone",
    .framework "__CFAllocator" ]

end HeapBridge
