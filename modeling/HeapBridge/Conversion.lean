import HeapBridge.ForeignSet
/-!
Pointers across the bridge. Each type of pointers has converters in the registry; they run without
the table being held, so a converter may itself register a type. A failed conversion changes
nothing but what its converter did.
-/
namespace HeapBridge

open Host (Ref)

def register (wrapper : PointerWrapper) : BridgeM Unit := do
  let outcome := (← get).registry.insert wrapper
  modify (·.note (Registry.insertEvent wrapper outcome))
  match outcome with
  | .ok registry => modify fun world => { world with registry }
  | .error error => throw error

def registerAll : List PointerWrapper → BridgeM (List (Except BridgeError Unit))
  | [] => return []
  | wrapper :: rest => do
    let outcome ← tryCatch (Except.ok <$> register wrapper) fun error => return .error error
    return outcome :: (← registerAll rest)

/-- The first outcome that spoils an installation. Wrappers that are there already do not. -/
def firstFailure? : List (Except BridgeError Unit) → Option BridgeError
  | [] => none
  | .error (.duplicateWrapper _) :: rest => firstFailure? rest
  | .error error :: _ => some error
  | .ok _ :: rest => firstFailure? rest

def installation (outcomes : List (Except BridgeError Unit)) : Except BridgeError Unit :=
  match firstFailure? outcomes with
  | some error => .error error
  | none => .ok ()

def installationEvent : Except BridgeError Unit → Option Event
  | .ok () => some .builtinsInstalled
  | .error _ => none

/-- Registers the built-in wrappers and keeps what came of it. -/
def installFirst : BridgeM (Except BridgeError Unit) := do
  let outcome := installation (← registerAll builtinWrappers)
  modify (·.note (installationEvent outcome))
  modify fun world => { world with registry := { world.registry with builtins := some outcome } }
  return outcome

/-- Registers the built-in wrappers, unless that was tried before; the first outcome stands. -/
def installBuiltins : BridgeM Unit := do
  match (← get).registry.builtins with
  | some outcome => BridgeM.finish outcome
  | none => BridgeM.finish (← installFirst)

/-- What is left when a writer dies at the moment it logs what comes of its registration. The table
is taken after the identifier was checked, so only a proper identifier poisons it; the wrapper is
not inserted. A registration that logs nothing survives with its error. -/
def dieRegistering (wrapper : PointerWrapper) : BridgeM Unit := do
  let outcome := (← get).registry.insert wrapper
  match Registry.insertEvent wrapper outcome with
  | some event =>
    modify (·.emit event)
    if isIdentifier wrapper.typeId then
      modify fun world => { world with registry := { world.registry with poisoned := true } }
  | none => BridgeM.finish (outcome.map fun _ => ())

def lookup (typeId : String) : BridgeM PointerWrapper := do
  BridgeM.finish ((← get).registry.lookup typeId)

def identifierOf (signature : String) : BridgeM String :=
  match TypeEncoding.identifier? signature with
  | some typeId => return typeId
  | none => throw (.unknownType signature)

/-- A new handle for a pointer. A discipline retains the pointer once. -/
def makeHandle (typeId typeName : String) (pointer : Pointer) (ownership : Option Discipline) :
    BridgeM Ref := do
  let handle : Handle := { typeId, typeName, pointer := (← get).resolve pointer, ownership }
  modify (·.retainOwned handle)
  BridgeM.make (.handle handle)

def extractPointer (typeId : String) (value : Ref) : Host.HostM Pointer := do
  match ← Host.bodyOf value with
  | .handle handle =>
    if handle.typeId = typeId then return handle.pointer
    else Host.fail (.otherHandle typeId handle.typeId)
  | _ => Host.fail (.notHandle (← Host.typeNameOf value))

def extractNumber (value : Ref) : Host.HostM Pointer := do
  let (number, _) ← Host.index Host.ops value
  if number < 0 then Host.fail .negativeAddress
  else if Pointer.wordCount ≤ number then Host.fail .addressTooLarge
  else return .ofNumber number.toNat

/-- What a routine from outside leaves behind: the pointer it stored, its status, and the
exception it set. -/
structure RoutineResult where
  stored : Option Pointer
  status : Int
  pending : Option Host.Fault

def Routine.run (routine : Routine) (value : Ref) : Host.HostM RoutineResult := do
  match routine with
  | .number =>
    tryCatch (do return ⟨some (← extractNumber value), 0, none⟩) fun fault =>
      return ⟨none, -1, some fault⟩
  | .refuse => return ⟨none, -1, some { cause := .raised "ValueError" "c converter refused" }⟩
  | .silent => return ⟨none, -1, none⟩
  | .partly => return ⟨some (.ofNumber 77), 1, none⟩
  | .nothing => return ⟨none, 0, none⟩

/-- What a routine's result means: a status other than zero is a failure, whatever was stored, and
a success without a pointer stores NULL. -/
def RoutineResult.pointer (result : RoutineResult) : Host.HostM Pointer :=
  if result.status = 0 then return result.stored.getD .null
  else throw (result.pending.getD { cause := .converterFailed })

def FromHost.run (converter : FromHost) (value : Ref) : Host.HostM Pointer := do
  match converter with
  | .number => extractNumber value
  | .constant pointer => return pointer
  | .refuse exception text => throw { cause := .ofRaise exception text }
  | .handle typeId => if value.isNil then return .null else extractPointer typeId value
  | .object => return .host value
  | .routine behaviour => (← behaviour.run value).pointer

/-- Runs a converter to host values; its own faults are explained by the type it converts. -/
def ToHost.run (converter : ToHost) (typeId : String) (pointer : Pointer) : BridgeM Ref := do
  match converter with
  | .number => BridgeM.make (.int pointer.number)
  | .constant ref => return ref
  | .refuse exception text =>
    BridgeM.explained (.conversion typeId) { cause := .ofRaise exception text }
  | .nil => return .nil
  | .register inner =>
    let outcome ← tryCatch
      (do
        HeapBridge.register (.borrowing inner "Nested")
        return "ok")
      fun error => return error.message
    BridgeM.make (.text (outcome.toList.map Char.toNat))
  | .handle handleId name discipline =>
    if pointer.isNull then return .nil else makeHandle handleId name pointer discipline
  | .object =>
    match (← get).resolve pointer with
    | .host ref => return ref
    | _ => return .nil

/-- The host value for a pointer, as a new reference that is held. -/
def toHost (typeId : String) (pointer : Pointer) : BridgeM Ref := do
  let wrapper ← lookup typeId
  let ref ← wrapper.toHost.run typeId pointer
  modify (·.hold ref)
  return ref

def fromHost (typeId : String) (value : Ref) : BridgeM Pointer := do
  let wrapper ← lookup typeId
  BridgeM.host (.conversion typeId) (wrapper.fromHost.run value)

/-- The host value for a pointer whose type is given by an encoding. -/
def toHostFor (signature : String) (pointer : Pointer) : BridgeM Ref := do
  toHost (← identifierOf signature) pointer

def fromHostFor (signature : String) (value : Ref) : BridgeM Pointer := do
  fromHost (← identifierOf signature) value

namespace World

def hasWrapper (world : World) (typeId : String) : Bool :=
  match world.registry.lookup typeId with
  | .ok _ => true
  | .error _ => false

/-- The display name of the type that an encoding points to, if there is a wrapper for it. -/
def describe (world : World) (signature : String) : Option String :=
  match TypeEncoding.identifier? signature with
  | some typeId =>
    match world.registry.lookup typeId with
    | .ok wrapper => some wrapper.name
    | .error _ => none
  | none => none

end World

end HeapBridge
