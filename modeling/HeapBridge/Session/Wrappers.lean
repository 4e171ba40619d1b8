import HeapBridge.Session.Hosts
/-!
Commands on pointers: wrappers are registered and looked up, and pointers are converted to host
objects and back through them.
-/
namespace HeapBridge

open Host (Form Literal Ref)

/-- Descriptions of pointers. -/
inductive PointerLiteral where
  | null
  | number (n : Nat)
  /-- The native object in a slot. -/
  | native (slot : String)
  /-- The address of the host object in a slot. -/
  | host (slot : String)

/-- Descriptions of converters to host values. -/
inductive ToHostLiteral where
  | number
  | constant (value : Literal)
  | refuse (exception text : String)
  | register (typeId : String)

inductive WrapperCommand where
  | register (typeId name : String) (toHost : ToHostLiteral) (fromHost : FromHost)
  | registerBorrowing (typeId name : String)
  | registerOwning (typeId name : String) (discipline : Discipline)
  | registerFramework (typeId : String)
  | installBuiltins
  | has (typeId : String)
  | describe (signature : String)
  | typeIds
  | toHost (typeId : String) (pointer : PointerLiteral) (result : Option String)
  | toHostFor (signature : String) (pointer : PointerLiteral) (result : Option String)
  | fromHost (typeId : String) (value : Literal)
  | fromHostFor (signature : String) (value : Literal)
  /-- The calls to external families since this was last asked. -/
  | externalCalls
  | makeHandle (typeId name : String) (pointer : PointerLiteral) (discipline : Option Discipline)
      (result : Option String)
  | extractPointer (value : Literal) (typeId : String)
  /-- Registers a type and dies on the way. -/
  | poison (typeId : String)

namespace Session

def makePointer : PointerLiteral → SessionM Pointer
  | .null => return .null
  | .number n => return .ofNumber n
  | .native slot => do return .native (← content (·.objects) slot).address
  | .host slot => do return .host (← hostOf slot)

def makeToHost : ToHostLiteral → SessionM ToHost
  | .number => return .number
  | .constant value => do return .constant (← build value)
  | .refuse exception text => return .refuse exception text
  | .register typeId => return .register typeId

def registerWrapper (wrapper : PointerWrapper) : SessionM Reply := do
  bridge (HeapBridge.register wrapper)
  return .done

/-- Writes out a host object of which a reference was handed over, and keeps it or gives the
reference back. -/
def showOwned (result : Option String) (ref : Ref) : SessionM Form := do
  modifyWorld (·.unhold ref)
  showAndKeep result ref

/-- What the output variable of a conversion holds before the conversion. -/
def untouched : Pointer := .word 0x99

/-- Converts a host value to a pointer. The output variable is only written by a success. -/
def convert (value : Literal) (conversion : Ref → BridgeM Pointer) : SessionM Reply := do
  let ref ← build value
  tryCatch
    (do
      let pointer ← bridge (conversion ref)
      return .stored ((← get).pointerNameFor ref pointer))
    fun failure => return .notStored failure ((← get).pointerNameFor ref untouched)

end Session

open Session

def WrapperCommand.run : WrapperCommand → SessionM Reply
  | .register typeId name outward inward => do
    let outward ← makeToHost outward
    registerWrapper { typeId, name, toHost := outward, fromHost := inward }
  | .registerBorrowing typeId name => registerWrapper (.borrowing typeId name)
  | .registerOwning typeId name discipline => registerWrapper (.owning typeId name discipline)
  | .registerFramework typeId => registerWrapper (.framework typeId)
  | .installBuiltins => do
    bridge HeapBridge.installBuiltins
    return .done
  | .has typeId => do return .flag ((← get).world.hasWrapper typeId)
  | .describe signature => do return .text ((← get).world.describe signature)
  | .typeIds => do
    match (← get).world.registry.typeIds with
    | .ok known => return .texts known
    | .error error => throw (.bridge error)
  | .toHost typeId pointer result => do
    let pointer ← makePointer pointer
    return .form (← showOwned result (← bridge (HeapBridge.toHost typeId pointer)))
  | .toHostFor signature pointer result => do
    let pointer ← makePointer pointer
    return .form (← showOwned result (← bridge (HeapBridge.toHostFor signature pointer)))
  | .fromHost typeId value => convert value (HeapBridge.fromHost typeId)
  | .fromHostFor signature value => convert value (HeapBridge.fromHostFor signature)
  | .externalCalls => do
    let session ← get
    modify fun session => { session with reported := session.world.calls.length }
    return .calls ((session.world.calls.drop session.reported).filter (·.isExternal))
  | .makeHandle typeId name pointer discipline result => do
    let pointer ← makePointer pointer
    let ref ← bridge (HeapBridge.makeHandle typeId name pointer discipline)
    return .form (← showAndKeep result ref)
  | .extractPointer value typeId => do
    let ref ← build value
    let pointer ← host (HeapBridge.extractPointer typeId ref)
    return .stored ((← get).pointerNameFor ref pointer)
  | .poison typeId => do
    bridge (dieRegistering (.borrowing typeId "Poison"))
    return .died

end HeapBridge
