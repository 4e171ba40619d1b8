import HeapBridge.Session.Sets
/-!
Commands on native objects: they are made in one step or in two, retained under further names, and
asked for their class, what they carry and how often they are referred to.
-/
namespace HeapBridge

open Native (NativeClass Payload)

inductive ObjectCommand where
  | create (slot : String) (nativeClass : NativeClass)
  /-- The tags of tracked payloads that were destroyed since this was last asked. -/
  | destroyed
  /-- Retains an object under another name. -/
  | retainAs (slot other : String)
  /-- What an object says of itself; none stands for NULL. -/
  | info (slot : Option String)
  /-- A counted reference to an object of that class, and a second one that goes again. -/
  | reference (slot : Option String) (nativeClass : NativeClass) (other : Option String)
  | reserve (slot : String) (nativeClass : NativeClass)
  /-- Makes a tracked object in reserved storage. -/
  | install (storage slot : String)
  /-- Gives reserved storage back. -/
  | discard (storage : String)

namespace Session

/-- The payload of a new object; a tracked one is tagged by the slot it is made for. -/
def payloadFor (slot : String) : NativeClass → Payload
  | .tracked => .tracked slot
  | .foreignSet => .foreignSet .nil
  | .plain => .plain

/-- Moves a payload into reserved storage and puts the object into a slot. -/
def installAs (slot : String) (address : Nat) (payload : Payload) : SessionM Unit := do
  modifyWorld fun world => { world with native := world.native.install address payload }
  keepObject slot address

/-- What NULL says of itself. -/
def noInfo : ObjectInfo :=
  { className := none, isPlain := false, isTracked := false, isForeignSet := false,
    retainCount := 0, tag := none }

/-- What an object says of itself. -/
def infoOf (object : Native.Object) : ObjectInfo :=
  let nativeClass := object.payload.nativeClass
  { className := some nativeClass.name
    isPlain := nativeClass = .plain
    isTracked := nativeClass = .tracked
    isForeignSet := nativeClass = .foreignSet
    retainCount := object.retainCount
    tag :=
      match object.payload with
      | .tracked tag => some tag
      | _ => none }

def ofClass? (session : Session) (address : Nat) (nativeClass : NativeClass) :
    Option Native.Object :=
  (session.world.native.object? address).filter fun object =>
    object.payload.nativeClass = nativeClass

def addressOf? (session : Session) (slot : String) (nativeClass : NativeClass) : Option Nat :=
  (session.objects.get? slot).bind fun slot =>
    (session.ofClass? slot.address nativeClass).map fun _ => slot.address

def referTo (address : Nat) (nativeClass : NativeClass) (other : Option String) :
    SessionM ReferenceInfo := do
  modifyWorld (·.retainNative address)
  let retainCount := (← get).world.native.retainCount address
  let session ← get
  let others := other.bind fun slot => session.addressOf? slot nativeClass
  modifyWorld (·.releaseNative address)
  return { className := nativeClass.name, retainCount, sameAsOther := others.map (· = address),
           after := (← get).world.native.retainCount address }

end Session

open Session

def ObjectCommand.run : ObjectCommand → SessionM Reply
  | .create slot nativeClass => do
    installAs slot (← Session.reserve nativeClass) (payloadFor slot nativeClass)
    return .done
  | .destroyed => do
    let tags := (← get).world.destroyed
    modifyWorld fun world => { world with destroyed := [] }
    return .texts tags
  | .retainAs slot other => do
    let slot ← content (·.objects) slot
    modifyWorld (·.retainNative slot.address)
    keepObject other slot.address
    return .done
  | .info none => return .object noInfo
  | .info (some slot) => do
    let slot ← content (·.objects) slot
    return .object (((← get).world.native.object? slot.address).elim noInfo infoOf)
  | .reference none _ _ => return .reference none
  | .reference (some slot) nativeClass other => do
    let slot ← content (·.objects) slot
    match (← get).ofClass? slot.address nativeClass with
    | some _ => return .reference (some (← referTo slot.address nativeClass other))
    | none => return .reference none
  | .reserve slot nativeClass => do
    let address ← Session.reserve nativeClass
    modify fun session =>
      { session with storage := session.storage.put slot (address, nativeClass) }
    return .done
  | .install storage slot => do
    match ← takeStorage storage .tracked with
    | some address =>
      installAs slot address (payloadFor slot .tracked)
      return .done
    | none => reject (.noSlot storage)
  | .discard storage => do
    match (← get).storage.get? storage with
    | some (address, _) =>
      modify fun session => { session with storage := session.storage.erase storage }
      modifyWorld fun world => { world with native := world.native.discard address }
      return .flag true
    | none => return .flag false

end HeapBridge
