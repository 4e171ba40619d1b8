import HeapBridge.Conversion
/-!
The functions that the bridge exports to native callers. Each clears the last error of the calling
thread, rejects bad arguments in a fixed order, and otherwise does what the operation behind it
does; an error becomes the last error, and the answer is then a value that no success gives. The
functions on plain objects cannot fail and leave the last error alone.
-/
namespace HeapBridge.Export

open Host (Ref)

abbrev ExportM := StateM World

/-- Runs an operation for a caller on a thread: `failed` is what the caller gets for an error. -/
def guarded {α : Type} (thread : Thread) (failed : α) (operation : BridgeM α) : ExportM α := do
  modify (·.clearLastError thread)
  match ← operation.run with
  | .ok value => return value
  | .error error =>
    modify (·.setLastError thread error.message)
    return failed

def status (thread : Thread) (operation : BridgeM Unit) : ExportM Int :=
  guarded thread (-1) (do operation; return 0)

/-- A test, as a status. -/
def flag (thread : Thread) (operation : BridgeM Bool) : ExportM Int :=
  guarded thread (-1) (do return if ← operation then 1 else 0)

/-- The host value behind a handle that has to be a foreign set. -/
def setArgument (set : Pointer) : BridgeM Ref := do
  match set with
  | .native address =>
    match (← get).native.backing? address with
    | some backing => return backing
    | none => throw (.invalidArgument .notForeignSet)
  | _ => throw (.invalidArgument .notForeignSet)

def itemArgument (item : Option Ref) : BridgeM Ref :=
  match item with
  | some ref => return ref
  | none => throw .nullHostValue

def textArgument (text : Option (List UInt8)) : BridgeM String := BridgeM.finish (readText text)

def outputArgument (given : Bool) : BridgeM Unit :=
  if given then return () else throw (.invalidArgument .nullOutput)

def init (thread : Thread) : ExportM Int := status thread installBuiltins

/-- A proxy of a host value, whose reference is handed over. -/
def setNew (thread : Thread) (value : Option Ref) : ExportM (Option Nat) :=
  guarded thread none do return some (← ForeignSet.create (← itemArgument value))

def setAllocate (thread : Thread) : ExportM (Option Nat) :=
  guarded thread none do
    match ← modifyGet (World.reserve .foreignSet) with
    | some address => return some address
    | none => throw (.allocationFailed .foreignSet)

/-- Makes a proxy in reserved storage. Storage and reference are handed over: a call that fails
has given both back. -/
def setInit (thread : Thread) (storage : Option Nat) (value : Option Ref) :
    ExportM (Option Nat) :=
  guarded thread none do
    match value with
    | some value => return some (← ForeignSet.initialise storage value)
    | none =>
      modify fun world => { world with native := storage.elim world.native world.native.discard }
      throw .nullHostValue

def setHostObject (thread : Thread) (set : Pointer) : ExportM (Option Ref) :=
  guarded thread none do return some (← setArgument set)

def isForeignSet (thread : Thread) (object : Pointer) : ExportM Int :=
  guarded thread 0 do
    match object with
    | .native address => return if ((← get).native.backing? address).isSome then 1 else 0
    | _ => return 0

def setContains (thread : Thread) (set : Pointer) (item : Option Ref) : ExportM Int :=
  flag thread do
    let backing ← setArgument set
    ForeignSet.contains backing (.host (← itemArgument item))

def setAdd (thread : Thread) (set : Pointer) (item : Option Ref) : ExportM Int :=
  status thread do
    let backing ← setArgument set
    ForeignSet.add backing (.host (← itemArgument item))

def setRemove (thread : Thread) (set : Pointer) (item : Option Ref) : ExportM Int :=
  status thread do
    let backing ← setArgument set
    ForeignSet.remove backing (.host (← itemArgument item))

def setCount (thread : Thread) (set : Pointer) : ExportM Int :=
  guarded thread (-1) do return ((← ForeignSet.count (← setArgument set) : Nat) : Int)

def setIterate (thread : Thread) (set : Pointer) : ExportM (Option Nat) :=
  guarded thread none do return some (← ForeignSet.iterate (← setArgument set))

/-- Advances an iterator: one and the next element, which is held, zero at the end. The output is
only written with a one. -/
def iteratorNext (thread : Thread) (iterator : Option Nat) (output : Bool) :
    ExportM (Int × Option Ref) :=
  guarded thread (-1, none) do
    match iterator with
    | none => throw (.invalidArgument .nullIterator)
    | some iterator =>
      outputArgument output
      match ← ForeignSet.next iterator with
      | some element =>
        modify (·.hold element)
        return (1, some element)
      | none => return (0, none)

def iteratorFree (thread : Thread) (iterator : Option Nat) : ExportM Unit :=
  guarded thread () do
    match iterator with
    | some iterator => modify (ForeignSet.dropIterator iterator)
    | none => return ()

/-- Releases one reference to a foreign set, and says whether there was one to release. -/
def setRelease (thread : Thread) (set : Pointer) : ExportM Bool :=
  guarded thread false do
    match set with
    | .null => return false
    | .native address =>
      let _ ← setArgument set
      modify (·.releaseNative address)
      return true
    | _ => throw (.invalidArgument .notForeignSet)

/-- Registers converters from outside. Both have to be there. -/
def register (thread : Thread) (typeId name : Option (List UInt8)) (toHost : Option ToHost)
    (fromHost : Option FromHost) : ExportM Int :=
  status thread do
    let typeId ← textArgument typeId
    let name ← textArgument name
    match toHost, fromHost with
    | some toHost, some fromHost => HeapBridge.register { typeId, name, toHost, fromHost }
    | _, _ => throw (.invalidArgument (.missingConverter typeId))

def registerCounted (thread : Thread) (typeId name : Option (List UInt8)) : ExportM Int :=
  status thread do
    let typeId ← textArgument typeId
    let name ← textArgument name
    HeapBridge.register (.owning typeId name .nativeObject)

def registerFramework (thread : Thread) (typeId : Option (List UInt8)) : ExportM Int :=
  status thread do HeapBridge.register (.framework (← textArgument typeId))

def toHost (thread : Thread) (typeId : Option (List UInt8)) (pointer : Pointer) :
    ExportM (Option Ref) :=
  guarded thread none do return some (← HeapBridge.toHost (← textArgument typeId) pointer)

/-- The status of a conversion, and what it stores if it succeeds. -/
def fromHost (thread : Thread) (typeId : Option (List UInt8)) (value : Option Ref)
    (output : Bool) : ExportM (Int × Option Pointer) :=
  guarded thread (-1, none) do
    let typeId ← textArgument typeId
    outputArgument output
    let value ← itemArgument value
    return (0, some (← HeapBridge.fromHost typeId value))

/-- Whether a type has a wrapper. A text that cannot be read is the identifier of none, and not an
error. -/
def hasWrapper (thread : Thread) (typeId : Option (List UInt8)) : ExportM Int :=
  guarded thread 0 do
    match readText typeId with
    | .ok typeId => return if (← get).hasWrapper typeId then 1 else 0
    | .error _ => return 0

/-- The display name for an encoding, as far as it can be read. -/
def describe (thread : Thread) (signature : Option (List UInt8)) : ExportM (Option String) :=
  guarded thread none do
    let signature ← textArgument signature
    match (← get).describe signature with
    | some name => some <$> modifyGet (World.returnText thread name)
    | none => return none

def objectNew : ExportM (Option Nat) := do
  match ← modifyGet (World.reserve .plain) with
  | some address =>
    modify fun world => { world with native := world.native.install address .plain }
    return some address
  | none => return none

def objectRetain (object : Pointer) : ExportM Pointer := do
  modify (·.retainHandle .nativeObject object)
  return object

def objectRelease (object : Pointer) : ExportM Unit := do
  match object with
  | .native address => modify (·.releaseNative address)
  | _ => pure ()

def objectRetainCount (object : Pointer) : ExportM Nat := do
  match object with
  | .native address => return (← get).native.retainCount address
  | _ => return 0

end HeapBridge.Export
