import HeapBridge.Proofs.Boundary.Blindness
/-!
Calls over the boundary. A call of an exported function is judged in two steps: its arguments are either
rejected, for the first reason in a fixed order, or make a request for one operation of the bridge; and
what the operation comes to is handed out in a form that says whether it failed.
-/
namespace HeapBridge.Export

open Host (Ref)

variable {α : Type}

inductive Call where
  | init
  | setNew (value : Option Ref)
  | setAllocate
  | setInit (storage : Option Nat) (value : Option Ref)
  | setHostObject (set : Pointer)
  | isForeignSet (object : Pointer)
  | setContains (set : Pointer) (item : Option Ref)
  | setAdd (set : Pointer) (item : Option Ref)
  | setRemove (set : Pointer) (item : Option Ref)
  | setCount (set : Pointer)
  | setIterate (set : Pointer)
  | iteratorNext (iterator : Option Nat) (output : Bool)
  | iteratorFree (iterator : Option Nat)
  | setRelease (set : Pointer)
  | register (typeId name : Option (List UInt8)) (toHost : Option ToHost)
      (fromHost : Option FromHost)
  | registerCounted (typeId name : Option (List UInt8))
  | registerFramework (typeId : Option (List UInt8))
  | toHost (typeId : Option (List UInt8)) (pointer : Pointer)
  | fromHost (typeId : Option (List UInt8)) (value : Option Ref) (output : Bool)
  | hasWrapper (typeId : Option (List UInt8))
  | describe (signature : Option (List UInt8))
  deriving DecidableEq

/-- What a call gives back: its result, and what it has stored for the caller. -/
inductive Returned where
  | nothing
  | status (code : Int)
  | object (address : Option Nat)
  | host (ref : Option Ref)
  | iterator (number : Option Nat)
  | element (code : Int) (stored : Option Ref)
  | pointer (code : Int) (stored : Option Pointer)
  | text (text : Option String)
  deriving DecidableEq

inductive Request where
  | installBuiltins
  | create (value : Ref)
  | reserve
  | initialise (storage : Option Nat) (value : Ref)
  | hostValue (backing : Ref)
  | isForeignSet (answer : Bool)
  | contains (backing item : Ref)
  | add (backing item : Ref)
  | remove (backing item : Ref)
  | count (backing : Ref)
  | iterate (backing : Ref)
  | next (iterator : Nat)
  | dropIterator (iterator : Option Nat)
  | release (address : Option Nat)
  | register (wrapper : PointerWrapper)
  | toHost (typeId : String) (pointer : Pointer)
  | fromHost (typeId : String) (value : Ref)
  | hasWrapper (typeId : Option String)
  | describe (signature : String)

/-- What an operation comes to that does not fail. -/
inductive Outcome where
  /-- It was done, and the caller is told so. -/
  | done
  /-- It was done, and the caller is told nothing. -/
  | silent
  | truth (answer : Bool)
  | count (number : Nat)
  | object (address : Nat)
  | host (ref : Ref)
  | iterator (number : Nat)
  /-- The next element, none at the end. -/
  | element (ref : Option Ref)
  | pointer (pointer : Pointer)
  | name (name : Option String)
  deriving DecidableEq

def Request.run : Request → BridgeM Outcome
  | .installBuiltins => do
    HeapBridge.installBuiltins
    return .done
  | .create value => return .object (← ForeignSet.create value)
  | .reserve => do
    match ← modifyGet (World.reserve .foreignSet) with
    | some address => return .object address
    | none => throw (.allocationFailed .foreignSet)
  | .initialise storage value => return .object (← ForeignSet.initialise storage value)
  | .hostValue backing => return .host backing
  | .isForeignSet answer => return .truth answer
  | .contains backing item => return .truth (← ForeignSet.contains backing (.host item))
  | .add backing item => do
    ForeignSet.add backing (.host item)
    return .done
  | .remove backing item => do
    ForeignSet.remove backing (.host item)
    return .done
  | .count backing => return .count (← ForeignSet.count backing)
  | .iterate backing => return .iterator (← ForeignSet.iterate backing)
  | .next iterator => return .element (← ForeignSet.next iterator)
  | .dropIterator iterator => do
    modify fun world => iterator.elim world fun number => ForeignSet.dropIterator number world
    return .silent
  | .release address => do
    modify fun world => address.elim world fun address => world.releaseNative address
    return .silent
  | .register wrapper => do
    HeapBridge.register wrapper
    return .done
  | .toHost typeId pointer => return .host (← HeapBridge.toHost typeId pointer)
  | .fromHost typeId value => return .pointer (← HeapBridge.fromHost typeId value)
  | .hasWrapper typeId => do
    return .truth (typeId.elim false (← get).hasWrapper)
  | .describe signature => do return .name ((← get).describe signature)

/-- The form in which the caller gets what an operation comes to. Of a name it gets what is before the
first NUL. -/
def Outcome.returned : Outcome → Returned
  | .done => .status 0
  | .silent => .nothing
  | .truth answer => .status (if answer then 1 else 0)
  | .count number => .status number
  | .object address => .object (some address)
  | .host ref => .host (some ref)
  | .iterator number => .iterator (some number)
  | .element (some ref) => .element 1 (some ref)
  | .element none => .element 0 none
  | .pointer found => .pointer 0 (some found)
  | .name text => .text (text.map visibleText)

/-- What becomes of the world when an outcome is handed out: the caller holds an element, and a name is
kept for reading. -/
def Outcome.handOut (thread : Thread) : Outcome → World → World
  | .element (some ref), world => world.hold ref
  | .name (some text), world => (world.returnText thread text).2
  | _, world => world

def Call.failed : Call → Returned
  | .setNew _ | .setAllocate | .setInit _ _ => .object none
  | .setHostObject _ | .toHost _ _ => .host none
  | .setIterate _ => .iterator none
  | .iteratorNext _ _ => .element (-1) none
  | .fromHost _ _ _ => .pointer (-1) none
  | .describe _ => .text none
  | .setRelease _ | .iteratorFree _ => .nothing
  | .isForeignSet _ | .hasWrapper _ => .status 0
  | .init | .setContains _ _ | .setAdd _ _ | .setRemove _ _ | .setCount _ | .register _ _ _ _
  | .registerCounted _ _ | .registerFramework _ => .status (-1)

def backingOf (world : World) (set : Pointer) : Except BridgeError Ref :=
  match set with
  | .native address =>
    match world.native.backing? address with
    | some backing => .ok backing
    | none => .error (.invalidArgument .notForeignSet)
  | _ => .error (.invalidArgument .notForeignSet)

def present (value : Option Ref) : Except BridgeError Ref := value.elim (.error .nullHostValue) .ok

def writable (output : Bool) : Except BridgeError Unit :=
  if output then .ok () else .error (.invalidArgument .nullOutput)

def converters (typeId : String) : Option ToHost → Option FromHost →
    Except BridgeError (ToHost × FromHost)
  | some toHost, some fromHost => .ok (toHost, fromHost)
  | _, _ => .error (.invalidArgument (.missingConverter typeId))

/-- The request that a call makes, or the first reason why its arguments are rejected. -/
def Call.request (world : World) : Call → Except BridgeError Request
  | .init => .ok .installBuiltins
  | .setNew value => do return .create (← present value)
  | .setAllocate => .ok .reserve
  | .setInit storage value => do return .initialise storage (← present value)
  | .setHostObject set => do return .hostValue (← backingOf world set)
  | .isForeignSet object => .ok (.isForeignSet (backingOf world object).isOk)
  | .setContains set item => do return .contains (← backingOf world set) (← present item)
  | .setAdd set item => do return .add (← backingOf world set) (← present item)
  | .setRemove set item => do return .remove (← backingOf world set) (← present item)
  | .setCount set => do return .count (← backingOf world set)
  | .setIterate set => do return .iterate (← backingOf world set)
  | .iteratorNext none _ => .error (.invalidArgument .nullIterator)
  | .iteratorNext (some iterator) output => do
    writable output
    return .next iterator
  | .iteratorFree iterator => .ok (.dropIterator iterator)
  | .setRelease .null => .ok (.release none)
  | .setRelease (.native address) => do
    let _ ← backingOf world (.native address)
    return .release (some address)
  | .setRelease _ => .error (.invalidArgument .notForeignSet)
  | .register typeId name outward inward => do
    let typeId ← readText typeId
    let name ← readText name
    let (outward, inward) ← converters typeId outward inward
    return .register { typeId, name, toHost := outward, fromHost := inward }
  | .registerCounted typeId name => do
    let typeId ← readText typeId
    return .register (.owning typeId (← readText name) .nativeObject)
  | .registerFramework typeId => do return .register (.framework (← readText typeId))
  | .toHost typeId pointer => do return .toHost (← readText typeId) pointer
  | .fromHost typeId value output => do
    let typeId ← readText typeId
    writable output
    return .fromHost typeId (← present value)
  | .hasWrapper typeId => .ok (.hasWrapper (readText typeId).toOption)
  | .describe signature => do return .describe (← readText signature)

/-- What a call uses up although its arguments are rejected: storage that was handed over for a proxy. -/
def Call.consume (world : World) : Call → World
  | .setInit (some address) none => { world with native := world.native.discard address }
  | _ => world

/-- What a call comes to if only the bridge is looked at: its arguments are rejected, or the operation
runs that is asked for. -/
def Call.outcome (call : Call) (world : World) : Except BridgeError Outcome × World :=
  match call.request world with
  | .error error => (.error error, call.consume world)
  | .ok request => request.run.run.run world

def Call.returned (call : Call) : Except BridgeError Outcome → Returned
  | .ok outcome => outcome.returned
  | .error _ => call.failed

/-- The last error that a call leaves behind. A text that would not be read in full is not kept. -/
def lastErrorOf : Except BridgeError Outcome → Option String
  | .ok _ => none
  | .error error => if hasNul error.message then none else some error.message

def leave (thread : Thread) : Except BridgeError Outcome → World → World
  | .ok outcome, world => (outcome.handOut thread world).clearLastError thread
  | .error error, world => world.setLastError thread error.message

def Call.perform (thread : Thread) : Call → ExportM Returned
  | .init => .status <$> Export.init thread
  | .setNew value => .object <$> Export.setNew thread value
  | .setAllocate => .object <$> Export.setAllocate thread
  | .setInit storage value => .object <$> Export.setInit thread storage value
  | .setHostObject set => .host <$> Export.setHostObject thread set
  | .isForeignSet object => .status <$> Export.isForeignSet thread object
  | .setContains set item => .status <$> Export.setContains thread set item
  | .setAdd set item => .status <$> Export.setAdd thread set item
  | .setRemove set item => .status <$> Export.setRemove thread set item
  | .setCount set => .status <$> Export.setCount thread set
  | .setIterate set => .iterator <$> Export.setIterate thread set
  | .iteratorNext iterator output =>
    (fun result => .element result.1 result.2) <$> Export.iteratorNext thread iterator output
  | .iteratorFree iterator => (fun _ => .nothing) <$> Export.iteratorFree thread iterator
  | .setRelease set => (fun _ => .nothing) <$> Export.setRelease thread set
  | .register typeId name outward inward =>
    .status <$> Export.register thread typeId name outward inward
  | .registerCounted typeId name => .status <$> Export.registerCounted thread typeId name
  | .registerFramework typeId => .status <$> Export.registerFramework thread typeId
  | .toHost typeId pointer => .host <$> Export.toHost thread typeId pointer
  | .fromHost typeId value output =>
    (fun result => .pointer result.1 result.2) <$> Export.fromHost thread typeId value output
  | .hasWrapper typeId => .status <$> Export.hasWrapper thread typeId
  | .describe signature => .text <$> Export.describe thread signature

end HeapBridge.Export
