import HeapBridge.Session.Objects
import HeapBridge.Session.Wrappers
/-!
Commands that go through the exported functions, as a native caller would use them. The reply is
what the function answers, together with the last error afterwards.
-/
namespace HeapBridge

open Host (Ref Literal)

/-- Text arguments as bytes; none stands for NULL. -/
abbrev TextArgument := Option (List UInt8)

/-- An exported function with its arguments, but for the native object that most of them take. -/
inductive ExportCommand where
  | init
  | lastError
  | clearLastError
  | setNew (slot : Option String) (value : Option Literal)
  | setAllocate (slot : String)
  | setInit (slot : Option String) (storage : Option String) (value : Option Literal)
  | setHostObject (result : Option String)
  | isForeignSet
  | setContains (item : Option Literal)
  | setAdd (item : Option Literal)
  | setRemove (item : Option Literal)
  | setCount
  | setIterate (iteration : Option String)
  | iteratorNext (iteration : Option String) (output : Bool)
  | iteratorFree (iteration : Option String)
  | setRelease
  | register (typeId name : TextArgument) (toHost : Option ToHost) (fromHost : Option FromHost)
  | registerCounted (typeId name : TextArgument)
  | registerFramework (typeId : TextArgument)
  | hasWrapper (typeId : TextArgument)
  | describe (signature : TextArgument)
  | toHost (typeId : TextArgument) (pointer : PointerLiteral) (result : Option String)
  | fromHost (typeId : TextArgument) (value : Option Literal) (output : Bool)
  | objectNew (slot : String)
  | objectRetain
  | objectRelease
  | objectRetainCount
  /-- A function that is not exported. -/
  | unknown

/-- A call of an exported function. The native object is looked up first; none stands for NULL. -/
structure ExportCall where
  object : Option String
  command : ExportCommand

namespace Session

def objectArgument : Option String → SessionM Pointer
  | none => return .null
  | some slot => do return .native (← content (·.objects) slot).address

/-- Builds a host argument, which the function borrows. It is given back afterwards. -/
def withHostArgument {α : Type} (literal : Option Literal) (action : Option Ref → SessionM α) :
    SessionM α := do
  match literal with
  | none => action none
  | some literal =>
    let ref ← build literal
    modifyWorld (·.hold ref)
    try action (some ref)
    finally modifyWorld (·.letGo ref)

/-- Builds a host argument of which the reference is handed over. -/
def ownedArgument : Option Literal → SessionM (Option Ref)
  | none => return none
  | some literal => some <$> buildOwned literal

def iteratorArgument (name : Option String) : SessionM (Option Nat) := do
  match name.bind (← get).iterations.get? with
  | some { number, stepping := .exported, .. } => return some number
  | _ => return none

def forgetIteration (name : Option String) : SessionM Unit :=
  modify fun session =>
    { session with iterations := name.elim session.iterations session.iterations.erase }

/-- A reply with the last error as the function has left it. -/
def reply (answer : Answer) : SessionM Reply :=
  return .exported answer ((← get).world.lastError? thread)

def slotName (name : Option String) : SessionM String :=
  match name with
  | some name => return name
  | none => reject (.missing "as")

/-- Keeps a new native object if there is one, and replies whether there is. -/
def replyObject (slot : Option String) (address : Option Nat) : SessionM Reply := do
  match address with
  | some address =>
    keepObject (← slotName slot) address
    reply (.flag true)
  | none => reply (.flag false)

/-- Writes out the host object that a function has answered, and keeps it if there is a name. -/
def replyHost (result : Option String) (ref : Option Ref) : SessionM Reply := do
  match ref with
  | some ref => reply (.host (some (← showAndKeep result ref)))
  | none => reply (.host none)

def onItem (item : Option Literal) (function : Option Ref → Export.ExportM Int) : SessionM Reply :=
  withHostArgument item fun item => do reply (.status (← exported (function item)))

def storageArgument : Option String → SessionM (Option Nat)
  | none => return none
  | some slot => takeStorage slot .foreignSet

def disownArgument (slot : Option String) : SessionM Unit :=
  modify fun session => slot.elim session session.disowned

/-- The slot of an argument takes over a reference. -/
def ownArgument (slot : Option String) : SessionM Unit :=
  modify fun session => slot.elim session session.owning

def iterateExported (object : Pointer) (iteration : Option String) : SessionM Reply := do
  match ← exported (Export.setIterate thread object) with
  | some number =>
    let session ← get
    let backing := match object with
      | .native address => session.world.native.backing? address
      | _ => none
    let ordered := backing.all session.isOrdered
    keepIteration (← slotName iteration) { number, stepping := .exported, ordered }
    reply (.flag true)
  | none => reply (.flag false)

def convertExported (typeId : TextArgument) (output : Bool) (value : Option Ref) :
    SessionM Reply := do
  let (status, stored) ← exported (Export.fromHost thread typeId value output)
  let session ← get
  let pointer := stored.getD untouched
  let name := (value.map fun ref => session.pointerNameFor ref pointer).getD
    (session.pointerName pointer)
  reply (.stored status name)

end Session

open Session

def ExportCommand.runOn (slot : Option String) (object : Pointer) : ExportCommand → SessionM Reply
  | .init => do reply (.status (← exported (Export.init thread)))
  | .lastError => do return .text ((← get).world.lastError? thread)
  | .clearLastError => do
    modifyWorld (·.clearLastError thread)
    reply .nothing
  | .setNew slot value => do
    let value ← ownedArgument value
    replyObject slot (← exported (Export.setNew thread value))
  | .setAllocate slot => do
    match ← exported (Export.setAllocate thread) with
    | some address =>
      modify fun session =>
        { session with storage := session.storage.put slot (address, .foreignSet) }
      reply (.flag true)
    | none => reply (.flag false)
  | .setInit slot storage value => do
    let value ← ownedArgument value
    let storage ← storageArgument storage
    replyObject slot (← exported (Export.setInit thread storage value))
  | .setHostObject result => do
    replyHost result (← exported (Export.setHostObject thread object))
  | .isForeignSet => do reply (.status (← exported (Export.isForeignSet thread object)))
  | .setContains item => onItem item (Export.setContains thread object)
  | .setAdd item => onItem item (Export.setAdd thread object)
  | .setRemove item => onItem item (Export.setRemove thread object)
  | .setCount => do reply (.status (← exported (Export.setCount thread object)))
  | .setIterate iteration => iterateExported object iteration
  | .iteratorNext iteration output => do
    let iterator ← iteratorArgument iteration
    let (status, element) ← exported (Export.iteratorNext thread iterator output)
    modifyWorld fun world => element.elim world fun ref => world.letGo ref
    reply (.status status)
  | .iteratorFree iteration => do
    let iterator ← iteratorArgument iteration
    exported (Export.iteratorFree thread iterator)
    forgetIteration (if iterator.isSome then iteration else none)
    reply .nothing
  | .setRelease => do
    let released ← exported (Export.setRelease thread object)
    disownArgument (if released then slot else none)
    reply .nothing
  | .register typeId name outward inward => do
    reply (.status (← exported (Export.register thread typeId name outward inward)))
  | .registerCounted typeId name => do
    reply (.status (← exported (Export.registerCounted thread typeId name)))
  | .registerFramework typeId => do
    reply (.status (← exported (Export.registerFramework thread typeId)))
  | .hasWrapper typeId => do reply (.status (← exported (Export.hasWrapper thread typeId)))
  | .describe signature => do reply (.text (← exported (Export.describe thread signature)))
  | .toHost typeId pointer result => do
    let pointer ← makePointer pointer
    match ← exported (Export.toHost thread typeId pointer) with
    | some ref => reply (.host (some (← showOwned result ref)))
    | none => reply (.host none)
  | .fromHost typeId value output => withHostArgument value (convertExported typeId output)
  | .objectNew slot => do replyObject (some slot) (← exported Export.objectNew)
  | .objectRetain => do
    let answer ← exported (Export.objectRetain object)
    ownArgument slot
    reply (.flag (answer = object))
  | .objectRelease => do
    exported (Export.objectRelease object)
    disownArgument slot
    reply .nothing
  | .objectRetainCount => do
    reply (.status ((← exported (Export.objectRetainCount object) : Nat) : Int))
  | .unknown => reject .unknownFunction

def ExportCall.run (call : ExportCall) : SessionM Reply := do
  call.command.runOn call.object (← objectArgument call.object)

end HeapBridge
