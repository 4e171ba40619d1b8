import HeapBridge.Session.Basic
/-!
Commands on the host side: host objects are made, compared, called and looked at, as host code would
do it.
-/
namespace HeapBridge

open Host (Ref Literal)

inductive HostCommand where
  /-- Builds a literal and puts it into a slot. -/
  | bind (slot : String) (value : Literal)
  | show (slot : String)
  | drop (slot : String)
  /-- How many references to the object have come since the slot was filled. -/
  | references (slot : String)
  | identical (left right : String)
  | equal (left right : String)
  | sameHash (left right : String)
  | call (slot method : String) (arguments : List Literal) (result : Option String)
  | getAttribute (slot name : String)
  | setAttribute (slot name : String) (value : Literal)
  /-- How the host shows the object, with the slots of native objects for their addresses. -/
  | describe (slot : String)

namespace Session

def hostOf (name : String) : SessionM Ref := return (← content (·.hosts) name).ref

/-- The name of the first slot that the native object at an address has or had. -/
def slotAt? (session : Session) (address : Nat) : Option String :=
  (session.objects.nameOf? (·.address = address)).orElse fun _ =>
    session.released.nameOf? (· = address)

/-- A text in which the addresses of native objects are marked with the names of their slots. -/
def markAddresses (session : Session) (codes : Host.CodePoints) : String :=
  Host.CodePoints.toText (codes.flatMap fun code =>
    match (Host.addressOfCode? code).bind session.slotAt? with
    | some slot => Host.CodePoints.ofString ("@" ++ slot)
    | none => [code])

/-- Takes the object out of a host slot, and says whether there was one. -/
def dropHost (name : String) : SessionM Bool := do
  match (← get).hosts.get? name with
  | some slot =>
    modify fun session => { session with hosts := session.hosts.erase name }
    modifyWorld (·.letGo slot.ref)
    return true
  | none => return false

/-- An attribute of an object. Where a handle points to is told by slots. -/
def attributeOf (ref : Ref) (name : String) : SessionM Reply := do
  let session ← get
  match session.world.host.body ref, name with
  | .handle handle, "__pointer__" => return .pointer (session.pointerName handle.pointer)
  | _, _ =>
    return .form (← showAndKeep none (← host (Host.getAttribute Host.ops ref name)))

end Session

open Session

def HostCommand.run : HostCommand → SessionM Reply
  | .bind slot value => do return .form (← showAndKeep (some slot) (← build value))
  | .show slot => do
    let ref ← hostOf slot
    return .form ((← get).formOf ref)
  | .drop slot => do return .flag (← dropHost slot)
  | .references slot => do
    let slot ← content (·.hosts) slot
    return .number (((← get).world.refCount slot.ref : Int) - slot.base)
  | .identical left right => do
    let left ← hostOf left
    return .flag (left = (← hostOf right))
  | .equal left right => do
    let left ← hostOf left
    let right ← hostOf right
    return .flag (← host (Host.equal Host.ops left right))
  | .sameHash left right => do
    let left ← hostOf left
    let right ← hostOf right
    let digest ← host (Host.hash Host.ops left)
    return .flag (digest = (← host (Host.hash Host.ops right)))
  | .call slot method arguments result => do
    let receiver ← hostOf slot
    let arguments ← buildEach arguments
    let value ← withArguments arguments.reverse
      (host (Host.call Host.ops receiver method arguments))
    return .form (← showAndKeep result value)
  | .getAttribute slot name => do attributeOf (← hostOf slot) name
  | .setAttribute slot name value => do
    let ref ← hostOf slot
    let value ← build value
    host (Host.setAttribute Host.ops ref name value)
    return .done
  | .describe slot => do
    let ref ← hostOf slot
    let shown ← host (Host.shown Host.ops ref)
    return .text (some ((← get).markAddresses shown))

end HeapBridge
