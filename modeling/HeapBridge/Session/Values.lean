import HeapBridge.Session.Basic
/-!
Commands on native values: they are made, converted from and to host objects, and asked what they
are.
-/
namespace HeapBridge

open Host (Literal)

inductive NativeLiteral where
  | nil
  | bool (value : Bool)
  | int (value : Int)
  | float (bits : UInt64)
  | text (value : String)
  | host (value : Literal)
  /-- The foreign set in a slot, as one more reference to it. -/
  | set (slot : String)
  /-- The very value in a slot. -/
  | slot (name : String)

inductive ValueCommand where
  | bind (slot : Option String) (value : NativeLiteral)
  | fromHost (slot : Option String) (value : Literal)
  | toHost (slot : String) (result : Option String)
  /-- The integer or text that the value is. -/
  | scalars (slot : String)
  /-- The proxy that the value is. -/
  | proxy (slot : String)
  | drop (slot : String)

namespace Session

def makeValue : NativeLiteral → SessionM NativeValue
  | .nil => return .nil
  | .bool value => return .bool value
  | .int value => return .int value
  | .float bits => return .float bits
  | .text value => return .text value
  | .host value => do
    let ref ← build value
    modifyWorld (·.hold ref)
    return .host ref
  | .set name => do
    let slot ← content (·.objects) name
    match (← get).world.native.backing? slot.address with
    | some _ =>
      modifyWorld (·.retainNative slot.address)
      return .set slot.address
    | none => reject .notForeignSet
  | .slot name => do
    let value ← content (·.values) name
    modifyWorld fun world =>
      match value with
      | .set address => world.retainNative address
      | .host ref => world.hold ref
      | _ => world
    return value

/-- Uses a native value and gives it up, whatever comes of it. -/
def usingValue {α : Type} (literal : NativeLiteral) (action : NativeValue → SessionM α) :
    SessionM α := do
  let value ← makeValue literal
  try action value
  finally modifyWorld value.drop

/-- Takes the value out of a slot, and says whether there was one. -/
def dropValue (name : String) : SessionM Bool := do
  match (← get).values.get? name with
  | some value =>
    modify fun session => { session with values := session.values.erase name }
    modifyWorld value.drop
    return true
  | none => return false

end Session

open Session

def ValueCommand.run : ValueCommand → SessionM Reply
  | .bind slot value => do
    return .native (some (← showAndKeepValue slot (← makeValue value)))
  | .fromHost slot value => do
    let ref ← build value
    let value ← bridge (BridgeM.keeping [ref] (NativeValue.fromHost ref))
    return .native (some (← showAndKeepValue slot value))
  | .toHost slot result => do
    let value ← content (·.values) slot
    return .form (← showAndKeep result (← bridge value.toHost))
  | .scalars slot => do
    let value ← content (·.values) slot
    return .scalars value.asInt value.asText
  | .proxy slot => do
    match ← content (·.values) slot with
    | .set address =>
      let native := (← get).world.native
      return .proxy (native.retainCount address) (native.backing? address).isSome
    | _ => return .native none
  | .drop slot => do return .flag (← dropValue slot)

end HeapBridge
