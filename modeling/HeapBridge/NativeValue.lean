import HeapBridge.Bridge
/-!
Values as they cross between the two sides: by value if they are scalars, as proxies if they are host sets,
and as references otherwise. A proxy is a native object that holds one reference to its host value.
-/
namespace HeapBridge

open Host (Ref)

/-- Values as native code holds them. A set owns one reference to a proxy, a host value one to a
host object. -/
inductive NativeValue where
  | nil
  | bool (value : Bool)
  | int (value : Int)
  | float (bits : UInt64)
  | text (value : String)
  | set (address : Nat)
  | host (ref : Ref)
  deriving DecidableEq, Repr

/-- The integers that fit into a native one. -/
def isNativeInt (value : Int) : Bool := -Nat.pow 2 63 ≤ value && value < Nat.pow 2 63

/-- The text with these code points, unless there is half of a surrogate pair among them. -/
def wellFormedText? (codes : Host.CodePoints) : Option String :=
  if codes.all fun code => code.isValidChar then some (String.ofList (codes.map Char.ofNat))
  else none

namespace ForeignSet

/-- Makes a proxy in storage that was reserved, or fails if there was none. Either way the
reference to the host value is handed over. -/
def initialise (storage : Option Nat) (value : Ref) : BridgeM Nat := do
  match storage with
  | none =>
    modify (·.letGo value)
    throw (.allocationFailed .foreignSet)
  | some address =>
    modify fun world =>
      World.emit .setCreated { world with native := world.native.install address (.foreignSet value) }
    modify (·.unhold value)
    return address

/-- Makes a proxy of a host value whose reference is handed over. -/
def create (value : Ref) : BridgeM Nat := do
  initialise (← modifyGet (World.reserve .foreignSet)) value

end ForeignSet

namespace NativeValue

/-- The host object for a value, in flight. Scalars make a new one; a set gives the very object behind
its proxy. -/
def toHost : NativeValue → BridgeM Ref
  | .nil => BridgeM.make .nil
  | .bool value => BridgeM.make (.bool value)
  | .int value => BridgeM.make (.int value)
  | .float bits => BridgeM.make (.float bits)
  | .text value => BridgeM.make (.text (value.toList.map Char.toNat))
  | .set address => return ((← get).native.backing? address).getD .nil
  | .host ref => return ref

/-- A host object as it is. -/
def ofRef (ref : Ref) : BridgeM NativeValue := do
  modify (·.hold ref)
  return .host ref

/-- The native value of a host object. Subclasses count as what they derive from, by the value
they carry. Integers and texts that have no native form stay host objects. -/
def fromHost (ref : Ref) : BridgeM NativeValue := do
  match (← get).host.body ref with
  | .nil => return .nil
  | .bool value => return .bool value
  | .int value => if isNativeInt value then return .int value else ofRef ref
  | .float bits => return .float bits
  | .text codes =>
    match wellFormedText? codes with
    | some wellFormed => return .text wellFormed
    | none => ofRef ref
  | .set _ =>
    modify (·.hold ref)
    return .set (← ForeignSet.create ref)
  | _ => ofRef ref

def asInt : NativeValue → Option Int
  | .int value => some value
  | _ => none

def asText : NativeValue → Option String
  | .text value => some value
  | _ => none

/-- Gives up a value together with the reference it owns. -/
def drop (value : NativeValue) (world : World) : World :=
  match value with
  | .set address => world.releaseNative address
  | .host ref => world.letGo ref
  | _ => world

end NativeValue

def ForeignSet.elementValue (element : Option Ref) : BridgeM (Option NativeValue) :=
  match element with
  | some element => BridgeM.keeping [element] (some <$> NativeValue.fromHost element)
  | none => return none

end HeapBridge
