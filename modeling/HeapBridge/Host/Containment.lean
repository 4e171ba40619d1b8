import HeapBridge.Host.DictObject
import HeapBridge.Host.Iteration
import HeapBridge.Host.SetObject
/-!
Containment. A sequence contains what is the same as one of its items, a set what it has stored,
a text its parts, a byte string its bytes and parts, and any other object what its iteration
comes across.
-/
namespace HeapBridge.Host

/-- Whether an item of a sequence from an index on is the same as the needle. The sequence is looked at
anew after each comparison. -/
def hasSame (ops : Ops) (sequence needle : Ref) : Nat → Nat → HostM Bool
  | 0, _ => outOfSteps
  | steps + 1, index => do
    match (← bodyOf sequence).items?.bind (·[index]?) with
    | none => return false
    | some item =>
      if ← matching ops item needle then return true
      else hasSame ops sequence needle steps (index + 1)

def isPart {α : Type} [BEq α] (part : List α) : List α → Bool
  | [] => part.isEmpty
  | x :: rest => part.isPrefixOf (x :: rest) || isPart part rest

/-- Whether the iteration of an object comes across the needle. An object that cannot be iterated is
no container. -/
def comesAcross (ops : Ops) (container needle : Ref) : HostM Bool := do
  match ← attempt (iterate ops container) with
  | .error fault =>
    if fault.exception = "TypeError" then fail (.notContainer (← typeNameOf container))
    else throw fault
  | .ok iterator =>
    let found ← keeping ops [iterator]
      (visitFrom ops iterator (fun item => do
        if ← same ops item needle then return some () else return none) stepLimit)
    return found.isSome

def bytesContain (ops : Ops) (content : List UInt8) (needle : Ref) : HostM Bool := do
  match ← attempt (index ops needle) with
  | .ok (value, _) =>
    if 0 ≤ value && value < 256 then return content.any fun byte => (byte.toNat : Int) = value
    else fail .byteOutOfRange
  | .error fault =>
    if fault.cause = .outOfSteps then throw fault
    else
      match ← bodyOf needle with
      | .bytes part => return isPart part content
      | _ => fail (.needleNotBytes (← typeNameOf needle))

def hasEntry (ops : Ops) (dict entry : Ref) : HostM Bool := do
  match (← bodyOf entry) with
  | .tuple [key, value] =>
    match ← DictObject.get? ops dict key with
    | none => return false
    | some found => matching ops found value
  | _ => return false

def builtinContains (ops : Ops) (container needle : Ref) : HostM Bool := do
  match ← bodyOf container with
  | .list _ | .tuple _ => hasSame ops container needle stepLimit 0
  | .set _ | .frozenset _ => SetObject.contains ops container needle
  | .dict _ | .view .dictKeys _ =>
    let dict ← match ← bodyOf container with
      | .view _ source => pure source
      | _ => pure container
    return (← DictObject.locate ops dict needle (← ops.hash needle)).isSome
  | .view .dictItems dict => hasEntry ops dict needle
  | .text codes =>
    match ← bodyOf needle with
    | .text part => return isPart part codes
    | _ => fail (.needleNotText (← typeNameOf needle))
  | .bytes content => bytesContain ops content needle
  | _ => comesAcross ops container needle

def contains (ops : Ops) (container needle : Ref) : HostM Bool := do
  match ← scripted? ops container "__contains__" [needle] with
  | some answer => decided ops answer
  | none => builtinContains ops container needle

end HeapBridge.Host
