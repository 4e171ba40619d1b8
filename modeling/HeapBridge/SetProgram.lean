import HeapBridge.HostCall
import HeapBridge.NativeValue
/-!
Programs for the operations on foreign sets. They forward every operation to the host value, so nothing is cached
and each side sees the changes of the other at once. A program is the same whoever makes its calls.
-/
namespace HeapBridge

open Host (Ref)

/-- How many elements a search asks an iterator over the host value for: no fewer than it has. -/
def ForeignSet.searchLimit (backing : Ref) : BridgeM Nat :=
  return Host.stepLimit + ((← get).host.body backing).elements?.elim 0 (·.size)

namespace SetProgram

variable {m : Type → Type} [Monad m] [MonadExceptOf BridgeError m] [MonadLiftT BridgeM m] [HostCaller m]

def contains (backing : Ref) (item : NativeValue) : m Bool := do
  let item ← item.toHost
  BridgeM.keeping [item] (HostCaller.call (.contains backing item))

/-- A call of a method of the host value, whatever it answers. -/
def command (arguments : List Ref) (answered : m Ref) : m Unit :=
  BridgeM.keeping arguments do
    let answer ← answered
    BridgeM.release [answer]

def add (backing : Ref) (item : NativeValue) : m Unit := do
  let item ← item.toHost
  command [item] (HostCaller.call (.add backing item))

def remove (backing : Ref) (item : NativeValue) : m Unit := do
  let item ← item.toHost
  command [item] (HostCaller.call (.discard backing item))

def removeAll (backing : Ref) : m Unit := command [] (HostCaller.call (.clear backing))

def count (backing : Ref) : m Nat := HostCaller.call (.length backing)

def nextValue (number : Nat) : m (Option NativeValue) := do
  let element ← HostCaller.call (.step number)
  ForeignSet.elementValue element

def matched? (element needle : Ref) : m (Option NativeValue) := do
  if ← HostCaller.call (.equal element needle) then
    (some <$> NativeValue.fromHost element : BridgeM (Option NativeValue))
  else return none

/-- The first element that is equal to the needle. -/
def findEqual (iterator needle : Ref) : Nat → m (Option NativeValue)
  | 0 => do nomatch ← HostCaller.call (.exceed iterator)
  | steps + 1 => do
    match ← HostCaller.call (.next iterator) with
    | none => return none
    | some element =>
      match ← BridgeM.keeping [element] (matched? element needle) with
      | some value => return some value
      | none => findEqual iterator needle steps

/-- The stored element that is equal to an item, if the host value contains the item. -/
def member (backing : Ref) (item : NativeValue) : m (Option NativeValue) := do
  let needle ← item.toHost
  BridgeM.keeping [needle] do
    if ← contains backing item then
      let limit ← ForeignSet.searchLimit backing
      let iterator ← HostCaller.call (.iterate backing)
      BridgeM.keeping [iterator] (findEqual iterator needle limit)
    else return none

/-- Some element, none if there is none. -/
def anyElement (backing : Ref) : m (Option NativeValue) := do
  let iterator ← HostCaller.call (.iterate backing)
  BridgeM.keeping [iterator] do
    let element ← HostCaller.call (.next iterator)
    ForeignSet.elementValue element

/-- A new proxy of the copy that the host value makes of itself. -/
def mutableCopy (backing : Ref) : m Nat := do
  let copy ← HostCaller.call (.copy backing)
  (modify (·.hold copy) : BridgeM Unit)
  ForeignSet.create copy

end SetProgram

end HeapBridge
