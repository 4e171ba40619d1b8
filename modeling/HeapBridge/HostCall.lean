import HeapBridge.Bridge
/-!
The calls to the host that operations on foreign sets are made of. Whatever can make these calls and take the
steps of the bridge in between can run the operations.
-/
namespace HeapBridge

open Host (Ref)

/-- A call to the host on behalf of a foreign set. -/
inductive HostCall where
  | contains (set item : Ref)
  | add (set item : Ref)
  | discard (set item : Ref)
  | clear (set : Ref)
  | length (set : Ref)
  | copy (set : Ref)
  /-- Starts an iterator that native code steps by its number. -/
  | start (set : Ref)
  | step (number : Nat)
  /-- Starts an iterator for one search. -/
  | iterate (set : Ref)
  | next (iterator : Ref)
  | equal (element needle : Ref)
  /-- Asks an iterator for more elements than it is followed for. -/
  | exceed (iterator : Ref)
  deriving DecidableEq, Repr

namespace HostCall

def operation : HostCall → Operation
  | .contains _ _ => .contains
  | .add _ _ => .add
  | .discard _ _ => .remove
  | .clear _ => .removeAll
  | .length _ => .count
  | .copy _ => .copy
  | .start _ | .step _ | .iterate _ | .next _ | .exceed _ => .iterate
  | .equal _ _ => .member

@[reducible] def Answer : HostCall → Type
  | .contains _ _ | .equal _ _ => Bool
  | .add _ _ | .discard _ _ | .clear _ | .copy _ | .iterate _ => Ref
  | .length _ | .start _ => Nat
  | .step _ | .next _ => Option Ref
  | .exceed _ => Empty

end HostCall

namespace ForeignSet

/-- The elements that an iterator over the host value walks over by itself: those of a set whose class
leaves it to sets how they are iterated over. -/
def ownElements? (backing : Ref) (heap : Host.Heap) : Option Host.SetTable :=
  match heap.scripted? backing "__iter__" with
  | none => (heap.body backing).elements?
  | some _ => none

end ForeignSet

namespace HostCall

def started (set : Ref) : BridgeM (Except Host.Fault Nat) := do
  match ForeignSet.ownElements? set (← get).host with
  | some table => .ok <$> modifyGet (World.startCursor (.elements set 0 table.size false))
  | none =>
    match ← BridgeM.attempt (Host.iterate Host.ops set) with
    | .ok iterator => .ok <$> modifyGet (World.startCursor (.object iterator))
    | .error fault => return .error fault

/-- The next host element of an iterator, none when it is exhausted. It is in flight. -/
def stepped (number : Nat) : BridgeM (Except Host.Fault (Option Ref)) := do
  let world ← get
  match world.cursor number with
  | .finished => return .ok none
  | .elements source position size broken =>
    let table := (world.host.body source).elements?.getD .empty
    match table.step position size broken with
    | .changed =>
      modify (·.moveCursor number (.elements source position size true))
      BridgeM.attempt (Host.fail .setChanged)
    | .exhausted =>
      modify (·.moveCursor number .finished)
      BridgeM.release [source]
      return .ok none
    | .element position ref =>
      modify (·.moveCursor number (.elements source position size false))
      return .ok (some ref)
  | .object iterator => BridgeM.attempt (Host.next Host.ops iterator)

/-- What a call comes to: an answer or a fault. -/
def outcome : (call : HostCall) → BridgeM (Except Host.Fault call.Answer)
  | .contains set item => BridgeM.attempt (Host.contains Host.ops set item)
  | .add set item => BridgeM.attempt (Host.call Host.ops set "add" [item])
  | .discard set item => BridgeM.attempt (Host.call Host.ops set "discard" [item])
  | .clear set => BridgeM.attempt (Host.call Host.ops set "clear" [])
  | .length set => BridgeM.attempt (Host.length Host.ops set)
  | .copy set => BridgeM.attempt (Host.call Host.ops set "copy" [])
  | .start set => started set
  | .step number => stepped number
  | .iterate set => BridgeM.attempt (Host.iterate Host.ops set)
  | .next iterator => BridgeM.attempt (Host.next Host.ops iterator)
  | .equal element needle => BridgeM.attempt (Host.equal Host.ops element needle)
  | .exceed _ => BridgeM.attempt Host.outOfSteps

/-- A call as a part of an operation of the bridge. Its fault becomes a violation of the contract. -/
def contract (call : HostCall) : BridgeM call.Answer := do
  BridgeM.concluded (.contractViolation call.operation) (← call.outcome)

end HostCall

/-- What can make calls to the host on behalf of foreign sets. -/
class HostCaller (m : Type → Type) where
  call : (call : HostCall) → m call.Answer

instance : HostCaller BridgeM where
  call := HostCall.contract

end HeapBridge
