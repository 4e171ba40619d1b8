import HeapBridge.SetProgram
/-!
Foreign sets: native proxies of host values that are expected to behave like mutable sets. What a proxy is asked
for is done by a program that calls its host value.
-/
namespace HeapBridge

open Host (Ref)

namespace ForeignSet

def contains (backing : Ref) (item : NativeValue) : BridgeM Bool := SetProgram.contains backing item

def add (backing : Ref) (item : NativeValue) : BridgeM Unit := SetProgram.add backing item

def remove (backing : Ref) (item : NativeValue) : BridgeM Unit := SetProgram.remove backing item

def removeAll (backing : Ref) : BridgeM Unit := SetProgram.removeAll backing

def count (backing : Ref) : BridgeM Nat := SetProgram.count backing

def iterate (backing : Ref) : BridgeM Nat := HostCaller.call (.start backing)

def next (number : Nat) : BridgeM (Option Ref) := HostCaller.call (.step number)

def nextValue (number : Nat) : BridgeM (Option NativeValue) := SetProgram.nextValue number

def matched? (element needle : Ref) : BridgeM (Option NativeValue) := SetProgram.matched? element needle

def findEqual (iterator needle : Ref) (steps : Nat) : BridgeM (Option NativeValue) :=
  SetProgram.findEqual iterator needle steps

def member (backing : Ref) (item : NativeValue) : BridgeM (Option NativeValue) := SetProgram.member backing item

def anyElement (backing : Ref) : BridgeM (Option NativeValue) := SetProgram.anyElement backing

def mutableCopy (backing : Ref) : BridgeM Nat := SetProgram.mutableCopy backing

/-- Gives up an iterator together with what it goes over. -/
def dropIterator (number : Nat) (world : World) : World :=
  (world.moveCursor number .finished).release (world.cursor number).references

end ForeignSet

end HeapBridge
