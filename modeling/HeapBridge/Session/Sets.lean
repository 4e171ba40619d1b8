import HeapBridge.Export
import HeapBridge.Session.Values
/-!
Commands on foreign sets: proxies are made over host values, asked and changed through the bridge,
and iterated over. Over a host set the order of elements is not determined, so an iteration shows
them when it is over.
-/
namespace HeapBridge

open Host (Ref Literal)

/-- Where the storage of a new proxy comes from. -/
inductive StorageChoice where
  /-- There is none. -/
  | unavailable
  | fresh
  /-- The storage in a slot, none if there is no such slot. -/
  | slot (name : String)

inductive SetCommand where
  | create (slot : String) (value : Literal)
  | initialise (slot : String) (storage : StorageChoice) (value : Literal)
  | contains (slot : String) (item : NativeLiteral)
  | add (slot : String) (item : NativeLiteral)
  | remove (slot : String) (item : NativeLiteral)
  | removeAll (slot : String)
  | count (slot : String)
  | member (slot : String) (item : NativeLiteral) (result : Option String)
  | anyElement (slot : String) (result : Option String)
  | copy (slot result : String)
  | hostValue (slot : String) (result : Option String)
  | collect (slot : String)
  /-- Starts an iteration over native values. -/
  | iterate (slot iteration : String)
  /-- Starts an iteration over host objects. -/
  | cursor (slot iteration : String)
  | next (iteration : String)
  | dropIteration (iteration : String)

namespace Session

/-- Builds a host value of which the reference is handed over. -/
def buildOwned (literal : Literal) : SessionM Ref := do
  let ref ← build literal
  modifyWorld (·.hold ref)
  return ref

def takeStorage (name : String) (nativeClass : Native.NativeClass) : SessionM (Option Nat) := do
  match (← get).storage.get? name with
  | some (address, stored) =>
    if stored = nativeClass then
      modify fun session => { session with storage := session.storage.erase name }
      return some address
    else return none
  | none => return none

/-- Reserves storage, unless that is refused. -/
def reserve? (nativeClass : Native.NativeClass) : SessionM (Option Nat) :=
  modifyGet fun session =>
    let (address, world) := session.world.reserve nativeClass
    (address, { session with world })

def reserve (nativeClass : Native.NativeClass) : SessionM Nat := do
  match ← reserve? nativeClass with
  | some address => return address
  | none => throw (.bridge (.allocationFailed nativeClass))

def chosenStorage : StorageChoice → SessionM (Option Nat)
  | .unavailable => return none
  | .fresh => reserve? .foreignSet
  | .slot name => takeStorage name .foreignSet

/-- Uses an item on the host value of a set. The item is made first. -/
def withItem {α : Type} (slot : String) (item : NativeLiteral)
    (action : Ref → NativeValue → BridgeM α) : SessionM α :=
  usingValue item fun value => do
    let ref ← backing slot
    bridge (action ref value)

def hostElements? (session : Session) (ref : Ref) : Option Host.SetTable :=
  (session.world.host.body ref).elements?

/-- Whether the order of iteration over a host value is determined. -/
def isOrdered (session : Session) (ref : Ref) : Bool := (session.hostElements? ref).isNone

def dropValues (values : List NativeValue) : SessionM Unit :=
  modifyWorld fun world => values.foldl (fun world value => value.drop world) world

/-- All elements that an iterator still has, which have to be given up later; those of an iterator
that fails are given up at once. -/
def collectFrom (iterator : Nat) (taken : List NativeValue) : Nat → SessionM (List NativeValue)
  | 0 => do
    dropValues taken
    nomatch ← bridge (BridgeM.contract .iterate Host.outOfSteps : BridgeM Empty)
  | steps + 1 => do
    let element ← tryCatch (bridge (ForeignSet.nextValue iterator)) fun failure => do
      dropValues taken
      throw failure
    match element with
    | some value => collectFrom iterator (taken ++ [value]) steps
    | none => return taken

/-- All elements of a host value as native values, which have to be given up later. -/
def allElements (ref : Ref) : SessionM (List NativeValue) := do
  let iterator ← bridge (ForeignSet.iterate ref)
  try collectFrom iterator [] Host.stepLimit
  finally modifyWorld (ForeignSet.dropIterator iterator)

/-- Puts a new iterator into a slot. -/
def keepIteration (name : String) (iteration : Iteration) : SessionM Unit := do
  let old := (← get).iterations.get? name
  modify fun session =>
    { session with iterations := session.iterations.put name iteration }
  match old with
  | some old => modifyWorld (ForeignSet.dropIterator old.number)
  | none => return ()

def startIteration (slot name : String) (stepping : Stepping) : SessionM Reply := do
  let ref ← backing slot
  let number ← bridge (ForeignSet.iterate ref)
  keepIteration name { number, stepping, ordered := (← get).isOrdered ref }
  return .done

/-- Takes an iteration out of its slot, and says whether there was one. -/
def dropIteration (name : String) : SessionM Bool := do
  match (← get).iterations.get? name with
  | some iteration =>
    modify fun session => { session with iterations := session.iterations.erase name }
    modifyWorld (ForeignSet.dropIterator iteration.number)
    return true
  | none => return false

def exported {α : Type} (function : Export.ExportM α) : SessionM α :=
  modifyGet fun session =>
    let (result, world) := function.run session.world
    (result, { session with world })

/-- What asking an iterator for its next element comes to. -/
inductive Step where
  | element (form : ElementForm)
  | finished
  /-- An exported iterator gave its error status. -/
  | failed

/-- Asks an iterator for its next element, and writes the element out. -/
def stepIteration (iteration : Iteration) : SessionM Step := do
  match iteration.stepping with
  | .native =>
    match ← bridge (ForeignSet.nextValue iteration.number) with
    | some value => return .element (.native (← showAndKeepValue none value))
    | none => return .finished
  | .cursor =>
    match ← bridge (ForeignSet.next iteration.number) with
    | some ref => return .element (.host (← showAndKeep none ref))
    | none => return .finished
  | .exported =>
    match ← exported (Export.iteratorNext thread (some iteration.number) true) with
    | (_, some ref) =>
      modifyWorld (·.unhold ref)
      return .element (.host (← showAndKeep none ref))
    | (status, none) => return if status = 0 then .finished else .failed

/-- Steps the iteration in a slot, and notes what it has seen. -/
def advance (name : String) : SessionM Reply := do
  let iteration ← content (·.iterations) name
  match ← stepIteration iteration with
  | .element form =>
    let iteration := { iteration with seen := iteration.seen ++ [form] }
    modify fun session =>
      { session with iterations := session.iterations.put name iteration }
    return .next (if iteration.ordered then some form else none)
  | .finished => return .exhausted (if iteration.ordered then none else some iteration.seen)
  | .failed => return .notAdvanced ((← get).world.lastError? thread)

/-- Some element of a set. If there are several, which one comes is not determined. -/
def someElement (slot : String) (result : Option String) : SessionM Reply := do
  let ref ← backing slot
  match ← bridge (ForeignSet.anyElement ref) with
  | some value =>
    if 1 < (((← get).hostElements? ref).map (·.size)).getD 0 then
      keepValue none value
      return .someElement
    else return .native (some (← showAndKeepValue result value))
  | none => return .native none

end Session

open Session

def SetCommand.run : SetCommand → SessionM Reply
  | .create slot value => do
    keepObject slot (← bridge (ForeignSet.create (← buildOwned value)))
    return .done
  | .initialise slot storage value => do
    let ref ← buildOwned value
    let storage ← chosenStorage storage
    keepObject slot (← bridge (ForeignSet.initialise storage ref))
    return .done
  | .contains slot item => do return .flag (← withItem slot item ForeignSet.contains)
  | .add slot item => do
    withItem slot item ForeignSet.add
    return .done
  | .remove slot item => do
    withItem slot item ForeignSet.remove
    return .done
  | .removeAll slot => do
    bridge (ForeignSet.removeAll (← backing slot))
    return .done
  | .count slot => do return .number ((← bridge (ForeignSet.count (← backing slot)) : Nat) : Int)
  | .member slot item result => do
    match ← withItem slot item ForeignSet.member with
    | some value => return .native (some (← showAndKeepValue result value))
    | none => return .native none
  | .anyElement slot result => someElement slot result
  | .copy slot result => do
    keepObject result (← bridge (ForeignSet.mutableCopy (← backing slot)))
    return .done
  | .hostValue slot result => do return .form (← showAndKeep result (← backing slot))
  | .collect slot => do
    let ref ← backing slot
    let values ← allElements ref
    let forms := values.map (← get).nativeFormOf
    dropValues values
    return .elements forms ((← get).isOrdered ref)
  | .iterate slot iteration => startIteration slot iteration .native
  | .cursor slot iteration => startIteration slot iteration .cursor
  | .next iteration => advance iteration
  | .dropIteration iteration => do return .flag (← Session.dropIteration iteration)

end HeapBridge
