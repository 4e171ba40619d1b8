import HeapBridge.Host.Sameness
/-!
The elements of sets. An element is looked for among those stored under its hash, the stored one on the
left of each comparison. A comparison may run a script that changes the set; the search then starts
again. A set that cannot be hashed is looked for as a frozen set with the same elements.
-/
namespace HeapBridge.Host.SetObject

def table (set : Ref) : HostM SetTable := return (← bodyOf set).elements?.getD .empty

def setTable (set : Ref) (table : SetTable) : HostM Unit := do
  match ← bodyOf set with
  | .set _ => setBody set (.set table)
  | .frozenset _ => setBody set (.frozenset table)
  | _ => return ()

/-- Where an element is stored, or where it would be. -/
inductive Place where
  | stored (index : Nat)
  | free (index : Nat) (reusable : Option Nat)

/-- Goes along a probe sequence, for as many steps as one can take, and starts again if a comparison has
changed the set. Whoever adds an element is content with an equal one even if that was taken out while it
was compared. -/
def locateAlong (ops : Ops) (set key : Ref) (hash : Int) (adding : Bool) (again : SetTable → HostM Place) :
    Nat → Probe → Option Nat → HostM Place
  | 0, probe, reusable => return .free probe.index reusable
  | steps + 1, probe, reusable => do
    let before ← table set
    match before.seek hash probe reusable with
    | .free index reusable => return .free index reusable
    | .candidate index ref rest reusable =>
      if ref = key then return .stored index
      else
        let isEqual ← matching ops ref key
        let after ← table set
        let isSame := after.isSamePlace before && after.at? index = some ref
        if isEqual && (adding || isSame) then return .stored index
        else if isSame then locateAlong ops set key hash adding again steps rest reusable
        else again after

/-- Looks for an element from the start of its probe sequence, which comparisons can make it do so many
times more. -/
def locateFrom (ops : Ops) (set key : Ref) (hash : Int) (adding : Bool) : Nat → SetTable → HostM Place
  | 0, _ => outOfSteps
  | steps + 1, table =>
    locateAlong ops set key hash adding (locateFrom ops set key hash adding steps) table.reach
      (table.start hash) none

def locate (ops : Ops) (set key : Ref) (hash : Int) (adding : Bool) : HostM Place := do
  let table ← table set
  locateFrom ops set key hash adding (stepLimit + table.slots.size + 1) table

def containsHashed (ops : Ops) (set key : Ref) (hash : Int) : HostM Bool := do
  match ← locate ops set key hash false with
  | .stored _ => return true
  | .free _ _ => return false

/-- Stores an element under a hash unless an equal one is stored. -/
def addHashed (ops : Ops) (set key : Ref) (hash : Int) : HostM Unit := do
  match ← locate ops set key hash true with
  | .stored _ => return ()
  | .free index reusable => setTable set ((← table set).put hash key index reusable)

/-- Takes an element out, and says whether there was one. -/
def discardHashed (ops : Ops) (set key : Ref) (hash : Int) : HostM Bool := do
  match ← locate ops set key hash false with
  | .free _ _ => return false
  | .stored index =>
    let old ← table set
    setTable set (old.eraseAt index)
    ops.release (old.at? index).toList
    return true

/-- Runs an operation on an element; if it is a set that cannot be hashed, once more on a frozen set
with its elements. -/
def keyed {α : Type} (ops : Ops) (key : Ref) (operation : Ref → HostM α) : HostM α :=
  tryCatch (operation key) fun fault => do
    match ← bodyOf key with
    | .set elements =>
      if fault.exception = "TypeError" then
        let frozen ← make (.frozenset elements.copied)
        keeping ops [frozen] (operation frozen)
      else throw fault
    | _ => throw fault

def contains (ops : Ops) (set key : Ref) : HostM Bool :=
  keyed ops key fun key => do containsHashed ops set key (← ops.hash key)

def discard (ops : Ops) (set key : Ref) : HostM Bool :=
  keyed ops key fun key => do discardHashed ops set key (← ops.hash key)

def add (ops : Ops) (set key : Ref) : HostM Unit := do addHashed ops set key (← ops.hash key)

def addAll (ops : Ops) (set : Ref) : List Ref → HostM Unit
  | [] => return ()
  | key :: rest => do
    add ops set key
    addAll ops set rest

def clear (ops : Ops) (set : Ref) : HostM Unit := do
  let old ← table set
  setTable set old.cleared
  ops.release old.toList

/-- Visits the elements from a slot on, each as it is when its turn comes, until a visit answers. -/
def visitFrom {α : Type} (ops : Ops) (set : Ref) (visit : Int → Ref → HostM (Option α)) :
    Nat → Nat → HostM (Option α)
  | 0, _ => outOfSteps
  | steps + 1, index => do
    match (← table set).from? index with
    | none => return none
    | some (found, hash, ref) =>
      match ← keeping ops [ref] (visit hash ref) with
      | some answer => return some answer
      | none => visitFrom ops set visit steps (found + 1)

/-- Visits all elements until a visit answers. -/
def visit? {α : Type} (ops : Ops) (set : Ref) (visit : Int → Ref → HostM (Option α)) :
    HostM (Option α) := do
  visitFrom ops set visit (stepLimit + (← table set).size) 0

def forEach (ops : Ops) (set : Ref) (visit : Int → Ref → HostM Unit) : HostM Unit := do
  let _ : Option Unit ← visit? ops set fun hash ref => do
    visit hash ref
    return none

def isWithin (ops : Ops) (set other : Ref) : HostM Bool := do
  if (← table other).size < (← table set).size then return false
  else
    let missing ← visit? ops set fun hash ref => do
      if ← containsHashed ops other ref hash then return none else return some ()
    return missing.isNone

def merge (ops : Ops) (set other : Ref) : HostM Unit := do
  let source ← table other
  if other = set || source.isEmpty then return ()
  else
    let roomy := (← table set).reserve source.size
    if roomy.fill = 0 then setTable set (roomy.takeOver source)
    else
      setTable set roomy
      forEach ops other fun hash ref => addHashed ops set ref hash

end HeapBridge.Host.SetObject
