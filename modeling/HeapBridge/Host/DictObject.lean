import HeapBridge.Host.Sameness
/-!
The entries of dictionaries. A key is looked for among those stored under its hash, the stored one on
the left of each comparison; if a comparison has changed the dictionary the search starts again. A key
that is equal to a stored one leaves that one in place and only brings a new value.
-/
namespace HeapBridge.Host.DictObject

def table (dict : Ref) : HostM DictTable := return (← bodyOf dict).entries?.getD .empty

def setTable (dict : Ref) (table : DictTable) : HostM Unit := setBody dict (.dict table)

def exactTable? (ref : Ref) : HostM (Option DictTable) := do
  let object := (← heap).view ref
  return if object.script.isNone then object.body.entries? else none

def isText (key : Ref) : HostM Bool := do
  let object := (← heap).view key
  return object.script.isNone && object.body.kind = .text

def locateFrom (ops : Ops) (dict key : Ref) (hash : Int) :
    Nat → DictTable.Probe → HostM (Option Nat)
  | 0, _ => outOfSteps
  | steps + 1, probe => do
    let before ← table dict
    match before.seek hash probe with
    | .absent => return none
    | .candidate position entry rest =>
      if entry.key = key then return some position
      else
        let isEqual ← matching ops entry.key key
        let after ← table dict
        if after.epoch = before.epoch && (after.at? position).map (·.key) = some entry.key then
          if isEqual then return some position else locateFrom ops dict key hash steps rest
        else locateFrom ops dict key hash steps (after.start hash)

def locate (ops : Ops) (dict key : Ref) (hash : Int) : HostM (Option Nat) := do
  locateFrom ops dict key hash stepLimit ((← table dict).start hash)

/-- The value stored under a key. -/
def getHashed? (ops : Ops) (dict key : Ref) (hash : Int) : HostM (Option Ref) := do
  match ← locate ops dict key hash with
  | some position => return ((← table dict).at? position).map (·.value)
  | none => return none

def get? (ops : Ops) (dict key : Ref) : HostM (Option Ref) := do
  getHashed? ops dict key (← ops.hash key)

def insertHashed (ops : Ops) (dict key : Ref) (hash : Int) (value : Ref) : HostM Unit := do
  let isText ← isText key
  setTable dict ((← table dict).prepare isText)
  match ← locate ops dict key hash with
  | none => setTable dict ((← table dict).push { hash, key, value } isText)
  | some position =>
    let old ← table dict
    setTable dict (old.setValue position value)
    if (old.at? position).map (·.value) ≠ some value then
      ops.release ((old.at? position).map (·.value)).toList

/-- The value of a key, which is stored with a value unless it is there. -/
def setDefault (ops : Ops) (dict key value : Ref) : HostM Ref := do
  let hash ← ops.hash key
  let isText ← isText key
  setTable dict ((← table dict).prepare isText)
  match ← locate ops dict key hash with
  | some position => return (((← table dict).at? position).map (·.value)).getD value
  | none =>
    setTable dict ((← table dict).push { hash, key, value } isText)
    return value

def insert (ops : Ops) (dict key value : Ref) : HostM Unit := do
  insertHashed ops dict key (← ops.hash key) value

def insertAll (ops : Ops) (dict : Ref) : List (Ref × Ref) → HostM Unit
  | [] => return ()
  | (key, value) :: rest => do
    insert ops dict key value
    insertAll ops dict rest

def removeAt (ops : Ops) (dict : Ref) (position : Nat) : HostM (Option Ref) := do
  let old ← table dict
  match old.at? position with
  | none => return none
  | some entry =>
    setTable dict (old.eraseAt position)
    holding [entry.value] (ops.release [entry.key])
    return some entry.value

def remove? (ops : Ops) (dict key : Ref) : HostM (Option Ref) := do
  match ← locate ops dict key (← ops.hash key) with
  | some position => removeAt ops dict position
  | none => return none

def clear (ops : Ops) (dict : Ref) : HostM Unit := do
  let old ← bodyOf dict
  setTable dict (← table dict).cleared
  ops.release old.references

/-- Visits the entries from a position on, each as it is when its turn comes, until a visit answers. -/
def visitFrom {α : Type} (ops : Ops) (dict : Ref) (visit : Entry → HostM (Option α)) :
    Nat → Nat → HostM (Option α)
  | 0, _ => outOfSteps
  | steps + 1, position => do
    match (← table dict).from? position with
    | none => return none
    | some (found, entry) =>
      match ← keeping ops [entry.key, entry.value] (visit entry) with
      | some answer => return some answer
      | none => visitFrom ops dict visit steps (found + 1)

def visit? {α : Type} (ops : Ops) (dict : Ref) (visit : Entry → HostM (Option α)) :
    HostM (Option α) :=
  visitFrom ops dict visit stepLimit 0

def forEach (ops : Ops) (dict : Ref) (visit : Entry → HostM Unit) : HostM Unit := do
  let _ : Option Unit ← visit? ops dict fun entry => do
    visit entry
    return none

end HeapBridge.Host.DictObject
