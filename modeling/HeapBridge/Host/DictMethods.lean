import HeapBridge.Host.Arguments
import HeapBridge.Host.Containment
import HeapBridge.Host.Subscripts
/-!
The methods of dictionaries. A dictionary is updated from another one with the hashes that it has
stored, from an object with keys by looking each of them up, and from anything else by the pairs that
its iteration comes across. What was stored before a failure stays.
-/
namespace HeapBridge.Host.DictObject

/-- Whether an object is a dictionary that is walked like one of the built-in type. -/
def isPlainlyWalked (ref : Ref) : HostM Bool := do
  let heap ← heap
  return (heap.body ref).entries?.isSome && (heap.scripted? ref "__iter__").isNone

/-- Stores the entries of another dictionary. A table that was only ever added to is taken over by an
empty dictionary; otherwise there is room made at first. -/
def merge (ops : Ops) (dict other : Ref) : HostM Unit := do
  let mine ← table dict
  let theirs ← table other
  if other = dict || theirs.isEmpty then return ()
  else if mine.isEmpty && theirs.isFresh then
    setTable dict { theirs with epoch := mine.epoch + 1 }
  else
    if DictTable.capacity mine.index.size < theirs.size then
      let size := DictTable.estimate (mine.size + theirs.size)
      setTable dict (mine.resize size theirs.textual)
    let changed ← visit? ops other fun entry => do
      insertHashed ops dict entry.key entry.hash entry.value
      return if (← table other).rows.size = theirs.rows.size then none else some ()
    if changed.isSome then refuse "RuntimeError" "dict mutated during update"

def keyListing (ops : Ops) (mapping : Ref) : HostM Ref := do
  let answer ← ops.call mapping "keys" []
  keeping ops [answer] do
    match ← attempt (iterate ops answer) with
    | .ok iterator =>
      keeping ops [iterator] (ListObject.ofItems ops iterator)
    | .error fault =>
      if fault.exception = "TypeError" then
        let owner := Cause.long (← typeNameOf mapping)
        let given := Cause.long (← typeNameOf answer)
        refuse "TypeError" s!"{owner}.keys() returned a non-iterable (type {given})"
      else throw fault

/-- Stores the values of the keys that an object says it has. -/
def mergeMapping (ops : Ops) (dict mapping : Ref) : HostM Unit := do
  let keys ← keyListing ops mapping
  keeping ops [keys] do
    forEachItem ops keys fun key => do
      let value ← item ops mapping key
      keeping ops [value] (insert ops dict key value)

def pairItems (ops : Ops) (number : Nat) (pair : Ref) : HostM Ref := do
  if ← ListObject.isExactSequence pair then return pair
  else
    match ← attempt (ListObject.ofItems ops pair) with
    | .ok items => return items
    | .error fault =>
      if fault.exception = "TypeError" then
        refuse "TypeError"
          s!"cannot convert dictionary update sequence element #{number} to a sequence"
      else throw fault

/-- Stores the entry that a pair stands for. -/
def insertPair (ops : Ops) (dict : Ref) (number : Nat) (pair : Ref) : HostM Unit := do
  let sequence ← pairItems ops number pair
  keeping ops (if sequence = pair then [] else [sequence]) do
    match ← ListObject.items sequence with
    | [key, value] => keeping ops [key, value] (insert ops dict key value)
    | items =>
      refuse "ValueError" (s!"dictionary update sequence element #{number} " ++
        s!"has length {items.length}; 2 is required")

/-- Stores the entries that the values of an iterator stand for, of which some were seen before. -/
def insertPairs (ops : Ops) (dict iterator : Ref) : Nat → Nat → HostM Unit
  | 0, _ => outOfSteps
  | steps + 1, seen => do
    match ← next ops iterator with
    | none => return ()
    | some pair =>
      withItem ops pair (insertPair ops dict seen pair)
      insertPairs ops dict iterator steps (seen + 1)

def hasKeys (ops : Ops) (source : Ref) : HostM Bool := do
  match ← attempt (ops.getAttribute source "keys") with
  | .ok method =>
    ops.release [method]
    return true
  | .error fault => if fault.exception = "AttributeError" then return false else throw fault

def update (ops : Ops) (dict source : Ref) : HostM Unit := do
  if (← exactTable? source).isSome then merge ops dict source
  else if ← hasKeys ops source then
    if ← isPlainlyWalked source then merge ops dict source else mergeMapping ops dict source
  else
    let iterator ← iterate ops source
    keeping ops [iterator] (insertPairs ops dict iterator stepLimit 0)

/-- A new dictionary with the same entries. A table with few holes is taken over as it is. -/
def copied (ops : Ops) (dict : Ref) : HostM Ref := do
  let source ← table dict
  if !source.isEmpty && source.isCompact && (← isPlainlyWalked dict) then make (.dict source)
  else
    let copy ← make (.dict .empty)
    completing ops copy do
      if ← isPlainlyWalked dict then merge ops copy dict
      else if source.isEmpty then return ()
      else mergeMapping ops copy dict

/-- Takes a value out. It is in flight. -/
def pop (ops : Ops) (dict key : Ref) (fallback : Option Ref) : HostM Ref := do
  let removed ← if (← table dict).isEmpty then pure none else remove? ops dict key
  match removed, fallback with
  | some value, _ | none, some value => return value
  | none, none => fail (.missingKey key)

/-- Takes the last entry out, as a pair. -/
def popItem (dict : Ref) : HostM Ref := do
  let old ← table dict
  match old.last? with
  | none => fail .popFromEmptyDict
  | some (position, entry) =>
    setTable dict (old.truncate position)
    make (.tuple [entry.key, entry.value])

/-- A dictionary of the same class in which all items of an object have one value. -/
def ofKeys (ops : Ops) (dict source value : Ref) : HostM Ref := do
  let script := ((← heap).view dict).script
  let result ← allocate { body := .dict .empty, script }
  completing ops result (forEachItem ops source fun key => insert ops result key value)

def callMethod? (ops : Ops) (dict : Ref) (name : String) (arguments : List Ref) :
    HostM (Option Ref) := do
  let method := s!"{← typeNameOf dict}.{name}"
  let only := Arguments.only method arguments
  let nothing := Arguments.nothing method arguments
  let between := Arguments.between name
  let key := arguments.headD .nil
  let second := arguments[1]?
  let view (kind : Kind) : HostM Ref := do
    nothing
    make (.view kind dict)
  match name with
  | "get" => some <$> do
    between 1 2 arguments
    return (← get? ops dict key).getD (second.getD .nil)
  | "setdefault" => some <$> do
    between 1 2 arguments
    setDefault ops dict key (second.getD .nil)
  | "pop" => some <$> do
    between 1 2 arguments
    pop ops dict key second
  | "popitem" => some <$> do nothing; popItem dict
  | "clear" => some <$> do nothing; clear ops dict; return .nil
  | "copy" => some <$> do nothing; copied ops dict
  | "update" => some <$> do
    between 0 1 arguments
    arguments.forM (update ops dict)
    return .nil
  | "keys" => some <$> view .dictKeys
  | "values" => some <$> view .dictValues
  | "items" => some <$> view .dictItems
  | "fromkeys" => some <$> do
    between 1 2 arguments
    ofKeys ops dict key (second.getD .nil)
  | "__contains__" => some <$> do return .bool (← builtinContains ops dict (← only))
  | "__getitem__" => some <$> do dictItem ops dict (← only)
  | "__setitem__" => some <$> do
    let (key, value) ← Arguments.assignment arguments
    insert ops dict key value
    return .nil
  | "__delitem__" => some <$> do
    deleteItem ops dict (← Arguments.operand arguments)
    return .nil
  | _ => return none

def union (ops : Ops) (left right : Ref) : HostM Ref := do
  if (← bodyOf left).entries?.isSome && (← bodyOf right).entries?.isSome then
    let result ← copied ops left
    completing ops result (update ops result right)
  else return .notImplemented

def callOperator? (ops : Ops) (dict : Ref) (name : String) (arguments : List Ref) :
    HostM (Option Ref) := do
  match name with
  | "__or__" => some <$> do union ops dict (← Arguments.operand arguments)
  | "__ror__" => some <$> do union ops (← Arguments.operand arguments) dict
  | "__ior__" => some <$> do
    update ops dict (← Arguments.operand arguments)
    return dict
  | _ => return none

def viewIsDisjoint (ops : Ops) (view other : Ref) : HostM Bool := do
  let heap ← heap
  let body := heap.body other
  let size := heap.size? (heap.body view)
  if view = other then return size = some 0
  else
    let isSetLike := body.kind.isSetLike && (heap.view other).script.isNone
    let isLarger := isSetLike && size.getD 0 < (heap.size? body).getD 0
    let (walked, probed) := if isLarger then (view, other) else (other, view)
    let common ← visitItems ops walked fun item => do
      return if ← contains ops probed item then some () else none
    return common.isNone

end HeapBridge.Host.DictObject
