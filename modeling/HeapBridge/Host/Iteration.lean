import HeapBridge.Host.Evaluation
/-!
Iteration over host objects. An iterator walks the live object: a list is followed as it changes,
while a walk over a set or dictionary fails once it meets another size than at its start, and
fails ever after. An exhausted iterator stays exhausted and lets go of what it walked over.
-/
namespace HeapBridge.Host

/-- Whether an object can be asked for a next value. -/
def Heap.isIterator (heap : Heap) (ref : Ref) : Bool :=
  match heap.body ref with
  | .walk _ _ => true
  | _ => (heap.scripted? ref "__next__").isSome

def Kind.walkOfView : Kind → Kind
  | .dictValues => .dictValueWalk
  | .dictItems => .dictItemWalk
  | _ => .dictWalk

def Heap.startOfDict (heap : Heap) (dict : Ref) : Walk :=
  let size := ((heap.body dict).entries?.map (·.size)).getD 0
  .entries dict 0 size size false

/-- The walk over a built-in object from its start. -/
def Heap.start? (heap : Heap) (ref : Ref) : Option (Kind × Walk) :=
  match heap.body ref with
  | .list _ => some (.listWalk, .items ref 0)
  | .tuple _ => some (.tupleWalk, .items ref 0)
  | .text codes => some (if codes.all (· < 0x80) then .asciiTextWalk else .textWalk, .items ref 0)
  | .bytes _ => some (.bytesWalk, .items ref 0)
  | .set table | .frozenset table => some (.setWalk, .elements ref 0 table.size table.size false)
  | .dict _ => some (.dictWalk, heap.startOfDict ref)
  | .view kind dict => some (kind.walkOfView, heap.startOfDict dict)
  | _ => none

def builtinIterator? (ref : Ref) : HostM (Option Ref) := do
  let heap ← heap
  match heap.body ref with
  | .walk _ _ => return some ref
  | _ =>
    match heap.start? ref with
    | some (kind, walk) => some <$> make (.walk kind walk)
    | none => return none

/-- A new iterator over an object. One that only can be asked for items by their indices is walked by
index. -/
def iterate (ops : Ops) (ref : Ref) : HostM Ref := do
  match ← scripted? ops ref "__iter__" [] with
  | some result =>
    if (← heap).isIterator result then return result
    else
      let typeName ← typeNameOf result
      ops.release [result]
      fail (.notIterator typeName)
  | none =>
    match ← builtinIterator? ref with
    | some iterator => return iterator
    | none =>
      if ((← heap).scripted? ref "__getitem__").isSome then make (.walk .indexWalk (.indices ref 0))
      else fail (.notIterable (← typeNameOf ref))

def itemAt? (source : Ref) (index : Nat) : HostM (Option Ref) := do
  match ← bodyOf source with
  | .list items | .tuple items => return items[index]?
  | .text codes => codes[index]?.mapM fun code => make (.text [code])
  | .bytes content => content[index]?.mapM fun byte => make (.int byte.toNat)
  | _ => return none

def proceed (iterator : Ref) (kind : Kind) (walk : Walk) (value : Ref) : HostM (Option Ref) := do
  setBody iterator (.walk kind walk)
  return some value

/-- Ends an iterator, which lets go of what it walked over. -/
def exhaust (ops : Ops) (iterator : Ref) (kind : Kind) (walk : Walk) : HostM Unit := do
  setBody iterator (.walk kind .finished)
  ops.release walk.references

def nextElement (ops : Ops) (iterator : Ref) (kind : Kind) (source : Ref)
    (position size due : Nat) (broken : Bool) : HostM (Option Ref) := do
  let table := (← bodyOf source).elements?.getD .empty
  match table.step position size broken with
  | .changed =>
    setBody iterator (.walk kind (.elements source position size due true))
    fail .setChanged
  | .exhausted =>
    exhaust ops iterator kind (.elements source position size due false)
    return none
  | .element position ref =>
    proceed iterator kind (.elements source position size (due - 1) false) ref

/-- What a walk over a dictionary hands out of an entry. -/
def Entry.item (kind : Kind) (entry : Entry) : HostM Ref :=
  match kind with
  | .dictValueWalk => return entry.value
  | .dictItemWalk => make (.tuple [entry.key, entry.value])
  | _ => return entry.key

/-- The next entry of a dictionary. One more than there were at the start is one too many. -/
def nextEntry (ops : Ops) (iterator : Ref) (kind : Kind) (source : Ref)
    (position size due : Nat) (broken : Bool) : HostM (Option Ref) := do
  let table := (← bodyOf source).entries?.getD .empty
  let walk := Walk.entries source position size due false
  if broken || table.size ≠ size then
    setBody iterator (.walk kind (.entries source position size due true))
    fail .dictChanged
  else
    match table.from? position with
    | none =>
      exhaust ops iterator kind walk
      return none
    | some (found, entry) =>
      if due = 0 then
        exhaust ops iterator kind walk
        fail .dictKeysChanged
      else
        proceed iterator kind (.entries source (found + 1) size (due - 1) false)
          (← entry.item kind)

/-- Asks a scripted object for its item at an index. -/
def nextByIndex (ops : Ops) (iterator : Ref) (kind : Kind) (source : Ref) (index : Nat) :
    HostM (Option Ref) := do
  let position ← make (.int index)
  match ← attempt (scripted? ops source "__getitem__" [position]) with
  | .ok (some value) => proceed iterator kind (.indices source (index + 1)) value
  | .ok none =>
    exhaust ops iterator kind (.indices source index)
    return none
  | .error fault =>
    if fault.exception = "IndexError" || fault.exception = "StopIteration" then
      exhaust ops iterator kind (.indices source index)
      return none
    else throw fault

/-- Resumes a generator. The end of the values is announced by an exception that no generator may
raise itself. -/
def resume (ops : Ops) (iterator : Ref) (walk : Walk) (method : String) (pending : List Ref)
    (failure : Option (String × String)) (receiver : Ref) (arguments : List Ref) :
    HostM (Option Ref) :=
  nested "" do
    match pending, failure with
    | value :: rest, _ =>
      proceed iterator .generator (.suspended receiver arguments method rest failure) value
    | [], none =>
      exhaust ops iterator .generator walk
      return none
    | [], some (exception, text) =>
      exhaust ops iterator .generator walk
      let cause := Cause.ofRaise exception text
      if cause.exception = "StopIteration" then fail .generatorStopped
      else throw { cause, frames := [⟨3, method⟩] }

def advance (ops : Ops) (iterator : Ref) (kind : Kind) (walk : Walk) : HostM (Option Ref) := do
  match walk with
  | .finished => return none
  | .items source index =>
    match ← itemAt? source index with
    | some item => proceed iterator kind (.items source (index + 1)) item
    | none =>
      exhaust ops iterator kind walk
      return none
  | .backwards source due =>
    match due, ← itemAt? source (due - 1) with
    | rest + 1, some item => proceed iterator kind (.backwards source rest) item
    | _, _ =>
      exhaust ops iterator kind walk
      return none
  | .indices source index => nextByIndex ops iterator kind source index
  | .elements source position size due broken =>
    nextElement ops iterator kind source position size due broken
  | .entries source position size due broken =>
    nextEntry ops iterator kind source position size due broken
  | .suspended receiver arguments method pending failure =>
    resume ops iterator walk method pending failure receiver arguments

def next (ops : Ops) (iterator : Ref) : HostM (Option Ref) := do
  match ← attempt (scripted? ops iterator "__next__" []) with
  | .ok (some value) => return some value
  | .error fault => if fault.exception = "StopIteration" then return none else throw fault
  | .ok none =>
    match ← bodyOf iterator with
    | .walk kind walk => advance ops iterator kind walk
    | _ => fail (.notIteratorObject (← typeNameOf iterator))

/-- Whether giving up an object goes unnoticed. -/
def Heap.isScalar (heap : Heap) (ref : Ref) : Bool :=
  let object := heap.view ref
  match object.body with
  | .nil | .bool _ | .int _ | .float _ | .text _ | .bytes _ => object.script.isNone
  | _ => false

/-- Runs an operation on an item that an iterator has handed out, and lets go of it afterwards. A
scalar is left to the end of the command. -/
def withItem {α : Type} (ops : Ops) (item : Ref) (action : HostM α) : HostM α := do
  if (← heap).isScalar item then holding [item] action else keeping ops [item] action

def visitFrom {α : Type} (ops : Ops) (iterator : Ref) (visit : Ref → HostM (Option α)) :
    Nat → HostM (Option α)
  | 0 => outOfSteps
  | steps + 1 => do
    match ← next ops iterator with
    | none => return none
    | some item =>
      match ← withItem ops item (visit item) with
      | some answer => return some answer
      | none => visitFrom ops iterator visit steps

def visitItems {α : Type} (ops : Ops) (ref : Ref) (visit : Ref → HostM (Option α)) :
    HostM (Option α) := do
  let iterator ← iterate ops ref
  keeping ops [iterator] (visitFrom ops iterator visit stepLimit)

def forEachItem (ops : Ops) (ref : Ref) (visit : Ref → HostM Unit) : HostM Unit := do
  let _ : Option Unit ← visitItems ops ref fun item => do
    visit item
    return none

/-- The length that an object announces for itself, if it does. -/
def lengthHint? (ops : Ops) (ref : Ref) : HostM (Option Nat) := do
  let heap ← heap
  let length ←
    if (heap.scripted? ref "__len__").isSome || (heap.size? (heap.body ref)).isSome then
      match ← attempt (length ops ref) with
      | .ok count => pure (some count)
      | .error fault => if fault.exception = "TypeError" then pure none else throw fault
    else pure none
  match length with
  | some count => return some count
  | none =>
    match ← attempt (scripted? ops ref "__length_hint__" []) with
    | .error fault => if fault.exception = "TypeError" then return none else throw fault
    | .ok none | .ok (some .notImplemented) => return none
    | .ok (some result) =>
      match (← bodyOf result).int? with
      | none => fail (.hintNotInteger (← typeNameOf result))
      | some value =>
        if value < -maxLength - 1 || maxLength < value then fail .indexTooLarge
        else if value < 0 then fail .negativeHint
        else return some value.toNat

def itemLimit : Nat := Nat.pow 2 40

def reserve (count : Nat) : HostM Unit := if itemLimit ≤ count then fail .noMemory else return ()

end HeapBridge.Host
