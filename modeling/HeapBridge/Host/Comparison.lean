import HeapBridge.Host.DictObject
import HeapBridge.Host.SetObject
/-!
Comparison of host objects. Each side may have an opinion on a relation: the answer of its script, or
what its kind makes of the other side. The left side is asked first, unless the class of the right one
derives from the class of the left one. If no side has an opinion, two objects are equal only if they
are one, and have no order.
-/
namespace HeapBridge.Host

def Body.number? : Body → Option Binary64.Value
  | .float bits => some (Binary64.decode bits)
  | body => body.int?.map .ofInt

def orderCodes : List Nat → List Nat → Ordering
  | [], [] => .eq
  | [], _ :: _ => .lt
  | _ :: _, [] => .gt
  | a :: as, b :: bs => (compare a b).then (orderCodes as bs)

/-- What a relation answers for values in that order; values without an order are unequal. -/
def Relation.answer (relation : Relation) : Option Ordering → Ref
  | some order => .bool (relation.holds order)
  | none => .bool (relation = .unequal)

/-- What a relation answers that only tells equal from unequal. -/
def Relation.answerEqual? (relation : Relation) (isEqual : Bool) : Option Ref :=
  match relation with
  | .equal => some (.bool isEqual)
  | .unequal => some (.bool !isEqual)
  | _ => none

/-- The first index at which two sequences have different items, or one has none. The sequences are
looked at anew after each comparison. -/
def firstDifference (ops : Ops) (a b : Ref) : Nat → Nat → HostM Nat
  | 0, _ => outOfSteps
  | steps + 1, index => do
    let heap ← heap
    match (heap.body a).items?.bind (·[index]?), (heap.body b).items?.bind (·[index]?) with
    | some x, some y =>
      if ← keepingBoth ops x y (same ops x y) then firstDifference ops a b steps (index + 1)
      else return index
    | _, _ => return index

def lengthsOpinion (relation : Relation) (a b : Ref) : HostM Ref := do
  let heap ← heap
  return relation.answer (some (compare (heap.size? (heap.body a)) (heap.size? (heap.body b))))

/-- Sequences are compared by the first items that differ, and by their lengths if there are none. -/
def sequenceOpinion (ops : Ops) (relation : Relation) (a b : Ref) : HostM Ref := do
  let before ← heap
  let length := (before.size? (before.body a)).getD 0
  let index ← firstDifference ops a b (stepLimit + length) 0
  let heap ← heap
  match (heap.body a).items?.bind (·[index]?), (heap.body b).items?.bind (·[index]?) with
  | some x, some y =>
    match relation.answerEqual? false with
    | some answer => return answer
    | none => keepingBoth ops x y (ops.compare relation x y)
  | _, _ => lengthsOpinion relation a b

/-- Lists of different lengths are unequal whatever their items. -/
def listOpinion (ops : Ops) (relation : Relation) (a b : Ref) : HostM Ref := do
  let heap ← heap
  match relation.answerEqual? false with
  | some answer =>
    if heap.size? (heap.body a) = heap.size? (heap.body b) then sequenceOpinion ops relation a b
    else return answer
  | none => sequenceOpinion ops relation a b

def setOpinion (ops : Ops) (relation : Relation) (a b : Ref) : HostM Bool := do
  let left := (← SetObject.table a).size
  let right := (← SetObject.table b).size
  match relation with
  | .equal => if left = right then SetObject.isWithin ops a b else return false
  | .unequal => if left = right then return !(← SetObject.isWithin ops a b) else return true
  | .lessOrEqual => SetObject.isWithin ops a b
  | .greaterOrEqual => SetObject.isWithin ops b a
  | .less => if left < right then SetObject.isWithin ops a b else return false
  | .greater => if right < left then SetObject.isWithin ops b a else return false

/-- Dictionaries are equal if each entry of one has an equal partner in the other. -/
def dictsEqual (ops : Ops) (a b : Ref) : HostM Bool := do
  if (← DictObject.table a).size ≠ (← DictObject.table b).size then return false
  else
    let differing ← DictObject.visit? ops a fun entry => do
      match ← DictObject.getHashed? ops b entry.key entry.hash with
      | none => return some ()
      | some value =>
        if ← keepingBoth ops value entry.value (same ops value entry.value) then return none
        else return some ()
    return differing.isNone

/-- Whether all elements of a set or of a look at a dictionary are in another one. -/
def isContained (ops : Ops) (source container : Ref) : HostM Bool := do
  let isMissing (element : Ref) : HostM (Option Unit) := do
    if ← decided ops (← ops.call container "__contains__" [element]) then return none
    else return some ()
  let missing ← match ← bodyOf source with
    | .view .dictKeys dict => DictObject.visit? ops dict fun entry => isMissing entry.key
    | .view _ dict => DictObject.visit? ops dict fun entry => do
      let pair ← make (.tuple [entry.key, entry.value])
      keeping ops [pair] (isMissing pair)
    | _ => SetObject.visit? ops source fun _ element => isMissing element
  return missing.isNone

/-- A look at the keys or entries of a dictionary is compared like a set. -/
def viewOpinion (ops : Ops) (relation : Relation) (a b : Ref) : HostM Bool := do
  let left ← length ops a
  let right ← length ops b
  match relation with
  | .equal => if left = right then isContained ops a b else return false
  | .unequal => if left = right then return !(← isContained ops a b) else return true
  | .lessOrEqual => if left ≤ right then isContained ops a b else return false
  | .greaterOrEqual => if right ≤ left then isContained ops b a else return false
  | .less => if left < right then isContained ops a b else return false
  | .greater => if right < left then isContained ops b a else return false

/-- What the kind of the left object makes of the other one, if it has an opinion. -/
def kindOpinion (ops : Ops) (relation : Relation) (a b : Ref) : HostM (Option Ref) := do
  let heap ← heap
  match heap.body a, heap.body b with
  | .float x, right =>
    return right.number?.map fun y => relation.answer ((Binary64.decode x).order? y)
  | .text x, .text y => return some (relation.answer (some (orderCodes x y)))
  | .bytes x, .bytes y =>
    return some (relation.answer (some (orderCodes (x.map UInt8.toNat) (y.map UInt8.toNat))))
  | .list _, .list _ => some <$> listOpinion ops relation a b
  | .tuple _, .tuple _ => some <$> sequenceOpinion ops relation a b
  | .set _, .set _ | .set _, .frozenset _ | .frozenset _, .set _ | .frozenset _, .frozenset _ =>
    return some (.bool (← setOpinion ops relation a b))
  | .dict _, .dict _ =>
    match relation with
    | .equal => return some (.bool (← dictsEqual ops a b))
    | .unequal => return some (.bool !(← dictsEqual ops a b))
    | _ => return none
  | .handle x, right =>
    let isEqual := match right with
      | .handle y => x.pointer.number = y.pointer.number && x.typeId = y.typeId
      | _ => false
    return relation.answerEqual? isEqual
  | .view kind _, right =>
    if kind.isSetLike && right.kind.isSetLike then
      return some (.bool (← viewOpinion ops relation a b))
    else return none
  | .method kind x name, .method other y next =>
    return relation.answerEqual? (kind = other && x = y && name = next)
  | left, right =>
    match left.int?, right.int? with
    | some x, some y => return some (relation.answer (some (compare x y)))
    | some _, none => return none
    | none, _ => return none

/-- What an object of no particular kind makes of another one: it is equal to itself, and it is
unequal to what it says it is not equal to. -/
def identityOpinion (ops : Ops) (relation : Relation) (a b : Ref) : HostM (Option Ref) := do
  match relation with
  | .equal => return if a = b then some (.bool true) else none
  | .unequal =>
    match ← scripted? ops a Relation.equal.method [b] with
    | some .notImplemented => return none
    | some answer => return some (.bool !(← decided ops answer))
    | none => return if a = b then some (.bool false) else none
  | _ => return none

/-- Whether objects of a kind are compared by what they are, and not only by which they are. -/
def Body.isComparable : Body → Bool
  | .bool _ | .int _ | .float _ | .text _ | .bytes _ | .list _ | .tuple _ | .set _ | .frozenset _
  | .dict _ | .handle _ | .view .dictKeys _ | .view .dictItems _ | .method _ _ _ => true
  | _ => false

/-- What the operation behind a relation answers that comes with the kind of the left object. -/
def builtinOpinion (ops : Ops) (relation : Relation) (a b : Ref) : HostM (Option Ref) := do
  if (← bodyOf a).isComparable then kindOpinion ops relation a b
  else identityOpinion ops relation a b

/-- The opinion of one side: its script's answer, or that of its kind. -/
def opinion (ops : Ops) (relation : Relation) (a b : Ref) : HostM (Option Ref) := do
  match ← scripted? ops a relation.method [b] with
  | some answer => return if answer = .notImplemented then none else some answer
  | none => builtinOpinion ops relation a b

/-- Whether the class of the first object is derived from the class of the second. -/
def Heap.derives (heap : Heap) (a b : Ref) : Bool :=
  let left := heap.view a
  let right := heap.view b
  if right.script.isSome then false
  else
    match right.body.kind with
    | .plain => left.script.isSome || left.body.kind ≠ .plain
    | .int => (left.script.isSome && left.body.kind = .int) || left.body.kind = .bool
    | kind => left.script.isSome && left.body.kind = kind

def answerWithoutOpinion (relation : Relation) (a b : Ref) : HostM Ref := do
  match relation.answerEqual? (a = b) with
  | some answer => return answer
  | none => fail (.notComparable relation.sign (← typeNameOf a) (← typeNameOf b))

/-- What comparing two objects answers. -/
def compared (ops : Ops) (relation : Relation) (a b : Ref) : HostM Ref :=
  nested " in comparison" do
    let isDerived := (← heap).derives b a
    let early ← if isDerived then opinion ops relation.swapped b a else pure none
    match early with
    | some answer => return answer
    | none =>
      match ← opinion ops relation a b with
      | some answer => return answer
      | none =>
        let late ← if isDerived then pure none else opinion ops relation.swapped b a
        match late with
        | some answer => return answer
        | none => answerWithoutOpinion relation a b

end HeapBridge.Host
