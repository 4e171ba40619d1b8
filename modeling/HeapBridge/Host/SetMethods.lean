import HeapBridge.Host.Arguments
import HeapBridge.Host.DictObject
import HeapBridge.Host.Iteration
import HeapBridge.Host.SetObject
/-!
The methods of sets and frozen sets. Another operand that is itself a set is walked with the hashes it
has stored; any other object is iterated and its items are hashed. A new set is of the built-in kind
that the receiver derives from, and a set is only replaced as a whole or element by element, so what
was done before a failure stays.
-/
namespace HeapBridge.Host.SetObject

def isSet (ref : Ref) : HostM Bool := return (← bodyOf ref).elements?.isSome

def makeLike (set : Ref) (table : SetTable) : HostM Ref := do
  match ← bodyOf set with
  | .frozenset _ => make (.frozenset table)
  | _ => make (.set table)

def copied (set : Ref) : HostM Ref := do makeLike set (← table set).copied

/-- A new set of the kind that another one derives from, filled by an operation. -/
def filledLike (ops : Ops) (set : Ref) (fill : Ref → HostM Unit) : HostM Ref := do
  let result ← makeLike set .empty
  completing ops result (fill result)

def update (ops : Ops) (set other : Ref) : HostM Unit := do
  if ← isSet other then merge ops set other
  else
    match ← DictObject.exactTable? other with
    | some entries =>
      setTable set ((← table set).reserve entries.size)
      DictObject.forEach ops other fun entry => addHashed ops set entry.key entry.hash
    | none => forEachItem ops other (add ops set)

def updateAll (ops : Ops) (set : Ref) : List Ref → HostM Unit
  | [] => return ()
  | other :: rest => do
    update ops set other
    updateAll ops set rest

def union (ops : Ops) (set : Ref) (others : List Ref) : HostM Ref := do
  let result ← copied set
  completing ops result (updateAll ops result (others.filter (· ≠ set)))

def addCommon (ops : Ops) (result set other : Ref) : HostM Unit := do
  let isLarger := (← table set).size < (← table other).size
  let (walked, probed) := if isLarger then (set, other) else (other, set)
  forEach ops walked fun hash element => do
    if ← containsHashed ops probed element hash then addHashed ops result element hash

/-- Adds to a set the items of an object that are in another set. Once it has all elements of the other
set no more items are asked for. -/
def addCommonItems (ops : Ops) (result set other : Ref) : HostM Unit := do
  let _ : Option Unit ← visitItems ops other fun item => do
    let hash ← ops.hash item
    if ← containsHashed ops set item hash then
      addHashed ops result item hash
      return if (← table set).size ≤ (← table result).size then some () else none
    else return none

def intersection (ops : Ops) (set other : Ref) : HostM Ref := do
  if set = other then copied set
  else
    filledLike ops set fun result => do
      if ← isSet other then addCommon ops result set other
      else addCommonItems ops result set other

/-- A new set of what is in an intermediate set, which is given up, and in other objects. -/
def narrowed (ops : Ops) (set : Ref) : List Ref → HostM Ref
  | [] => return set
  | other :: rest => do narrowed ops (← keeping ops [set] (intersection ops set other)) rest

def intersectionAll (ops : Ops) (set : Ref) : List Ref → HostM Ref
  | [] => copied set
  | other :: rest => do narrowed ops (← intersection ops set other) rest

/-- Gives a set the elements of a new one, which is let go of with those that the set had. -/
def takeBody (ops : Ops) (set other : Ref) : HostM Unit := do
  let mine ← table set
  let theirs ← table other
  setTable set { theirs with finger := mine.finger, epoch := mine.epoch + theirs.epoch + 1 }
  setTable other { mine with finger := theirs.finger }
  ops.release [other]

def discardAll (ops : Ops) (set other : Ref) : HostM Unit :=
  forEach ops other fun hash element => Functor.discard (discardHashed ops set element hash)

/-- Takes out what is in another object. Of a set that is far larger only the common elements are
walked; afterwards a table with many slots given up is cleared of them. -/
def subtract (ops : Ops) (set other : Ref) : HostM Unit := do
  if set = other then clear ops set
  else
    if ← isSet other then
      if (← table set).size < (← table other).size / 8 then
        let common ← intersection ops set other
        keeping ops [common] (discardAll ops set common)
      else discardAll ops set other
    else forEachItem ops other fun item => Functor.discard (SetObject.discard ops set item)
    let left ← table set
    if left.isWasteful then setTable set (left.resize (SetTable.growth left.size))

def subtractAll (ops : Ops) (set : Ref) : List Ref → HostM Unit
  | [] => return ()
  | other :: rest => do
    subtract ops set other
    subtractAll ops set rest

/-- A new set of the elements for which a test answers no. -/
def without (ops : Ops) (set : Ref) (test : Int → Ref → HostM Bool) : HostM Ref :=
  filledLike ops set fun result => forEach ops set fun hash element => do
    if ← test hash element then return () else addHashed ops result element hash

/-- A new set without what is in another object. If the other one is far smaller, or has to
be iterated, its items are taken out of a copy. -/
def difference (ops : Ops) (set other : Ref) : HostM Ref := do
  let entries ← DictObject.exactTable? other
  let isSet ← isSet other
  let mine := (← table set).size
  let theirs := (← table other).size
  let isComparable := (isSet && mine / 4 ≤ theirs) ||
    entries.any fun entries => mine / 4 ≤ entries.size
  if !isComparable then
    let result ← copied set
    completing ops result (subtract ops result other)
  else if isSet then without ops set fun hash element => containsHashed ops other element hash
  else without ops set fun hash element =>
    return (← DictObject.locate ops other element hash).isSome

def differenceAll (ops : Ops) (set : Ref) : List Ref → HostM Ref
  | [] => copied set
  | other :: rest => do
    let result ← difference ops set other
    completing ops result (subtractAll ops result rest)

/-- Takes an element out, or adds it if it was not in. -/
def toggle (ops : Ops) (set : Ref) (hash : Int) (element : Ref) : HostM Unit := do
  if ← discardHashed ops set element hash then return () else addHashed ops set element hash

/-- Leaves what is in one of two objects only. -/
def symmetricUpdate (ops : Ops) (set other : Ref) : HostM Unit := do
  if set = other then clear ops set
  else if (← DictObject.exactTable? other).isSome then
    DictObject.forEach ops other fun entry => toggle ops set entry.hash entry.key
  else if ← isSet other then forEach ops other (toggle ops set)
  else
    let items ← filledLike ops set fun items => update ops items other
    keeping ops [items] (forEach ops items (toggle ops set))

def symmetricDifference (ops : Ops) (set other : Ref) : HostM Ref := do
  let result ← filledLike ops set fun result => update ops result other
  completing ops result (symmetricUpdate ops result set)

def isDisjoint (ops : Ops) (set other : Ref) : HostM Bool := do
  let object := (← heap).view other
  if set = other then return (← table set).isEmpty
  else if object.script.isNone && object.body.elements?.isSome then
    let isLarger := (← table set).size < (← table other).size
    let (walked, probed) := if isLarger then (set, other) else (other, set)
    let common ← visit? ops walked fun hash element => do
      return if ← containsHashed ops probed element hash then some () else none
    return common.isNone
  else
    let common ← visitItems ops other fun item => do
      return if ← contains ops set item then some () else none
    return common.isNone

def isSubset (ops : Ops) (set other : Ref) : HostM Bool := do
  if ← isSet other then isWithin ops set other
  else
    let empty ← make (.set .empty)
    let items ← completing ops empty (update ops empty other)
    keeping ops [items] (isWithin ops set items)

def isSuperset (ops : Ops) (set other : Ref) : HostM Bool := do
  if ← isSet other then isWithin ops other set
  else
    let missing ← visitItems ops other fun item => do
      return if ← contains ops set item then none else some ()
    return missing.isNone

def pop (set : Ref) : HostM Ref := do
  let old ← table set
  match old.next? with
  | none => fail .popFromEmptySet
  | some place =>
    setTable set { old.eraseAt place with finger := place + 1 }
    return (old.at? place).getD .nil

def remove (ops : Ops) (set key : Ref) : HostM Unit := do
  if ← SetObject.discard ops set key then return () else fail (.missingKey key)

/-- The copy that a set makes of itself. A frozen set of the built-in type is its own. -/
def copy (set : Ref) : HostM Ref := do
  let object := (← heap).view set
  match object.script, object.body with
  | none, .frozenset _ => return set
  | _, _ => copied set

/-- Runs a method without a result. -/
def done (action : HostM Unit) : HostM Ref := do
  action
  return .nil

def callMethod? (ops : Ops) (set : Ref) (name : String) (arguments : List Ref) :
    HostM (Option Ref) := do
  let method := s!"{← typeNameOf set}.{name}"
  let only := Arguments.only method arguments
  let nothing := Arguments.nothing method arguments
  let answered (action : HostM Bool) : HostM (Option Ref) := return some (.bool (← action))
  match name with
  | "add" => some <$> done do add ops set (← only)
  | "discard" => some <$> done do Functor.discard (SetObject.discard ops set (← only))
  | "remove" => some <$> done do remove ops set (← only)
  | "pop" => some <$> do nothing; pop set
  | "clear" => some <$> done do nothing; clear ops set
  | "copy" => some <$> do nothing; copy set
  | "update" => some <$> done (updateAll ops set arguments)
  | "union" => some <$> union ops set arguments
  | "intersection" => some <$> intersectionAll ops set arguments
  | "intersection_update" =>
    some <$> done do takeBody ops set (← intersectionAll ops set arguments)
  | "difference" => some <$> differenceAll ops set arguments
  | "difference_update" => some <$> done (subtractAll ops set arguments)
  | "symmetric_difference" => some <$> do symmetricDifference ops set (← only)
  | "symmetric_difference_update" => some <$> done do symmetricUpdate ops set (← only)
  | "isdisjoint" => answered do isDisjoint ops set (← only)
  | "issubset" => answered do isSubset ops set (← only)
  | "issuperset" => answered do isSuperset ops set (← only)
  | "__contains__" => answered do contains ops set (← only)
  | _ => return none

def combined (ops : Ops) (name : String) (left right : Ref) : HostM (Option Ref) := do
  if !(← isSet left) || !(← isSet right) then return some .notImplemented
  else
    match name with
    | "__or__" => some <$> union ops left [right]
    | "__and__" => some <$> intersection ops left right
    | "__sub__" => some <$> difference ops left right
    | "__xor__" => some <$> symmetricDifference ops left right
    | _ => return none

def combineInto (ops : Ops) (name : String) (set other : Ref) : HostM (Option Ref) := do
  if !(← isSet other) then return some .notImplemented
  else
    match name with
    | "__ior__" => update ops set other
    | "__iand__" => takeBody ops set (← intersection ops set other)
    | "__isub__" => subtract ops set other
    | _ => symmetricUpdate ops set other
    return some set

def callOperator? (ops : Ops) (set : Ref) (name : String) (arguments : List Ref) :
    HostM (Option Ref) := do
  if ["__or__", "__and__", "__sub__", "__xor__"].contains name then
    combined ops name set (← Arguments.operand arguments)
  else if ["__ior__", "__iand__", "__isub__", "__ixor__"].contains name then
    combineInto ops name set (← Arguments.operand arguments)
  else
    match name with
    | "__ror__" => do combined ops "__or__" (← Arguments.operand arguments) set
    | "__rand__" => do combined ops "__and__" (← Arguments.operand arguments) set
    | "__rsub__" => do combined ops "__sub__" (← Arguments.operand arguments) set
    | "__rxor__" => do combined ops "__xor__" (← Arguments.operand arguments) set
    | _ => return none

end HeapBridge.Host.SetObject
