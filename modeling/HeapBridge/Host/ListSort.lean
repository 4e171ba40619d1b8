import HeapBridge.Host.ListObject
/-!
Sorting of lists. The items are put in order by comparing them only with "less": a run at the front that
is in order already, or in the reverse of it, is left or turned round, and each further item is
inserted behind the items that are not greater. Meanwhile the list is empty. If a comparison fails the
items stay as far as they were sorted; a list that was changed in between loses the change.
-/
namespace HeapBridge.Host.ListObject

def isLess (ops : Ops) (a b : Ref) : HostM Bool := do decided ops (← ops.compare .less a b)

/-- How many more items continue a run, whose last item is given. -/
def runLength (ops : Ops) (falling : Bool) : Ref → List Ref → HostM Nat
  | _, [] => return 0
  | last, item :: rest => do
    if (← isLess ops item last) = falling then return (← runLength ops falling item rest) + 1
    else return 0

/-- The items with the run at the front in order, and its length. -/
def leadingRun (ops : Ops) : List Ref → HostM (Nat × List Ref)
  | first :: second :: rest => do
    let falling ← isLess ops second first
    let length := (← runLength ops falling second rest) + 2
    let items := first :: second :: rest
    if falling then return (length, (items.take length).reverse ++ items.drop length)
    else return (length, items)
  | items => return (items.length, items)

/-- The place for an item in a sorted part: between the items that are not greater and the others. -/
def placeFor (ops : Ops) (items : Array Ref) (item : Ref) : Nat → Nat → Nat → HostM Nat
  | 0, low, _ => return low
  | steps + 1, low, high => do
    if high ≤ low then return low
    else
      let middle := low + (high - low) / 2
      if ← isLess ops item (items.getD middle .nil) then placeFor ops items item steps low middle
      else placeFor ops items item steps (middle + 1) high

/-- The items with so many more of them inserted into the sorted front, as far as comparisons succeed. -/
def insertRest (ops : Ops) : Nat → Nat → List Ref → HostM (List Ref × Option Fault)
  | 0, _, items => return (items, none)
  | rest + 1, sorted, items => do
    match items[sorted]? with
    | none => return (items, none)
    | some item =>
      match ← attempt (placeFor ops items.toArray item sorted 0 sorted) with
      | .error fault => return (items, some fault)
      | .ok place =>
        let items := items.eraseIdx sorted
        insertRest ops rest (sorted + 1) (items.take place ++ item :: items.drop place)

/-- The items sorted, as far as comparisons succeed. -/
def sortedItems (ops : Ops) (items : List Ref) : HostM (List Ref × Option Fault) := do
  match ← attempt (leadingRun ops items) with
  | .error fault => return (items, some fault)
  | .ok (length, items) => insertRest ops (items.length - length) length items

def sort (ops : Ops) (list : Ref) : HostM Unit := do
  let before ← items list
  setItems list []
  let (sorted, fault) ← holding before (sortedItems ops before)
  let meanwhile ← items list
  setItems list sorted
  ops.release meanwhile.reverse
  match fault with
  | some fault => throw fault
  | none =>
    if meanwhile.isEmpty then return () else refuse "ValueError" "list modified during sort"

end HeapBridge.Host.ListObject
