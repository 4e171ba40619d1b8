import HeapBridge.Host.Reference
/-!
The tables of sets. An element lies in the first slot on the probe sequence of its hash that was free
when it was put in. A slot that an element was taken out of is not free again for searches, which go
on behind it, but the next element that comes across it may be put there. A table that gets too full
moves to a larger one. The order of a set is the order of its slots.
-/
namespace HeapBridge.Host

inductive SetSlot where
  | vacant
  /-- An element was here. -/
  | removed
  | element (hash : Int) (ref : Ref)
  deriving DecidableEq, Repr

namespace SetSlot

def element? : SetSlot → Option (Int × Ref)
  | .element hash ref => some (hash, ref)
  | _ => none

def isVacant : SetSlot → Bool
  | .vacant => true
  | _ => false

end SetSlot

/-- A place on a probe sequence: some slots in a row from a start that the hash determines, and then
another start. -/
structure Probe where
  start : Nat
  offset : Nat
  perturb : Nat
  deriving DecidableEq, Repr

namespace Probe

/-- How many slots behind a start are looked at before the next start. -/
def run : Nat := 9

def word (hash : Int) : Nat := (hash % (Nat.pow 2 64 : Int)).toNat

def first (hash : Int) (size : Nat) : Probe :=
  { start := word hash % size, offset := 0, perturb := word hash }

def index (probe : Probe) : Nat := probe.start + probe.offset

def next (probe : Probe) (size : Nat) : Probe :=
  if probe.start + run < size && probe.offset < run then { probe with offset := probe.offset + 1 }
  else
    let perturb := probe.perturb / 32
    { start := (probe.start * 5 + 1 + perturb) % size, offset := 0, perturb }

end Probe

structure SetTable where
  /-- The number of slots is a power of two. -/
  slots : Array SetSlot
  /-- Where the next element to be taken is looked for. -/
  finger : Nat := 0
  /-- How often the table has moved. -/
  epoch : Nat := 0
  deriving DecidableEq, Repr

namespace SetTable

def minSize : Nat := 8

def vacant (size : Nat) : Array SetSlot := Array.replicate size .vacant

def empty : SetTable := { slots := vacant minSize }

instance : Inhabited SetTable := ⟨empty⟩

def entries (table : SetTable) : List (Int × Ref) := table.slots.toList.filterMap (·.element?)

def toList (table : SetTable) : List Ref := table.entries.map (·.2)

def size (table : SetTable) : Nat := table.slots.countP fun slot => slot.element?.isSome

def isEmpty (table : SetTable) : Bool := table.size = 0

def fill (table : SetTable) : Nat := table.slots.countP fun slot => !slot.isVacant

def slot (table : SetTable) (index : Nat) : SetSlot := table.slots.getD index .vacant

def at? (table : SetTable) (index : Nat) : Option Ref := (table.slot index).element?.map (·.2)

def firstWithin (table : SetTable) : Nat → Nat → Option (Nat × Int × Ref)
  | 0, _ => none
  | count + 1, index =>
    match (table.slot index).element? with
    | some entry => some (index, entry)
    | none => firstWithin table count (index + 1)

/-- The first element in or behind a slot, with its slot. -/
def from? (table : SetTable) (index : Nat) : Option (Nat × Int × Ref) :=
  table.firstWithin (table.slots.size - index) index

/-- What asking a walk over a set for its next element comes to. -/
inductive Step where
  /-- The set has another size than at the start, or once had. -/
  | changed
  | exhausted
  /-- An element, and the slot where the walk goes on. -/
  | element (position : Nat) (ref : Ref)
  deriving DecidableEq, Repr

/-- The next step of a walk from a slot, which started when the set had `size` elements. -/
def step (table : SetTable) (position size : Nat) (broken : Bool) : Step :=
  if broken || table.size ≠ size then .changed
  else
    match table.from? position with
    | some (found, _, ref) => .element (found + 1) ref
    | none => .exhausted

/-- More steps than any probe sequence takes to come to a free slot. -/
def reach (table : SetTable) : Nat := 16 * table.slots.size + 256

/-- What a search comes to: a free slot, or an element that was put in under the same hash, with the
rest of the sequence. `reusable` is the last slot before it that an element was taken out of. -/
inductive Sighting where
  | free (index : Nat) (reusable : Option Nat)
  | candidate (index : Nat) (ref : Ref) (rest : Probe) (reusable : Option Nat)

/-- Goes along a probe sequence. -/
def seekWithin (table : SetTable) (hash : Int) : Nat → Probe → Option Nat → Sighting
  | 0, probe, reusable => .free probe.index reusable
  | steps + 1, probe, reusable =>
    match table.slot probe.index with
    | .vacant => .free probe.index reusable
    | .removed => seekWithin table hash steps (probe.next table.slots.size) (some probe.index)
    | .element stored ref =>
      if stored = hash then .candidate probe.index ref (probe.next table.slots.size) reusable
      else seekWithin table hash steps (probe.next table.slots.size) reusable

def seek (table : SetTable) (hash : Int) (probe : Probe) (reusable : Option Nat) : Sighting :=
  table.seekWithin hash table.reach probe reusable

def start (table : SetTable) (hash : Int) : Probe := .first hash table.slots.size

def vacancyWithin (slots : Array SetSlot) : Nat → Probe → Nat
  | 0, probe => probe.index
  | steps + 1, probe =>
    if (slots.getD probe.index .vacant).isVacant then probe.index
    else vacancyWithin slots steps (probe.next slots.size)

/-- Puts an element into slots of which none was given up. -/
def placeFresh (slots : Array SetSlot) (entry : Int × Ref) : Array SetSlot :=
  let index := vacancyWithin slots (16 * slots.size + 256) (.first entry.1 slots.size)
  slots.setIfInBounds index (.element entry.1 entry.2)

/-- The least number of slots that is larger than `least`. -/
def sizeAbove (least : Nat) : Nat := max minSize (Nat.pow 2 (least.log2 + 1))

/-- Moves the elements to a table with more slots than `least`. The smallest table is only cleared of
given-up slots. -/
def resize (table : SetTable) (least : Nat) : SetTable :=
  let size := sizeAbove least
  if size = minSize && table.slots.size = minSize && table.fill = table.size then table
  else
    { table with
      slots := table.entries.foldl placeFresh (vacant size)
      epoch := if size = minSize && table.slots.size = minSize then table.epoch else table.epoch + 1 }

/-- How far a table grows that holds so many elements. -/
def growth (size : Nat) : Nat := if 50000 < size then size * 2 else size * 4

/-- Stores an element in a slot that a search came to. A vacant slot counts against the room left. -/
def put (table : SetTable) (hash : Int) (ref : Ref) (index : Nat) (reusable : Option Nat) :
    SetTable :=
  match reusable with
  | some index => { table with slots := table.slots.setIfInBounds index (.element hash ref) }
  | none =>
    let table := { table with slots := table.slots.setIfInBounds index (.element hash ref) }
    if table.fill * 5 < (table.slots.size - 1) * 3 then table
    else table.resize (growth table.size)

def eraseAt (table : SetTable) (index : Nat) : SetTable :=
  { table with slots := table.slots.setIfInBounds index .removed }

def cleared (table : SetTable) : SetTable :=
  { slots := vacant minSize
    finger := table.finger
    epoch := if table.slots.size = minSize then table.epoch else table.epoch + 1 }

def reserve (table : SetTable) (more : Nat) : SetTable :=
  if (table.slots.size - 1) * 3 ≤ (table.fill + more) * 5 then table.resize ((table.size + more) * 2)
  else table

def takeOver (table other : SetTable) : SetTable :=
  if table.slots.size = other.slots.size && other.fill = other.size then
    { table with slots := other.slots }
  else { table with slots := other.entries.foldl placeFresh table.slots }

def copied (table : SetTable) : SetTable :=
  if table.isEmpty then empty else (empty.reserve table.size).takeOver table

/-- Whether two states of a table lie in one place. The smallest table has a place of its own. -/
def isSamePlace (table other : SetTable) : Bool :=
  (table.slots.size = minSize && other.slots.size = minSize) || table.epoch = other.epoch

/-- Whether so many slots are given up that the table should be cleared of them. -/
def isWasteful (table : SetTable) : Bool :=
  (table.slots.size - 1) / 4 < table.fill - table.size

/-- The slot of the element that is taken next, if there is one. -/
def next? (table : SetTable) : Option Nat :=
  match table.from? (table.finger % table.slots.size) with
  | some (index, _) => some index
  | none => (table.from? 0).map (·.1)

end SetTable

end HeapBridge.Host
