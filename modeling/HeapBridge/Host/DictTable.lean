import HeapBridge.Host.Reference
/-!
The tables of dictionaries. Entries stand in the order of their insertion; one that is taken out
leaves a hole, which is closed when the table moves. An index, probed by the hashes of the keys, says
where the entries are. A table has room for a fixed number of entries, holes included, and moves when
there is none left; it also moves when the first key comes that is not a plain text.
-/
namespace HeapBridge.Host

structure Entry where
  hash : Int
  key : Ref
  value : Ref
  deriving DecidableEq, Repr

inductive IndexSlot where
  | vacant
  /-- The entry that was here is gone. -/
  | removed
  | entry (position : Nat)
  deriving DecidableEq, Repr

structure DictTable where
  /-- The number of places is a power of two. -/
  index : Array IndexSlot
  rows : Array (Option Entry)
  /-- How many more rows there is room for. -/
  room : Nat
  /-- Whether only plain texts were ever keys. -/
  textual : Bool
  /-- How often the table has moved. -/
  epoch : Nat := 0
  deriving DecidableEq, Repr

namespace DictTable

/-- The size of the smallest index that has room for an entry. -/
def minSize : Nat := 8

/-- How many rows an index of that size has room for. -/
def capacity (size : Nat) : Nat := size * 2 / 3

def empty : DictTable := { index := #[.vacant], rows := #[], room := 0, textual := true }

instance : Inhabited DictTable := ⟨empty⟩

def toList (table : DictTable) : List Entry := table.rows.toList.filterMap id

def keys (table : DictTable) : List Ref := table.toList.map (·.key)

def size (table : DictTable) : Nat := table.rows.countP (·.isSome)

def isEmpty (table : DictTable) : Bool := table.size = 0

def at? (table : DictTable) (position : Nat) : Option Entry := (table.rows[position]?).join

def firstWithin (table : DictTable) : Nat → Nat → Option (Nat × Entry)
  | 0, _ => none
  | count + 1, position =>
    match table.at? position with
    | some entry => some (position, entry)
    | none => firstWithin table count (position + 1)

def from? (table : DictTable) (position : Nat) : Option (Nat × Entry) :=
  table.firstWithin (table.rows.size - position) position

def last? (table : DictTable) : Option (Nat × Entry) :=
  (List.range table.rows.size).reverse.findSome? fun found =>
    (table.at? found).map fun entry => (found, entry)

structure Probe where
  place : Nat
  perturb : Nat
  deriving DecidableEq, Repr

def Probe.first (hash : Int) (size : Nat) : Probe :=
  let word := (hash % (Nat.pow 2 64 : Int)).toNat
  { place := word % size, perturb := word }

def Probe.next (probe : Probe) (size : Nat) : Probe :=
  let perturb := probe.perturb / 32
  { place := (probe.place * 5 + perturb + 1) % size, perturb }

/-- More steps than any probe sequence takes to come to a vacant place. -/
def reach (size : Nat) : Nat := 16 * size + 256

/-- What a search comes to: the end of the sequence, or an entry of the same hash, with the place it
was found from and the rest of the sequence. -/
inductive Sighting where
  | absent
  | candidate (position : Nat) (entry : Entry) (rest : Probe)

def seekWithin (table : DictTable) (hash : Int) : Nat → Probe → Sighting
  | 0, _ => .absent
  | steps + 1, probe =>
    let rest := probe.next table.index.size
    match table.index.getD probe.place .vacant with
    | .vacant => .absent
    | .removed => seekWithin table hash steps rest
    | .entry position =>
      match table.at? position with
      | some entry =>
        if entry.hash = hash then .candidate position entry rest
        else seekWithin table hash steps rest
      | none => seekWithin table hash steps rest

def seek (table : DictTable) (hash : Int) (probe : Probe) : Sighting :=
  table.seekWithin hash (reach table.index.size) probe

def start (table : DictTable) (hash : Int) : Probe := .first hash table.index.size

def freePlaceWithin (index : Array IndexSlot) : Nat → Probe → Nat
  | 0, probe => probe.place
  | steps + 1, probe =>
    match index.getD probe.place .vacant with
    | .entry _ => freePlaceWithin index steps (probe.next index.size)
    | _ => probe.place

def freePlace (index : Array IndexSlot) (hash : Int) : Nat :=
  freePlaceWithin index (reach index.size) (.first hash index.size)

def register (index : Array IndexSlot) (hash : Int) (position : Nat) : Array IndexSlot :=
  index.setIfInBounds (freePlace index hash) (.entry position)

/-- The size of an index for at least so many rows, rounded up to a power of two. -/
def sizeFor (least : Nat) : Nat :=
  let bound := (least ||| minSize) - 1
  Nat.pow 2 ((bound ||| (minSize - 1)).log2 + 1)

def resize (table : DictTable) (size : Nat) (textual : Bool) : DictTable :=
  let entries := table.toList
  let numbered := entries.zipIdx
  { index := numbered.foldl (fun index row => register index row.1.hash row.2)
      (Array.replicate size .vacant)
    rows := (entries.map some).toArray
    room := capacity size - entries.length
    textual := textual && table.textual
    epoch := table.epoch + 1 }

def grow (table : DictTable) (textual : Bool) : DictTable :=
  table.resize (sizeFor (table.size * 3)) textual

/-- Prepares a table for a key that is about to be looked for in order to be stored. -/
def prepare (table : DictTable) (isText : Bool) : DictTable :=
  if table.index.size = 1 || isText || !table.textual then table else table.grow false

def push (table : DictTable) (entry : Entry) (isText : Bool) : DictTable :=
  let table :=
    if table.index.size = 1 then
      { table with
        index := Array.replicate minSize .vacant, room := capacity minSize, textual := isText
        epoch := table.epoch + 1 }
    else if table.room = 0 then table.grow true
    else table
  { table with
    index := register table.index entry.hash table.rows.size
    rows := table.rows.push (some entry)
    room := table.room - 1 }

def setValue (table : DictTable) (position : Nat) (value : Ref) : DictTable :=
  match table.at? position with
  | some entry => { table with rows := table.rows.setIfInBounds position (some { entry with value }) }
  | none => table

def unregister (index : Array IndexSlot) (position : Nat) : Array IndexSlot :=
  index.map fun slot => if slot = .entry position then .removed else slot

def eraseAt (table : DictTable) (position : Nat) : DictTable :=
  { table with
    index := unregister table.index position
    rows := table.rows.setIfInBounds position none }

/-- Takes the entry at a position out together with all rows behind it. -/
def truncate (table : DictTable) (position : Nat) : DictTable :=
  { table with
    index := unregister table.index position
    rows := table.rows.take position }

def cleared (table : DictTable) : DictTable := { empty with epoch := table.epoch + 1 }

/-- Whether a copy may keep the holes. -/
def isCompact (table : DictTable) : Bool := table.rows.size * 2 / 3 ≤ table.size

/-- Whether a table can be taken over as it is. -/
def isFresh (table : DictTable) : Bool :=
  table.size = table.rows.size &&
    (table.index.size = minSize || capacity (table.index.size / 2) < table.size)

/-- The size for a table that is about to take up so many entries. -/
def estimate (count : Nat) : Nat := sizeFor ((count * 3 + 1) / 2)

end DictTable

end HeapBridge.Host
