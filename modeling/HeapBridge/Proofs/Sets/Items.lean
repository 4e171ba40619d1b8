import HeapBridge.Host.Comparison
import HeapBridge.Host.Hashing
import HeapBridge.Proofs.Sets.Numbers
import HeapBridge.Proofs.Sets.Tables
/-!
Items of sets. An item is a value of a built-in type that can be hashed: a scalar, or a tuple or frozen set
of items. Two items are the same if they have the same content: numbers are told apart by what they stand
for, texts and byte strings by their characters, containers by what they hold, and what cannot be compared
by which object it is. Items of the same content have the same hash.
-/
namespace HeapBridge.Host

open Binary64 (Numeric)

variable {heap after : Heap} {depth : Nat} {a b ref : Ref} {table : SetTable}

/-- What a scalar is compared by. -/
inductive Scalar where
  | number (value : Numeric)
  | text (codes : CodePoints)
  | bytes (content : List UInt8)
  /-- Which object it is. -/
  | identity (ref : Ref)

namespace Body

/-- Whether a body is that of a value that can be hashed and holds no others. -/
def isScalar : Body → Bool
  | .nil | .bool _ | .int _ | .float _ | .text _ | .bytes _ | .plain | .notImplemented | .type _ => true
  | _ => false

/-- What an object with a body stands for, if it stands for a number. -/
def numeric? (body : Body) : Option Numeric := body.number?.bind (·.numeric?)

/-- What an object with a body is compared by. A float that is no number is compared by identity. -/
def scalar (ref : Ref) : Body → Scalar
  | .text codes => .text codes
  | .bytes content => .bytes content
  | body => body.numeric?.elim (.identity ref) .number

/-- The hash of an object with a body that holds no others. -/
def scalarHash (ref : Ref) : Body → Int
  | .text codes => byteHash (storedBytes codes)
  | .bytes content => byteHash content
  | body => (body.number?.bind (·.hash?)).getD (identityHash ref)

/-- Bodies that stand for one number have one hash. -/
theorem hash?_congr {x y : Body} (hSame : x.numeric? = y.numeric?) :
    x.number?.bind (·.hash?) = y.number?.bind (·.hash?) := by
  unfold numeric? at hSame
  cases hX : x.number? with
  | none =>
    cases hY : y.number? with
    | none => rfl
    | some number =>
      rw [hX, hY] at hSame
      exact Binary64.hash?_congr (x := .nan) hSame
  | some number =>
    cases hY : y.number? with
    | none =>
      rw [hX, hY] at hSame
      exact Binary64.hash?_congr (y := .nan) hSame
    | some other =>
      rw [hX, hY] at hSame
      exact Binary64.hash?_congr hSame

/-- The ways in which scalars are compared. -/
inductive Compared (ref : Ref) (body : Body) : Prop where
  | text (codes : CodePoints) (hBody : body = .text codes)
  | bytes (content : List UInt8) (hBody : body = .bytes content)
  | number (hScalar : body.scalar ref = body.numeric?.elim (.identity ref) .number)
    (hHash : body.scalarHash ref = (body.number?.bind (·.hash?)).getD (identityHash ref))

theorem compared (ref : Ref) (body : Body) : body.Compared ref := by
  cases body with
  | text codes => exact .text codes rfl
  | bytes content => exact .bytes content rfl
  | _ => exact .number rfl rfl

/-- The ways in which two scalars may be compared by the same. -/
inductive Alike (a b : Ref) (x y : Body) : Prop where
  | text (codes : CodePoints) (hX : x = .text codes) (hY : y = .text codes)
  | bytes (content : List UInt8) (hX : x = .bytes content) (hY : y = .bytes content)
  | number (hNumeric : x.numeric? = y.numeric?) (hOne : x.numeric? = none → a = b)
    (hX : x.scalarHash a = (x.number?.bind (·.hash?)).getD (identityHash a))
    (hY : y.scalarHash b = (y.number?.bind (·.hash?)).getD (identityHash b))

/-- Scalars of one value are alike. -/
theorem alike {x y : Body} (hSame : x.scalar a = y.scalar b) : Alike a b x y := by
  rcases x.compared a with ⟨codes, rfl⟩ | ⟨content, rfl⟩ | ⟨hX, hHashX⟩ <;>
    rcases y.compared b with ⟨others, rfl⟩ | ⟨other, rfl⟩ | ⟨hY, hHashY⟩
  case text.text =>
    cases hSame
    exact .text codes rfl rfl
  case bytes.bytes =>
    cases hSame
    exact .bytes content rfl rfl
  case number.number =>
    rw [hX, hY] at hSame
    have hNumeric : x.numeric? = y.numeric? ∧ (x.numeric? = none → a = b) := by
      cases hLeft : x.numeric? <;> cases hRight : y.numeric? <;> simp_all
    exact .number hNumeric.1 hNumeric.2 hHashX hHashY
  case text.bytes | bytes.text => cases hSame
  case text.number | bytes.number =>
    rw [hY] at hSame
    cases hNumber : y.numeric? <;> rw [hNumber] at hSame <;> cases hSame
  case number.text | number.bytes =>
    rw [hX] at hSame
    cases hNumber : x.numeric? <;> rw [hNumber] at hSame <;> cases hSame

/-- Scalars that are compared by the same have the same hash. -/
theorem scalarHash_congr {x y : Body} (hSame : x.scalar a = y.scalar b) :
    x.scalarHash a = y.scalarHash b := by
  rcases alike hSame with ⟨codes, rfl, rfl⟩ | ⟨content, rfl, rfl⟩ | ⟨hNumeric, hOne, hX, hY⟩
  · rfl
  · rfl
  · rw [hX, hY, hash?_congr hNumeric]
    cases hNone : x.numeric? with
    | none => rw [hOne hNone]
    | some number =>
      have hSome : (y.number?.bind (·.hash?)).isSome = true := by
        rw [hNumeric, numeric?] at hNone
        obtain ⟨value, hValue, hNumber⟩ := Option.bind_eq_some_iff.mp hNone
        rw [hValue]
        cases value <;> simp_all [Binary64.Value.numeric?, Binary64.Value.hash?]
      obtain ⟨hash, hHash⟩ := Option.isSome_iff_exists.mp hSome
      rw [hHash, Option.getD_some, Option.getD_some]

end Body

/-- What an item is, as far as comparison tells, in terms of what the items are that it holds. -/
inductive Shape (α : Type) where
  | scalar (scalar : Scalar)
  | tuple (items : List α)
  | frozen (elements : Set α)

/-- What items are that take up at most so many levels. -/
def Content : Nat → Type
  | 0 => Unit
  | depth + 1 => Shape (Content depth)

/-- Whether a table holds items, each under its hash, and no two that are the same. -/
structure SetTable.Gathers {α : Type} (isItem : Ref → Prop) (hash : Ref → Int) (content : Ref → α)
    (table : SetTable) : Prop where
  sound : table.Sound
  item : ∀ stored ref, (stored, ref) ∈ table.entries → isItem ref ∧ stored = hash ref
  distinct : (table.toList.map content).Nodup

namespace Heap

/-- Whether an object is there, is of a built-in type, and has no attributes of its own. -/
structure IsBuiltin (heap : Heap) (ref : Ref) : Prop where
  live : heap.isLive ref = true
  script : (heap.view ref).script = none
  attributes : (heap.view ref).attributes = []

def content (heap : Heap) : (depth : Nat) → Ref → Content depth
  | 0, _ => ()
  | depth + 1, ref =>
    match heap.body ref with
    | .tuple items => Shape.tuple (items.map (heap.content depth))
    | .frozenset table => Shape.frozen (fun content => content ∈ table.toList.map (heap.content depth))
    | body => Shape.scalar (body.scalar ref)

def hashAs (heap : Heap) : Nat → Ref → Int
  | 0, _ => 0
  | depth + 1, ref =>
    match heap.body ref with
    | .tuple items => tupleHash (items.map (heap.hashAs depth))
    | .frozenset table => setHash (table.entries.map (·.1))
    | body => body.scalarHash ref

/-- Whether a reference is to an item that takes up at most so many levels. -/
def IsItem (heap : Heap) : Nat → Ref → Prop
  | 0, _ => False
  | depth + 1, ref =>
    heap.IsBuiltin ref ∧
      match heap.body ref with
      | .tuple items => ∀ item ∈ items, heap.IsItem depth item
      | .frozenset table =>
        table.Gathers (heap.IsItem depth) (heap.hashAs depth) (heap.content depth)
      | body => body.isScalar = true

abbrev Gathers (heap : Heap) (depth : Nat) (table : SetTable) : Prop :=
  table.Gathers (heap.IsItem depth) (heap.hashAs depth) (heap.content depth)

inductive Form (heap : Heap) (depth : Nat) (ref : Ref) : Prop where
  | scalar (hScalar : (heap.body ref).isScalar = true)
    (hContent : heap.content (depth + 1) ref = Shape.scalar ((heap.body ref).scalar ref))
    (hHash : heap.hashAs (depth + 1) ref = (heap.body ref).scalarHash ref)
  | tuple (items : List Ref) (hBody : heap.body ref = .tuple items)
    (hItems : ∀ item ∈ items, heap.IsItem depth item)
    (hContent : heap.content (depth + 1) ref = Shape.tuple (items.map (heap.content depth)))
    (hHash : heap.hashAs (depth + 1) ref = tupleHash (items.map (heap.hashAs depth)))
  | frozen (table : SetTable) (hBody : heap.body ref = .frozenset table)
    (hGathers : heap.Gathers depth table)
    (hContent : heap.content (depth + 1) ref =
      Shape.frozen fun content => content ∈ table.toList.map (heap.content depth))
    (hHash : heap.hashAs (depth + 1) ref = setHash (table.entries.map (·.1)))

/-- An item has a form, whatever it is made of. -/
theorem IsItem.form (hItem : heap.IsItem (depth + 1) ref) : heap.Form depth ref := by
  obtain ⟨_, hBody⟩ := hItem
  cases hCase : heap.body ref with
  | tuple items =>
    rw [hCase] at hBody
    exact .tuple items hCase hBody (by rw [content, hCase]) (by rw [hashAs, hCase])
  | frozenset table =>
    rw [hCase] at hBody
    exact .frozen table hCase hBody (by rw [content, hCase]) (by rw [hashAs, hCase])
  | _ =>
    rw [hCase] at hBody
    exact .scalar (by rw [hCase]; exact hBody) (by rw [content, hCase]) (by rw [hashAs, hCase])

theorem IsItem.isBuiltin (hItem : heap.IsItem depth ref) : heap.IsBuiltin ref := by
  cases depth with
  | zero => exact hItem.elim
  | succ depth => exact hItem.1

end Heap

/-- The hash of a frozen set does not depend on the order of its elements. -/
theorem setHash_perm {hashes others : List Int} (hPerm : hashes.Perm others) :
    setHash hashes = setHash others := by
  have hMixed : hashes.foldl (fun mixed hash => mixed ^^^ spread (hashWord hash)) 0 =
      others.foldl (fun mixed hash => mixed ^^^ spread (hashWord hash)) 0 := by
    refine hPerm.foldl_eq' (fun first _ second _ mixed => ?_) 0
    rw [UInt64.xor_assoc, UInt64.xor_assoc, UInt64.xor_comm (spread (hashWord first))]
  rw [setHash, setHash, hMixed, hPerm.length_eq]

namespace SetTable

variable {α : Type} {isItem : Ref → Prop} {hash : Ref → Int} {content : Ref → α}

/-- Each element of a table of items is an item, and stored under its hash. -/
theorem Gathers.of_mem_toList (hGathers : table.Gathers isItem hash content)
    (hElement : ref ∈ table.toList) : isItem ref ∧ (hash ref, ref) ∈ table.entries := by
  obtain ⟨⟨stored, found⟩, hEntry, rfl⟩ := List.mem_map.mp hElement
  obtain ⟨hItem, rfl⟩ := hGathers.item stored found hEntry
  exact ⟨hItem, hEntry⟩

theorem Gathers.hashes_eq (hGathers : table.Gathers isItem hash content) :
    table.entries.map (·.1) = table.toList.map hash := by
  rw [toList, List.map_map]
  exact List.map_congr_left fun entry hEntry => (hGathers.item entry.1 entry.2 hEntry).2

end SetTable

namespace Heap

/-- Items that are the same have the same hash. -/
theorem hashAs_congr (hA : heap.IsItem depth a) (hB : heap.IsItem depth b)
    (hSame : heap.content depth a = heap.content depth b) : heap.hashAs depth a = heap.hashAs depth b := by
  induction depth generalizing a b with
  | zero => exact hA.elim
  | succ depth ih =>
    -- What items hold is hashed by its content only.
    obtain ⟨hashOf, hHashOf⟩ : ∃ hashOf : Content depth → Int,
        ∀ ref, heap.IsItem depth ref → hashOf (heap.content depth ref) = heap.hashAs depth ref := by
      classical
      refine ⟨fun content =>
        if hKnown : ∃ ref, heap.IsItem depth ref ∧ heap.content depth ref = content then
          heap.hashAs depth hKnown.choose else 0, fun ref hRef => ?_⟩
      have hKnown : ∃ other, heap.IsItem depth other ∧
          heap.content depth other = heap.content depth ref := ⟨ref, hRef, rfl⟩
      exact (dif_pos hKnown).trans (ih hKnown.choose_spec.1 hRef hKnown.choose_spec.2)
    have hHashes {items : List Ref} (hItems : ∀ item ∈ items, heap.IsItem depth item) :
        items.map (heap.hashAs depth) = (items.map (heap.content depth)).map hashOf := by
      rw [List.map_map]
      exact List.map_congr_left fun item hItem => (hHashOf item (hItems item hItem)).symm
    rcases hA.form with ⟨_, hX, hHashX⟩ | ⟨items, _, hItems, hX, hHashX⟩ | ⟨table, _, hTable, hX, hHashX⟩ <;>
      rcases hB.form with ⟨_, hY, hHashY⟩ | ⟨others, _, hOthers, hY, hHashY⟩ |
        ⟨other, _, hOther, hY, hHashY⟩ <;>
      rw [hX, hY] at hSame <;> rw [hHashX, hHashY]
    case scalar.scalar => exact Body.scalarHash_congr (Shape.scalar.inj hSame)
    case tuple.tuple => rw [hHashes hItems, hHashes hOthers, Shape.tuple.inj hSame]
    case frozen.frozen =>
      have hPerm : (table.toList.map (heap.content depth)).Perm
          (other.toList.map (heap.content depth)) :=
        (List.perm_ext_iff_of_nodup hTable.distinct hOther.distinct).mpr fun content =>
          iff_of_eq (congrFun (Shape.frozen.inj hSame) content)
      rw [hTable.hashes_eq, hOther.hashes_eq,
        hHashes fun item hItem => (hTable.of_mem_toList hItem).1,
        hHashes fun item hItem => (hOther.of_mem_toList hItem).1]
      exact setHash_perm (hPerm.map hashOf)
    all_goals cases hSame

/-- Whether the items among some references are in another heap what they are in this one. With an object
its references have to be among them. -/
structure Keeps (heap after : Heap) (among : Ref → Prop) : Prop where
  same : ∀ depth ref, heap.IsItem depth ref → among ref →
    after.view ref = heap.view ref ∧ after.isLive ref = true
  closed : ∀ depth ref, heap.IsItem depth ref → among ref →
    ∀ held ∈ (heap.body ref).references, among held

/-- Whether a reference is to an item that is the same in another heap. -/
structure Lasts (heap after : Heap) (depth : Nat) (ref : Ref) : Prop where
  item : after.IsItem depth ref
  content : after.content depth ref = heap.content depth ref
  hash : after.hashAs depth ref = heap.hashAs depth ref

/-- A gathering lasts with each of its elements. -/
theorem Gathers.lasts (hGathers : heap.Gathers depth table)
    (hLasts : ∀ ref ∈ table.toList, heap.Lasts after depth ref) :
    after.Gathers depth table ∧
      table.toList.map (after.content depth) = table.toList.map (heap.content depth) := by
  have hContents : table.toList.map (after.content depth) = table.toList.map (heap.content depth) :=
    List.map_congr_left fun ref hRef => (hLasts ref hRef).content
  refine ⟨⟨hGathers.sound, fun stored ref hEntry => ?_, hContents ▸ hGathers.distinct⟩, hContents⟩
  have hRef := hLasts ref (List.mem_map_of_mem hEntry)
  exact ⟨hRef.item, hRef.hash ▸ (hGathers.item stored ref hEntry).2⟩

/-- An item lasts in a heap that keeps what it is made of. -/
theorem IsItem.lasts {among : Ref → Prop} (hItem : heap.IsItem depth ref)
    (hKeeps : heap.Keeps after among) (hAmong : among ref) : heap.Lasts after depth ref := by
  induction depth generalizing ref with
  | zero => exact hItem.elim
  | succ depth ih =>
    obtain ⟨hView, hLive⟩ := hKeeps.same _ ref hItem hAmong
    have hHeld := hKeeps.closed _ ref hItem hAmong
    have hBody : after.body ref = heap.body ref := congrArg Object.body hView
    have hBuiltin : after.IsBuiltin ref :=
      ⟨hLive, hView ▸ hItem.isBuiltin.script, hView ▸ hItem.isBuiltin.attributes⟩
    cases hCase : heap.body ref with
    | tuple items =>
      have hItems : ∀ item ∈ items, heap.Lasts after depth item := by
        have hOld := hItem.2
        rw [hCase] at hOld hHeld
        exact fun item hIn => ih (hOld item hIn) (hHeld item (List.mem_reverse.mpr hIn))
      refine ⟨⟨hBuiltin, ?_⟩, ?_, ?_⟩
      · rw [hBody, hCase]
        exact fun item hIn => (hItems item hIn).item
      · simp only [content, hBody, hCase]
        exact congrArg Shape.tuple (List.map_congr_left fun item hIn => (hItems item hIn).content)
      · simp only [hashAs, hBody, hCase]
        exact congrArg tupleHash (List.map_congr_left fun item hIn => (hItems item hIn).hash)
    | frozenset table =>
      have hOld := hItem.2
      rw [hCase] at hOld hHeld
      have hElements : ∀ element ∈ table.toList, heap.Lasts after depth element :=
        fun element hIn => ih (hOld.of_mem_toList hIn).1 (hHeld element hIn)
      obtain ⟨hGathers, hContents⟩ := Gathers.lasts hOld hElements
      refine ⟨⟨hBuiltin, ?_⟩, ?_, ?_⟩
      · rw [hBody, hCase]
        exact hGathers
      · simp only [content, hBody, hCase, hContents]
        rfl
      · simp only [hashAs, hBody, hCase]
    | _ =>
      have hOld := hItem.2
      rw [hCase] at hOld
      refine ⟨⟨hBuiltin, ?_⟩, ?_, ?_⟩
      · rw [hBody, hCase]
        exact hOld
      · simp only [content, hBody, hCase]
        rfl
      · simp only [hashAs, hBody, hCase]

end Heap

end HeapBridge.Host
