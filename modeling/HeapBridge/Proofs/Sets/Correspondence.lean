import HeapBridge.Proofs.Sets.Tables
/-!
Tables that correspond. Two tables correspond if they have the same slots, with elements under the same hashes
that are related. Where an element is looked for, put in, taken out or comes next hangs on the hashes and on
what is answered about the elements only, so tables that correspond do so after every operation.
-/
namespace HeapBridge.Host

variable {related others : Ref → Ref → Prop}

/-- Slots that are the same but for their elements, which are related. -/
inductive SetSlot.Corresponds (related : Ref → Ref → Prop) : SetSlot → SetSlot → Prop where
  | vacant : Corresponds related .vacant .vacant
  | removed : Corresponds related .removed .removed
  | element (hash : Int) {ref other : Ref} (hRelated : related ref other) :
    Corresponds related (.element hash ref) (.element hash other)

theorem SetSlot.Corresponds.isVacant_eq {slot copy : SetSlot} (hSlot : slot.Corresponds related copy) :
    copy.isVacant = slot.isVacant := by
  cases hSlot <;> rfl

namespace SetTable

variable {slots copies : Array SetSlot} {table copy : SetTable} {new fresh : SetSlot} {hash : Int}
  {ref other : Ref} {index position : Nat} {probe : Probe} {reusable : Option Nat}

structure SlotsCorrespond (related : Ref → Ref → Prop) (slots copies : Array SetSlot) : Prop where
  size : copies.size = slots.size
  slot : ∀ index, (slotAt slots index).Corresponds related (slotAt copies index)

def EntriesCorrespond (related : Ref → Ref → Prop) (entry copy : Int × Ref) : Prop :=
  entry.1 = copy.1 ∧ related entry.2 copy.2

namespace SlotsCorrespond

/-- Writing related elements to one place keeps slots corresponding. -/
theorem set (hSlots : SlotsCorrespond related slots copies) (hNew : new.Corresponds related fresh) (index : Nat) :
    SlotsCorrespond related (slots.setIfInBounds index new) (copies.setIfInBounds index fresh) where
  size := by simp only [Array.size_setIfInBounds, hSlots.size]
  slot other := by
    rw [slotAt_setIfInBounds, slotAt_setIfInBounds, hSlots.size]
    split
    · exact hNew
    · exact hSlots.slot other

theorem forall₂ (hSlots : SlotsCorrespond related slots copies) :
    List.Forall₂ (SetSlot.Corresponds related) slots.toList copies.toList := by
  refine List.forall₂_iff_get.mpr ⟨by simp [hSlots.size], fun index hIndex hCopy => ?_⟩
  have hSlot := hSlots.slot index
  rw [Array.length_toList] at hIndex hCopy
  simpa [slotAt, Array.getD, hIndex, hCopy] using hSlot

theorem fillOf_eq (hSlots : SlotsCorrespond related slots copies) : fillOf copies = fillOf slots := by
  have hRows := hSlots.forall₂
  rw [fillOf, fillOf, ← Array.countP_toList, ← Array.countP_toList]
  generalize slots.toList = row, copies.toList = other at hRows ⊢
  induction hRows with
  | nil => rfl
  | cons hSlot _ ih => rw [List.countP_cons, List.countP_cons, hSlot.isVacant_eq, ih]

/-- Tables that correspond have entries that correspond. -/
theorem entries (hSlots : SlotsCorrespond related slots copies) :
    List.Forall₂ (EntriesCorrespond related) (entriesOf slots) (entriesOf copies) := by
  have hRows := hSlots.forall₂
  rw [entriesOf, entriesOf]
  generalize slots.toList = row, copies.toList = other at hRows ⊢
  induction hRows with
  | nil => exact .nil
  | cons hSlot _ ih =>
    cases hSlot with
    | element hash hRelated => exact .cons ⟨rfl, hRelated⟩ ih
    | _ => exact ih

theorem vacant (size : Nat) : SlotsCorrespond related (SetTable.vacant size) (SetTable.vacant size) where
  size := rfl
  slot index := by
    have hVacant : slotAt (SetTable.vacant size) index = .vacant := by
      simp only [slotAt, SetTable.vacant, Array.getD_eq_getD_getElem?, Array.getElem?_replicate]
      split <;> rfl
    rw [hVacant]
    exact .vacant

/-- Vacancies do not depend on the elements. -/
theorem vacancyWithin_eq (hSlots : SlotsCorrespond related slots copies) (steps : Nat) (probe : Probe) :
    vacancyWithin copies steps probe = vacancyWithin slots steps probe := by
  induction steps generalizing probe with
  | zero => rfl
  | succ steps ih =>
    have hSame : (copies.getD probe.index .vacant).isVacant = (slots.getD probe.index .vacant).isVacant :=
      (hSlots.slot probe.index).isVacant_eq
    rw [vacancyWithin, vacancyWithin, hSame, hSlots.size, ih]

theorem placeFresh {entry copy : Int × Ref} (hSlots : SlotsCorrespond related slots copies)
    (hEntry : EntriesCorrespond related entry copy) :
    SlotsCorrespond related (SetTable.placeFresh slots entry) (SetTable.placeFresh copies copy) := by
  obtain ⟨hash, ref⟩ := entry
  obtain ⟨_, other⟩ := copy
  obtain ⟨rfl, hRelated⟩ := hEntry
  rw [SetTable.placeFresh, SetTable.placeFresh, hSlots.vacancyWithin_eq, hSlots.size]
  exact hSlots.set (.element hash hRelated) _

theorem foldl_placeFresh {entries copied : List (Int × Ref)} (hSlots : SlotsCorrespond related slots copies)
    (hEntries : List.Forall₂ (EntriesCorrespond related) entries copied) :
    SlotsCorrespond related (entries.foldl SetTable.placeFresh slots)
      (copied.foldl SetTable.placeFresh copies) := by
  induction hEntries generalizing slots copies with
  | nil => exact hSlots
  | cons hEntry _ ih => exact ih (hSlots.placeFresh hEntry)

end SlotsCorrespond

structure Corresponds (related : Ref → Ref → Prop) (table copy : SetTable) : Prop where
  slots : SlotsCorrespond related table.slots copy.slots
  finger : copy.finger = table.finger
  epoch : copy.epoch = table.epoch

/-- What two searches come to, if it corresponds. -/
inductive Sighting.Corresponds (related : Ref → Ref → Prop) : Sighting → Sighting → Prop where
  | free (index : Nat) (reusable : Option Nat) : Corresponds related (.free index reusable) (.free index reusable)
  | candidate (index : Nat) {ref other : Ref} (hRelated : related ref other) (rest : Probe)
    (reusable : Option Nat) :
    Corresponds related (.candidate index ref rest reusable) (.candidate index other rest reusable)

inductive Step.Corresponds (related : Ref → Ref → Prop) : Step → Step → Prop where
  | changed : Corresponds related .changed .changed
  | exhausted : Corresponds related .exhausted .exhausted
  | element (position : Nat) {ref other : Ref} (hRelated : related ref other) :
    Corresponds related (.element position ref) (.element position other)

namespace Corresponds

theorem size_eq (hTable : table.Corresponds related copy) : copy.size = table.size := by
  rw [← length_entries, ← length_entries]
  exact hTable.slots.entries.length_eq.symm

theorem toList (hTable : table.Corresponds related copy) : List.Forall₂ related table.toList copy.toList := by
  rw [SetTable.toList, SetTable.toList, List.forall₂_map_left_iff, List.forall₂_map_right_iff]
  exact hTable.slots.entries.imp fun _ _ hEntry => hEntry.2

/-- Elements that are related in one way may be related in another one, too. -/
theorem mono (hTable : table.Corresponds related copy)
    (hRelated : ∀ ref ∈ table.toList, ∀ other ∈ copy.toList, related ref other → others ref other) :
    table.Corresponds others copy where
  slots := by
    refine ⟨hTable.slots.size, fun index => ?_⟩
    have hSlot := hTable.slots.slot index
    cases hFirst : slotAt table.slots index <;> cases hSecond : slotAt copy.slots index <;>
      rw [hFirst, hSecond] at hSlot <;> cases hSlot
    · exact .vacant
    · exact .removed
    next hElements =>
      exact .element _ (hRelated _ (List.mem_map_of_mem (mem_entries_of_slot hFirst)) _
        (List.mem_map_of_mem (mem_entries_of_slot hSecond)) hElements)
  finger := hTable.finger
  epoch := hTable.epoch

/-- A table corresponds to itself if its elements are related to themselves. -/
theorem refl (hRelated : ∀ ref ∈ table.toList, related ref ref) : table.Corresponds related table where
  slots := by
    refine ⟨rfl, fun index => ?_⟩
    cases hSlot : slotAt table.slots index with
    | vacant => exact .vacant
    | removed => exact .removed
    | element hash ref => exact .element hash (hRelated ref (List.mem_map_of_mem (mem_entries_of_slot hSlot)))
  finger := rfl
  epoch := rfl

theorem eraseAt (hTable : table.Corresponds related copy) (index : Nat) :
    (table.eraseAt index).Corresponds related (copy.eraseAt index) where
  slots := hTable.slots.set .removed index
  finger := hTable.finger
  epoch := hTable.epoch

theorem cleared (hTable : table.Corresponds related copy) : table.cleared.Corresponds related copy.cleared where
  slots := .vacant minSize
  finger := hTable.finger
  epoch := by rw [SetTable.cleared, SetTable.cleared, hTable.slots.size, hTable.epoch]

/-- Resizing goes by the hashes alone. -/
theorem resize (hTable : table.Corresponds related copy) (least : Nat) :
    (table.resize least).Corresponds related (copy.resize least) := by
  have hFill : copy.fill = table.fill := hTable.slots.fillOf_eq
  unfold SetTable.resize
  rw [hTable.slots.size, hFill, hTable.size_eq, hTable.epoch]
  dsimp only
  split
  · exact hTable
  · exact ⟨(SlotsCorrespond.vacant _).foldl_placeFresh hTable.slots.entries, hTable.finger, rfl⟩

/-- So does putting an entry in its place. -/
theorem put (hTable : table.Corresponds related copy) (hRelated : related ref other) (hash : Int) (index : Nat)
    (reusable : Option Nat) :
    (table.put hash ref index reusable).Corresponds related (copy.put hash other index reusable) := by
  have hPut (place : Nat) : ({ table with slots := table.slots.setIfInBounds place (.element hash ref) } :
      SetTable).Corresponds related
        { copy with slots := copy.slots.setIfInBounds place (.element hash other) } :=
    ⟨hTable.slots.set (.element hash hRelated) place, hTable.finger, hTable.epoch⟩
  cases reusable with
  | some place => exact hPut place
  | none =>
    have hFill : ({ copy with slots := copy.slots.setIfInBounds index (.element hash other) } : SetTable).fill =
        ({ table with slots := table.slots.setIfInBounds index (.element hash ref) } : SetTable).fill :=
      (hPut index).slots.fillOf_eq
    simp only [SetTable.put, hFill, (hPut index).slots.size, (hPut index).size_eq]
    split
    · exact hPut index
    · exact (hPut index).resize _

theorem slot (hTable : table.Corresponds related copy) (index : Nat) :
    (table.slot index).Corresponds related (copy.slot index) := hTable.slots.slot index

/-- Two searches go the same way as long as each entry they pass corresponds to the other. -/
theorem seek (hTable : table.Corresponds related copy) (hash : Int) (probe : Probe) (reusable : Option Nat) :
    (table.seek hash probe reusable).Corresponds related (copy.seek hash probe reusable) := by
  have hReach : copy.reach = table.reach := by rw [reach, reach, hTable.slots.size]
  rw [SetTable.seek, SetTable.seek, hReach]
  generalize table.reach = steps
  induction steps generalizing probe reusable with
  | zero => exact .free _ _
  | succ steps ih =>
    have hSlot := hTable.slot probe.index
    rw [seekWithin, seekWithin, hTable.slots.size]
    generalize table.slot probe.index = first, copy.slot probe.index = second at hSlot ⊢
    cases hSlot with
    | vacant => exact .free _ _
    | removed => exact ih _ _
    | element stored hRelated =>
      dsimp only
      split
      · exact .candidate _ hRelated _ _
      · exact ih _ _

theorem start_eq (hTable : table.Corresponds related copy) (hash : Int) : copy.start hash = table.start hash := by
  rw [SetTable.start, SetTable.start, hTable.slots.size]

theorem reach_eq (hTable : table.Corresponds related copy) : copy.reach = table.reach := by
  rw [reach, reach, hTable.slots.size]

/-- Steps of an iteration come to the same place. -/
theorem step (hTable : table.Corresponds related copy) (position size : Nat) (broken : Bool) :
    (table.step position size broken).Corresponds related (copy.step position size broken) := by
  have hFirst (count index : Nat) :
      Option.Rel (fun entry copied => entry.1 = copied.1 ∧ EntriesCorrespond related entry.2 copied.2)
        (table.firstWithin count index) (copy.firstWithin count index) := by
    induction count generalizing index with
    | zero => exact .none
    | succ count ih =>
      have hSlot := hTable.slot index
      rw [firstWithin, firstWithin]
      generalize table.slot index = first, copy.slot index = second at hSlot ⊢
      cases hSlot with
      | element hash hRelated => exact .some ⟨rfl, rfl, hRelated⟩
      | _ => exact ih _
  have hFrom := hFirst (table.slots.size - position) position
  rw [SetTable.step, SetTable.step, hTable.size_eq, from?, from?, hTable.slots.size]
  split
  · exact .changed
  · generalize table.firstWithin _ position = first, copy.firstWithin _ position = second at hFrom ⊢
    cases hFrom with
    | none => exact .exhausted
    | @some entry other hEntry =>
      obtain ⟨index, hash, ref⟩ := entry
      obtain ⟨_, _, second⟩ := other
      obtain ⟨rfl, _, hRelated⟩ := hEntry
      exact .element _ hRelated

end Corresponds

end SetTable

end HeapBridge.Host
