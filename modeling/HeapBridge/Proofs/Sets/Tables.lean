import HeapBridge.Host.SetObject
import HeapBridge.Proofs.Sets.Probing
/-!
Tables of sets keep their elements within reach of searches. Each element lies on the probe sequence of its
hash behind slots none of which is vacant, and there is always a vacant slot; so a search comes across
every element under its hash before it ends. Putting elements in, taking them out and moving to another
table keep it so.
-/
namespace HeapBridge.Host.SetTable

variable {slots : Array SetSlot} {table : SetTable} {hash : Int} {ref : Ref} {index bits : Nat}
  {reusable : Option Nat}

def slotAt (slots : Array SetSlot) (index : Nat) : SetSlot := slots.getD index .vacant

def path (slots : Array SetSlot) (hash : Int) (steps : Nat) : Nat :=
  (Probe.after hash slots.size steps).index

/-- Whether a search comes to a slot after so many steps, and does not end before. -/
structure Leads (slots : Array SetSlot) (hash : Int) (steps index : Nat) : Prop where
  path : path slots hash steps = index
  taken : ∀ earlier < steps, (slotAt slots (SetTable.path slots hash earlier)).isVacant = false

/-- Whether each element is found by a search for its hash. -/
def Reaches (slots : Array SetSlot) : Prop :=
  ∀ index hash ref, slotAt slots index = .element hash ref → ∃ steps, Leads slots hash steps index

/-- Writing to one place is seen in that place only. -/
theorem slotAt_setIfInBounds (slots : Array SetSlot) (index other : Nat) (new : SetSlot) :
    slotAt (slots.setIfInBounds index new) other =
      if index = other ∧ index < slots.size then new else slotAt slots other := by
  unfold slotAt
  rw [Array.getD_eq_getD_getElem?, Array.getD_eq_getD_getElem?, Array.getElem?_setIfInBounds]
  split
  next hSame =>
    subst hSame
    split
    next hIn => simp [hIn]
    next hOut => simp [hOut]
  next hOther => simp [hOther]

theorem path_setIfInBounds (slots : Array SetSlot) (new : SetSlot) (hash : Int) (index steps : Nat) :
    path (slots.setIfInBounds index new) hash steps = path slots hash steps := by
  rw [path, path, Array.size_setIfInBounds]

/-- A slot that is not vacated leaves all searches as far as they came. -/
theorem Leads.set {steps target : Nat} {new : SetSlot} (hLeads : Leads slots hash steps target)
    (hNew : new.isVacant = false) (index : Nat) :
    Leads (slots.setIfInBounds index new) hash steps target where
  path := (path_setIfInBounds ..).trans hLeads.path
  taken earlier hEarlier := by
    rw [path_setIfInBounds, slotAt_setIfInBounds]
    split
    next => exact hNew
    next => exact hLeads.taken earlier hEarlier

/-- An entry that a path leads to keeps the table reachable. -/
theorem Reaches.set {new : SetSlot} (hReaches : Reaches slots) (hNew : new.isVacant = false)
    (hLeads : ∀ hash ref, new = .element hash ref → ∃ steps, Leads slots hash steps index) :
    Reaches (slots.setIfInBounds index new) := by
  intro other hash ref hElement
  rw [slotAt_setIfInBounds] at hElement
  split at hElement
  next hSame =>
    obtain ⟨steps, hSteps⟩ := hLeads hash ref hElement
    exact ⟨steps, hSame.1 ▸ hSteps.set hNew index⟩
  next =>
    obtain ⟨steps, hSteps⟩ := hReaches other hash ref hElement
    exact ⟨steps, hSteps.set hNew index⟩

/-! The elements of slots one of which is replaced. -/

def entriesOf (slots : Array SetSlot) : List (Int × Ref) := slots.toList.filterMap (·.element?)

/-- The number of slots that are or were taken. -/
def fillOf (slots : Array SetSlot) : Nat := slots.countP fun slot => !slot.isVacant

/-- Writing to a place trades one content for another. -/
theorem exists_others (hIndex : index < slots.size) (new : SetSlot) :
    ∃ others, slots.toList.Perm (slotAt slots index :: others) ∧
      (slots.setIfInBounds index new).toList.Perm (new :: others) := by
  have hLength : index < slots.toList.length := hIndex
  have hSlot : slotAt slots index = slots.toList[index] := by
    rw [slotAt, Array.getD_eq_getD_getElem?, Array.getElem?_eq_getElem hIndex, Option.getD_some,
      Array.getElem_toList]
  refine ⟨slots.toList.eraseIdx index, ?_, ?_⟩
  · rw [hSlot]
    exact (List.getElem_cons_eraseIdx_perm hLength).symm
  · rw [Array.toList_setIfInBounds]
    exact List.set_perm_cons_eraseIdx hLength new

/-- Putting an entry in a free place adds it. -/
theorem entriesOf_put (hIndex : index < slots.size) (hFree : (slotAt slots index).element? = none)
    (hash : Int) (ref : Ref) :
    (entriesOf (slots.setIfInBounds index (.element hash ref))).Perm
      ((hash, ref) :: entriesOf slots) := by
  obtain ⟨others, hOld, hNew⟩ := exists_others hIndex (.element hash ref)
  have hBefore : (entriesOf slots).Perm (others.filterMap (·.element?)) := by
    have hPerm := hOld.filterMap SetSlot.element?
    rwa [List.filterMap_cons_none hFree] at hPerm
  have hAfter : (entriesOf (slots.setIfInBounds index (.element hash ref))).Perm
      ((hash, ref) :: others.filterMap (·.element?)) := hNew.filterMap SetSlot.element?
  exact hAfter.trans (hBefore.symm.cons _)

/-- Erasing a place takes its entry out. -/
theorem entriesOf_erase (hIndex : index < slots.size)
    (hElement : slotAt slots index = .element hash ref) :
    (entriesOf slots).Perm ((hash, ref) :: entriesOf (slots.setIfInBounds index .removed)) := by
  obtain ⟨others, hOld, hNew⟩ := exists_others hIndex .removed
  rw [hElement] at hOld
  have hBefore : (entriesOf slots).Perm ((hash, ref) :: others.filterMap (·.element?)) :=
    hOld.filterMap SetSlot.element?
  have hAfter : (entriesOf (slots.setIfInBounds index .removed)).Perm
      (others.filterMap (·.element?)) := hNew.filterMap SetSlot.element?
  exact hBefore.trans (hAfter.symm.cons _)

/-- A place counts as taken once. -/
theorem fillOf_set (hIndex : index < slots.size) {new : SetSlot} (hNew : new.isVacant = false) :
    fillOf (slots.setIfInBounds index new) =
      if (slotAt slots index).isVacant then fillOf slots + 1 else fillOf slots := by
  obtain ⟨others, hOld, hAfter⟩ := exists_others hIndex new
  unfold fillOf
  rw [← Array.countP_toList, ← Array.countP_toList, hOld.countP_eq, hAfter.countP_eq]
  cases hVacant : (slotAt slots index).isVacant <;> simp [hNew, hVacant]

/-! Searches. -/

/-- In a table with a vacant slot a search ends, and soon enough. -/
theorem exists_vacancy (hSize : slots.size = 2 ^ bits) (hRoom : fillOf slots < slots.size)
    (hash : Int) : ∃ steps < 10 * slots.size + 130,
      Leads slots hash steps (path slots hash steps) ∧
        (slotAt slots (path slots hash steps)).isVacant = true := by
  have hVacant : ∃ slot ∈ slots.toList, slot.isVacant = true := by
    by_contra hNone
    have hAll : fillOf slots = slots.size := by
      unfold fillOf
      rw [← Array.countP_toList, ← Array.length_toList, List.countP_eq_length]
      exact fun slot hSlot => by simpa using fun hVacant => hNone ⟨slot, hSlot, hVacant⟩
    exact hRoom.ne hAll
  obtain ⟨slot, hSlot, hIsVacant⟩ := hVacant
  obtain ⟨index, hIndex, rfl⟩ := List.getElem_of_mem hSlot
  rw [Array.length_toList] at hIndex
  obtain ⟨steps, hSteps, hPath⟩ := Probe.exists_index hash (hSize ▸ hIndex)
  rw [← hSize] at hSteps hPath
  have hFound : (slotAt slots (path slots hash steps)).isVacant = true := by
    rw [path, hPath, slotAt, Array.getD_eq_getD_getElem?, Array.getElem?_eq_getElem hIndex]
    simpa using hIsVacant
  have hExists : ∃ steps, (slotAt slots (path slots hash steps)).isVacant = true := ⟨steps, hFound⟩
  refine ⟨Nat.find hExists, (Nat.find_le hFound).trans_lt hSteps, ⟨rfl, ?_⟩, Nat.find_spec hExists⟩
  exact fun earlier hEarlier => by simpa using Nat.find_min hExists hEarlier

/-- The path to an element comes before the path ends. -/
theorem Leads.lt_of_element {steps last : Nat} (hLeads : Leads slots hash steps index)
    (hElement : (slotAt slots index).isVacant = false)
    (hLast : (slotAt slots (SetTable.path slots hash last)).isVacant = true) : steps < last := by
  by_contra hNot
  rcases Nat.lt_or_eq_of_le (Nat.le_of_not_lt hNot) with hBefore | rfl
  · exact absurd ((hLeads.taken last hBefore).symm.trans hLast) Bool.false_ne_true
  · rw [hLeads.path, hElement] at hLast
    cases hLast

/-- Whether a search comes across no element under its hash from a step up to another one. -/
def Passes (slots : Array SetSlot) (hash : Int) (first last : Nat) : Prop :=
  ∀ steps, first ≤ steps → steps < last → ∀ ref,
    slotAt slots (path slots hash steps) ≠ .element hash ref

/-- Whether a slot, if one was noted, was come across by a search and may be used again. -/
def Reusable (slots : Array SetSlot) (hash : Int) (last : Nat) (reusable : Option Nat) : Prop :=
  ∀ index, reusable = some index →
    ∃ steps < last, path slots hash steps = index ∧ slotAt slots index = .removed

theorem Passes.refl (slots : Array SetSlot) (hash : Int) (first : Nat) :
    Passes slots hash first first :=
  fun _ hFirst hLast => absurd hLast (Nat.not_lt.mpr hFirst)

theorem Passes.cons {first last : Nat} (hPasses : Passes slots hash (first + 1) last)
    (hFirst : ∀ ref, slotAt slots (path slots hash first) ≠ .element hash ref) :
    Passes slots hash first last := by
  intro steps hFrom hLast
  rcases Nat.eq_or_lt_of_le hFrom with rfl | hLater
  · exact hFirst
  · exact hPasses steps hLater hLast

/-- What a search from a step on comes to if the first vacant slot is the one after `last` steps. -/
inductive Sees (slots : Array SetSlot) (hash : Int) (first last : Nat) : Sighting → Prop where
  | free {reusable : Option Nat} (passes : Passes slots hash first last)
    (hReusable : Reusable slots hash last reusable) :
    Sees slots hash first last (.free (path slots hash last) reusable)
  | candidate {found : Nat} {ref : Ref} {reusable : Option Nat} (hFirst : first ≤ found)
    (hLast : found < last) (hElement : slotAt slots (path slots hash found) = .element hash ref)
    (passes : Passes slots hash first found) (hReusable : Reusable slots hash last reusable) :
    Sees slots hash first last (.candidate (path slots hash found) ref
      (Probe.after hash slots.size (found + 1)) reusable)

theorem Sees.cons {first last : Nat} {sighting : Sighting}
    (hSees : Sees slots hash (first + 1) last sighting)
    (hFirst : ∀ ref, slotAt slots (path slots hash first) ≠ .element hash ref) :
    Sees slots hash first last sighting := by
  cases hSees with
  | free passes hReusable => exact .free (passes.cons hFirst) hReusable
  | candidate hFound hLast hElement passes hReusable =>
    exact .candidate (Nat.le_of_succ_le hFound) hLast hElement (passes.cons hFirst) hReusable

/-- The search for a place sees what its path leads past. -/
theorem sees_seekWithin {first last fuel : Nat} (hFuel : last < first + fuel) (hFirst : first ≤ last)
    (hLast : Leads table.slots hash last (path table.slots hash last))
    (hVacant : (slotAt table.slots (path table.slots hash last)).isVacant = true)
    (hReusable : Reusable table.slots hash last reusable) :
    Sees table.slots hash first last
      (table.seekWithin hash fuel (Probe.after hash table.slots.size first) reusable) := by
  induction fuel generalizing first reusable with
  | zero => omega
  | succ fuel ih =>
    have hSlot : table.slot (Probe.after hash table.slots.size first).index =
      slotAt table.slots (path table.slots hash first) := rfl
    have hNext : (Probe.after hash table.slots.size first).next table.slots.size =
      Probe.after hash table.slots.size (first + 1) := (Probe.after_succ ..).symm
    have hBefore (hTaken : (slotAt table.slots (path table.slots hash first)).isVacant = false) :
        first < last := by
      refine Nat.lt_of_le_of_ne hFirst ?_
      rintro rfl
      exact absurd (hTaken.symm.trans hVacant) Bool.false_ne_true
    rw [seekWithin, hSlot, hNext]
    cases hFound : slotAt table.slots (path table.slots hash first) with
    | vacant =>
      obtain rfl : first = last := by
        refine Nat.le_antisymm hFirst (Nat.le_of_not_lt fun hBefore => ?_)
        have hTaken := hLast.taken first hBefore
        rw [hFound] at hTaken
        cases hTaken
      exact .free (Passes.refl _ _ _) hReusable
    | removed =>
      have hLess := hBefore (hFound ▸ rfl)
      have hReuse : Reusable table.slots hash last
          (some (Probe.after hash table.slots.size first).index) := by
        rintro index hIndex
        obtain rfl := Option.some.inj hIndex
        exact ⟨first, hLess, rfl, hFound⟩
      exact (ih (by omega) hLess hReuse).cons fun ref hElement => by
        rw [hFound] at hElement
        cases hElement
    | element stored ref =>
      have hLess := hBefore (hFound ▸ rfl)
      dsimp only
      split
      next hStored =>
        exact .candidate (Nat.le_refl _) hLess (hStored ▸ hFound) (Passes.refl _ _ _) hReusable
      next hOther =>
        exact (ih (by omega) hLess hReusable).cons fun ref hElement => by
          rw [hFound] at hElement
          cases hElement
          exact hOther rfl

open SetObject (Place)

/-- Looks for an element that passes a test among those under a hash. -/
def search (table : SetTable) (hash : Int) (isSame : Ref → Bool) :
    Nat → Probe → Option Nat → Place
  | 0, probe, reusable => .free probe.index reusable
  | steps + 1, probe, reusable =>
    match table.seek hash probe reusable with
    | .free index reusable => .free index reusable
    | .candidate index ref rest reusable =>
      if isSame ref then .stored index else search table hash isSame steps rest reusable

/-- What a search comes to. -/
inductive Finds (table : SetTable) (hash : Int) (isSame : Ref → Bool) (first last : Nat) :
    Place → Prop where
  | stored {index : Nat} {ref : Ref} (hElement : slotAt table.slots index = .element hash ref)
    (hSame : isSame ref = true) : Finds table hash isSame first last (.stored index)
  | free {reusable : Option Nat}
    (hNone : ∀ steps, first ≤ steps → steps < last → ∀ ref,
      slotAt table.slots (path table.slots hash steps) = .element hash ref → isSame ref = false)
    (hReusable : Reusable table.slots hash last reusable) :
    Finds table hash isSame first last (.free (path table.slots hash last) reusable)

/-- The search for an element finds it if it is there, and a vacant place else. -/
theorem finds_search {isSame : Ref → Bool} {first last fuel : Nat} (hFuel : last < first + fuel)
    (hReach : last < table.reach) (hFirst : first ≤ last)
    (hLast : Leads table.slots hash last (path table.slots hash last))
    (hVacant : (slotAt table.slots (path table.slots hash last)).isVacant = true)
    (hReusable : Reusable table.slots hash last reusable) :
    Finds table hash isSame first last
      (table.search hash isSame fuel (Probe.after hash table.slots.size first) reusable) := by
  induction fuel generalizing first reusable with
  | zero => omega
  | succ fuel ih =>
    have hSees : Sees table.slots hash first last
        (table.seek hash (Probe.after hash table.slots.size first) reusable) :=
      sees_seekWithin (by omega) hFirst hLast hVacant hReusable
    rw [search]
    revert hSees
    generalize table.seek hash _ reusable = sighting
    intro hSees
    cases hSees with
    | free passes hReusable =>
      refine .free (fun steps hFrom hBefore ref hElement => ?_) hReusable
      exact absurd hElement (passes steps hFrom hBefore ref)
    | @candidate found ref reusable hFound hBefore hElement passes hReusable =>
      dsimp only
      split
      next hSame => exact .stored hElement hSame
      next hOther =>
        have hRest : Finds table hash isSame (found + 1) last (table.search hash isSame fuel
            (Probe.after hash table.slots.size (found + 1)) reusable) :=
          ih (by omega) hBefore hReusable
        revert hRest
        generalize table.search hash isSame fuel _ _ = place
        intro hRest
        cases hRest with
        | stored hElement hSame => exact .stored hElement hSame
        | free hNone hReusable =>
          refine .free (fun steps hFrom hLess other hOtherElement => ?_) hReusable
          rcases Nat.lt_trichotomy steps found with hEarlier | rfl | hLater
          · exact absurd hOtherElement (passes steps hFrom hEarlier other)
          · obtain rfl : ref = other := by
              rw [hElement] at hOtherElement
              cases hOtherElement
              rfl
            simpa using hOther
          · exact hNone steps hLater hLess other hOtherElement

/-- Whether searches in a table come across its elements, and end. -/
structure Sound (table : SetTable) : Prop where
  size : ∃ bits, table.slots.size = 2 ^ bits
  /-- A table never gets full. -/
  load : table.fill * 5 < (table.slots.size - 1) * 3
  reaches : Reaches table.slots

/-- Whether an element may be put into a slot, or into another one that was come across before. -/
structure Placeable (table : SetTable) (hash : Int) (index : Nat) (reusable : Option Nat) : Prop where
  vacant : (slotAt table.slots index).isVacant = true
  leads : ∃ last, Leads table.slots hash last index ∧ Reusable table.slots hash last reusable

/-- Entries are what stands in some place. -/
theorem mem_entriesOf : (hash, ref) ∈ entriesOf slots ↔
    ∃ index < slots.size, slotAt slots index = .element hash ref := by
  have hElement (slot : SetSlot) : slot.element? = some (hash, ref) ↔ slot = .element hash ref := by
    cases slot <;> simp [SetSlot.element?]
  simp only [entriesOf, List.mem_filterMap, hElement, exists_eq_right]
  constructor
  · intro hSlot
    obtain ⟨index, hIndex, hSlot⟩ := List.getElem_of_mem hSlot
    rw [Array.length_toList] at hIndex
    refine ⟨index, hIndex, ?_⟩
    rw [slotAt, Array.getD_eq_getD_getElem?, Array.getElem?_eq_getElem hIndex]
    exact hSlot
  · rintro ⟨index, hIndex, hSlot⟩
    rw [slotAt, Array.getD_eq_getD_getElem?, Array.getElem?_eq_getElem hIndex] at hSlot
    exact Array.mem_toList_iff.mpr (Array.mem_of_getElem hSlot)

theorem length_entries (table : SetTable) : table.entries.length = table.size := by
  rw [entries, List.length_filterMap_eq_countP, size, Array.countP_toList]

/-- The elements with their hashes from a slot on. -/
def entriesFrom (table : SetTable) (position : Nat) : List (Int × Ref) :=
  (table.slots.toList.drop position).filterMap (·.element?)

@[simp] theorem entriesFrom_zero (table : SetTable) : table.entriesFrom 0 = table.entries := rfl

/-- What is found from a slot on is the first of the elements there. -/
theorem entriesFrom_eq (table : SetTable) (position : Nat) :
    table.entriesFrom position = match table.from? position with
      | some (found, entry) => entry :: table.entriesFrom (found + 1)
      | none => [] := by
  unfold from?
  generalize hCount : table.slots.size - position = count
  induction count generalizing position with
  | zero =>
    have hOut : table.slots.toList.length ≤ position := by
      rw [Array.length_toList]
      omega
    rw [firstWithin, entriesFrom, List.drop_eq_nil_of_le hOut]
    rfl
  | succ count ih =>
    have hIn : position < table.slots.toList.length := by
      rw [Array.length_toList]
      omega
    have hSlot : table.slot position = table.slots.toList[position] := by
      rw [Array.length_toList] at hIn
      rw [slot, Array.getD_eq_getD_getElem?, Array.getElem?_eq_getElem hIn, Option.getD_some,
        Array.getElem_toList]
    rw [firstWithin, entriesFrom, List.drop_eq_getElem_cons hIn, ← hSlot, List.filterMap_cons]
    cases (table.slot position).element? with
    | some entry => rfl
    | none => exact ih (position + 1) (by omega)

theorem mem_entries_of_slot (hElement : table.slot index = .element hash ref) :
    (hash, ref) ∈ table.entries := by
  refine mem_entriesOf.mpr ⟨index, ?_, hElement⟩
  by_contra hOut
  rw [slot, Array.getD_eq_getD_getElem?, Array.getElem?_eq_none (Nat.le_of_not_lt hOut)] at hElement
  cases hElement

/-- A search looks at elements only that are stored under its hash. -/
theorem slot_of_seek {probe rest : Probe} {before : Option Nat}
    (hSeek : table.seek hash probe before = .candidate index ref rest reusable) :
    table.slot index = .element hash ref := by
  unfold seek at hSeek
  generalize table.reach = fuel at hSeek
  induction fuel generalizing probe before with
  | zero => cases hSeek
  | succ fuel ih =>
    rw [seekWithin] at hSeek
    split at hSeek
    · cases hSeek
    · exact ih hSeek
    next stored found hSlot =>
      split at hSeek
      next hStored =>
        cases hSeek
        exact hStored ▸ hSlot
      next => exact ih hSeek

theorem path_lt (hSize : 0 < slots.size) (hash : Int) (steps : Nat) :
    path slots hash steps < slots.size :=
  (Probe.proper_after hash hSize steps).index_lt

namespace Sound

theorem room (hSound : table.Sound) : fillOf table.slots < table.slots.size := by
  have hLoad : fillOf table.slots * 5 < (table.slots.size - 1) * 3 := hSound.load
  omega

theorem pos (hSound : table.Sound) : 0 < table.slots.size := Nat.zero_lt_of_lt hSound.room

/-- A search under a hash comes to an element that passes the test, or there is none. -/
theorem search (hSound : table.Sound) (hash : Int) (isSame : Ref → Bool) :
    (∃ index ref, table.search hash isSame table.reach (table.start hash) none =
        .stored index ∧ slotAt table.slots index = .element hash ref ∧ isSame ref = true) ∨
      ∃ index reusable, table.search hash isSame table.reach (table.start hash) none =
        .free index reusable ∧ table.Placeable hash index reusable ∧
        ∀ ref, (hash, ref) ∈ table.entries → isSame ref = false := by
  obtain ⟨bits, hSize⟩ := hSound.size
  obtain ⟨last, hNear, hLeads, hVacant⟩ := exists_vacancy hSize hSound.room hash
  have hReach : last < table.reach := by
    unfold reach
    omega
  have hFinds : Finds table hash isSame 0 last
      (table.search hash isSame table.reach (table.start hash) none) :=
    finds_search (by omega) hReach (Nat.zero_le _) hLeads hVacant (fun _ hNone => by cases hNone)
  generalize table.search hash isSame table.reach (table.start hash) none = place
    at hFinds ⊢
  cases hFinds with
  | stored hElement hSame => exact .inl ⟨_, _, rfl, hElement, hSame⟩
  | @free reusable hNone hReusable =>
    refine .inr ⟨_, _, rfl, ⟨hVacant, last, hLeads, hReusable⟩, fun ref hEntry => ?_⟩
    obtain ⟨index, _, hElement⟩ := mem_entriesOf.mp hEntry
    obtain ⟨steps, hSteps⟩ := hSound.reaches index hash ref hElement
    have hBefore : steps < last := hSteps.lt_of_element (hElement ▸ rfl) hVacant
    exact hNone steps (Nat.zero_le _) hBefore ref (hSteps.path.symm ▸ hElement)

end Sound

/-! Moving to another table. -/

/-- The first vacant place is where the path ends. -/
theorem vacancyWithin_eq {first last fuel : Nat} (hFuel : last < first + fuel) (hFirst : first ≤ last)
    (hLast : Leads slots hash last (path slots hash last))
    (hVacant : (slotAt slots (path slots hash last)).isVacant = true) :
    vacancyWithin slots fuel (Probe.after hash slots.size first) = path slots hash last := by
  induction fuel generalizing first with
  | zero => omega
  | succ fuel ih =>
    have hSlot : slots.getD (Probe.after hash slots.size first).index .vacant =
      slotAt slots (path slots hash first) := rfl
    rw [vacancyWithin, hSlot]
    rcases Nat.eq_or_lt_of_le hFirst with rfl | hBefore
    · rw [if_pos hVacant]
      rfl
    · rw [if_neg (by simp [hLast.taken first hBefore]), ← Probe.after_succ]
      exact ih (by omega) hBefore

/-- A fresh entry goes to a vacant place that its path leads to. -/
theorem placeFresh_spec (hSize : slots.size = 2 ^ bits) (hReaches : Reaches slots)
    (hRoom : fillOf slots < slots.size) (hash : Int) (ref : Ref) :
    (placeFresh slots (hash, ref)).size = slots.size ∧ Reaches (placeFresh slots (hash, ref)) ∧
      fillOf (placeFresh slots (hash, ref)) = fillOf slots + 1 ∧
      (entriesOf (placeFresh slots (hash, ref))).Perm ((hash, ref) :: entriesOf slots) := by
  obtain ⟨last, hNear, hLeads, hVacant⟩ := exists_vacancy hSize hRoom hash
  have hIndex : path slots hash last < slots.size := path_lt (Nat.zero_lt_of_lt hRoom) hash last
  have hPlace : placeFresh slots (hash, ref) =
      slots.setIfInBounds (path slots hash last) (.element hash ref) := by
    have hFound : vacancyWithin slots (16 * slots.size + 256) (Probe.after hash slots.size 0) =
        path slots hash last := vacancyWithin_eq (by omega) (Nat.zero_le _) hLeads hVacant
    rw [placeFresh]
    exact congrArg (fun index => slots.setIfInBounds index (.element hash ref)) hFound
  have hFree : (slotAt slots (path slots hash last)).element? = none := by
    revert hVacant
    cases slotAt slots (path slots hash last) <;> simp [SetSlot.isVacant, SetSlot.element?]
  rw [hPlace]
  refine ⟨Array.size_setIfInBounds, hReaches.set rfl ?_, ?_, entriesOf_put hIndex hFree hash ref⟩
  · intro otherHash otherRef hSame
    cases hSame
    exact ⟨last, hLeads⟩
  · rw [fillOf_set hIndex rfl, if_pos hVacant]

/-- So do fresh entries in a row. -/
theorem foldl_placeFresh_spec (hSize : slots.size = 2 ^ bits) (hReaches : Reaches slots)
    (entries : List (Int × Ref)) (hRoom : fillOf slots + entries.length < slots.size) :
    (entries.foldl placeFresh slots).size = slots.size ∧ Reaches (entries.foldl placeFresh slots) ∧
      fillOf (entries.foldl placeFresh slots) = fillOf slots + entries.length ∧
      (entriesOf (entries.foldl placeFresh slots)).Perm (entries ++ entriesOf slots) := by
  induction entries generalizing slots with
  | nil => exact ⟨rfl, hReaches, rfl, .refl _⟩
  | cons entry rest ih =>
    obtain ⟨hash, ref⟩ := entry
    rw [List.length_cons] at hRoom
    obtain ⟨hSame, hStill, hFill, hEntries⟩ :=
      placeFresh_spec hSize hReaches (by omega) hash ref
    obtain ⟨hRestSize, hRestReaches, hRestFill, hRestEntries⟩ :=
      ih (hSame.trans hSize) hStill (by rw [hFill, hSame]; omega)
    refine ⟨hRestSize.trans hSame, hRestReaches, ?_, ?_⟩
    · rw [List.foldl_cons, hRestFill, hFill, List.length_cons]
      omega
    · exact hRestEntries.trans ((hEntries.append_left rest).trans List.perm_middle)

theorem fillOf_vacant (size : Nat) : fillOf (vacant size) = 0 := by
  simp [fillOf, vacant, SetSlot.isVacant]

theorem entriesOf_vacant (size : Nat) : entriesOf (vacant size) = [] := by
  simp [entriesOf, vacant, SetSlot.element?]

/-- A table of vacant slots has nothing to find. -/
theorem reaches_vacant (size : Nat) : Reaches (vacant size) := by
  intro index hash ref hElement
  have hVacant : slotAt (vacant size) index = .vacant := by
    rw [slotAt, vacant, Array.getD_eq_getD_getElem?, Array.getElem?_replicate]
    split <;> rfl
  rw [hVacant] at hElement
  cases hElement

theorem sizeAbove_eq (least : Nat) : ∃ bits, sizeAbove least = 2 ^ bits ∧ 3 ≤ bits := by
  refine ⟨max 3 (least.log2 + 1), ?_, Nat.le_max_left ..⟩
  change max (2 ^ 3) (2 ^ (least.log2 + 1)) = _
  exact ((pow_right_strictMono₀ (by decide : 1 < 2)).monotone.map_max).symm

theorem lt_sizeAbove (least : Nat) : least < sizeAbove least := by
  unfold sizeAbove
  exact Nat.lt_of_lt_of_le Nat.lt_log2_self (Nat.le_max_right ..)

/-- A resized table has the same entries and is sound again. -/
theorem Sound.resize (hSize : ∃ bits, table.slots.size = 2 ^ bits) (hReaches : Reaches table.slots)
    {least : Nat} (hLeast : 2 * table.entries.length ≤ least) :
    (table.resize least).Sound ∧ (table.resize least).entries.Perm table.entries := by
  have hAbove := lt_sizeAbove least
  obtain ⟨bits, hBits, hLarge⟩ := sizeAbove_eq least
  have hEight : 2 ^ 3 ≤ sizeAbove least := hBits ▸ Nat.pow_le_pow_right (by decide) hLarge
  unfold SetTable.resize
  dsimp only
  split
  next hSame =>
    simp only [Bool.and_eq_true, decide_eq_true_eq] at hSame
    refine ⟨⟨hSize, ?_, hReaches⟩, .refl _⟩
    rw [hSame.2, hSame.1.2, ← length_entries]
    rw [hSame.1.1] at hAbove
    have hFew : table.entries.length * 2 < 8 := by
      rw [Nat.mul_comm]
      exact hLeast.trans_lt hAbove
    have hMin : minSize = 8 := rfl
    omega
  next =>
    have hVacant : (vacant (sizeAbove least)).size = sizeAbove least := Array.size_replicate
    have hRoom : fillOf (vacant (sizeAbove least)) + table.entries.length <
        (vacant (sizeAbove least)).size := by
      rw [fillOf_vacant, hVacant]
      omega
    obtain ⟨hSame, hStill, hFill, hEntries⟩ := foldl_placeFresh_spec (hVacant.trans hBits)
      (reaches_vacant _) table.entries hRoom
    rw [fillOf_vacant, Nat.zero_add] at hFill
    rw [entriesOf_vacant, List.append_nil] at hEntries
    rw [hVacant] at hSame
    refine ⟨⟨⟨bits, hSame.trans hBits⟩, ?_, hStill⟩, hEntries⟩
    have hLoad : fillOf (table.entries.foldl placeFresh (vacant (sizeAbove least))) * 5 <
        ((table.entries.foldl placeFresh (vacant (sizeAbove least))).size - 1) * 3 := by
      rw [hFill, hSame]
      omega
    exact hLoad

theorem growth_le (size : Nat) : 2 * size ≤ growth size := by
  unfold growth
  split <;> omega

/-- Putting in an element. -/
theorem Sound.put (hSound : table.Sound) (hPlace : table.Placeable hash index reusable) (ref : Ref) :
    (table.put hash ref index reusable).Sound ∧
      (table.put hash ref index reusable).entries.Perm ((hash, ref) :: table.entries) := by
  obtain ⟨bits, hSize⟩ := hSound.size
  obtain ⟨last, hLeads, hReusable⟩ := hPlace.leads
  have hSame (place : Nat) : (table.slots.setIfInBounds place (.element hash ref)).size =
      table.slots.size := Array.size_setIfInBounds
  have hReaches {place : Nat} (hPlaced : ∃ steps, Leads table.slots hash steps place) :
      Reaches (table.slots.setIfInBounds place (.element hash ref)) := by
    refine hSound.reaches.set rfl fun otherHash otherRef hNew => ?_
    cases hNew
    exact hPlaced
  cases reusable with
  | some reused =>
    obtain ⟨steps, hBefore, hPath, hRemoved⟩ := hReusable reused rfl
    have hIndex : reused < table.slots.size := hPath ▸ path_lt hSound.pos hash steps
    have hFree : (slotAt table.slots reused).element? = none := by rw [hRemoved]; rfl
    have hTaken : (slotAt table.slots reused).isVacant = false := by rw [hRemoved]; rfl
    have hLoad : fillOf (table.slots.setIfInBounds reused (.element hash ref)) * 5 <
        ((table.slots.setIfInBounds reused (.element hash ref)).size - 1) * 3 := by
      rw [fillOf_set hIndex rfl, hTaken, if_neg Bool.false_ne_true, hSame]
      exact hSound.load
    exact ⟨⟨⟨bits, (hSame reused).trans hSize⟩, hLoad, hReaches ⟨steps, hPath, fun earlier hEarlier =>
      hLeads.taken earlier (hEarlier.trans hBefore)⟩⟩, entriesOf_put hIndex hFree hash ref⟩
  | none =>
    have hIndex : index < table.slots.size := hLeads.path ▸ path_lt hSound.pos hash last
    have hFree : (slotAt table.slots index).element? = none := by
      have hVacant := hPlace.vacant
      revert hVacant
      cases slotAt table.slots index <;> simp [SetSlot.isVacant, SetSlot.element?]
    have hEntries : (entriesOf (table.slots.setIfInBounds index (.element hash ref))).Perm
        ((hash, ref) :: table.entries) := entriesOf_put hIndex hFree hash ref
    unfold SetTable.put
    dsimp only
    split
    next hLoad => exact ⟨⟨⟨bits, (hSame index).trans hSize⟩, hLoad, hReaches ⟨last, hLeads⟩⟩, hEntries⟩
    next =>
      refine (Sound.resize ⟨bits, (hSame index).trans hSize⟩ (hReaches ⟨last, hLeads⟩) ?_).imp_right
        fun hMoved => hMoved.trans hEntries
      rw [length_entries]
      exact growth_le _

/-- Taking out an element. -/
theorem Sound.eraseAt (hSound : table.Sound) (hElement : slotAt table.slots index = .element hash ref) :
    (table.eraseAt index).Sound ∧
      table.entries.Perm ((hash, ref) :: (table.eraseAt index).entries) := by
  obtain ⟨bits, hSize⟩ := hSound.size
  have hIndex : index < table.slots.size := by
    by_contra hOut
    rw [slotAt, Array.getD_eq_getD_getElem?, Array.getElem?_eq_none (Nat.le_of_not_lt hOut)]
      at hElement
    cases hElement
  have hTaken : (slotAt table.slots index).isVacant = false := by rw [hElement]; rfl
  have hSame : (table.slots.setIfInBounds index .removed).size = table.slots.size :=
    Array.size_setIfInBounds
  have hLoad : fillOf (table.slots.setIfInBounds index .removed) * 5 <
      ((table.slots.setIfInBounds index .removed).size - 1) * 3 := by
    rw [fillOf_set hIndex rfl, hTaken, if_neg Bool.false_ne_true, hSame]
    exact hSound.load
  refine ⟨⟨⟨bits, hSame.trans hSize⟩, hLoad, hSound.reaches.set rfl fun _ _ hNew => ?_⟩,
    entriesOf_erase hIndex hElement⟩
  cases hNew

/-- A table without elements. -/
theorem sound_vacant (finger epoch : Nat) :
    ({ slots := vacant minSize, finger, epoch } : SetTable).Sound where
  size := ⟨3, Array.size_replicate⟩
  load := by
    have hLoad : fillOf (vacant minSize) * 5 < ((vacant minSize).size - 1) * 3 := by
      rw [fillOf_vacant, vacant, Array.size_replicate]
      decide
    exact hLoad
  reaches := reaches_vacant minSize

theorem Sound.cleared (table : SetTable) : table.cleared.Sound ∧ table.cleared.entries = [] :=
  ⟨sound_vacant _ _, entriesOf_vacant minSize⟩

theorem sound_empty : empty.Sound := sound_vacant _ _

theorem entries_empty : empty.entries = [] := entriesOf_vacant minSize

end HeapBridge.Host.SetTable
