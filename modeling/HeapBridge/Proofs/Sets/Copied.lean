import HeapBridge.Proofs.Sets.Tables
/-!
Copies of sets. A copy of a table has the elements of the table, under the same hashes.
-/
namespace HeapBridge.Host

namespace SetTable

/-- Room is made in a new table for so many elements. -/
theorem exists_reserve_empty (count : Nat) :
    ∃ bits, (empty.reserve count).slots = SetTable.vacant (2 ^ bits) ∧ count < 2 ^ bits := by
  have hFill : empty.fill = 0 := fillOf_vacant minSize
  have hSize : empty.size = 0 := by
    rw [← length_entries, entries_empty]
    rfl
  have hSlots : empty.slots.size = 8 := Array.size_replicate
  have hLarge := lt_sizeAbove (count * 2)
  rw [reserve, hFill, hSize, hSlots, Nat.zero_add]
  split
  next =>
    rw [SetTable.resize, entries_empty]
    split
    next hSmall =>
      simp only [Bool.and_eq_true, decide_eq_true_eq] at hSmall
      rw [hSmall.1.1] at hLarge
      have hMin : minSize = 8 := rfl
      exact ⟨3, rfl, by omega⟩
    next =>
      obtain ⟨bits, hBits, _⟩ := sizeAbove_eq (count * 2)
      rw [hBits] at hLarge ⊢
      exact ⟨bits, rfl, by omega⟩
  next hFew => exact ⟨3, rfl, by omega⟩

/-- The copy of a table has the elements of the table. -/
theorem entries_copied (table : SetTable) : table.copied.entries.Perm table.entries := by
  unfold copied
  split
  next hEmpty =>
    have hNone : table.entries = [] := by
      rw [isEmpty, decide_eq_true_eq, ← length_entries] at hEmpty
      exact List.length_eq_zero_iff.mp hEmpty
    rw [hNone, entries_empty]
  next =>
    obtain ⟨bits, hSlots, hRoom⟩ := exists_reserve_empty table.size
    unfold takeOver
    split
    · exact .refl _
    · have hVacant : (SetTable.vacant (2 ^ bits)).size = 2 ^ bits := Array.size_replicate
      have hFits : fillOf (SetTable.vacant (2 ^ bits)) + table.entries.length < (SetTable.vacant (2 ^ bits)).size := by
        rw [fillOf_vacant, hVacant, Nat.zero_add, length_entries]
        exact hRoom
      obtain ⟨_, _, _, hEntries⟩ :=
        foldl_placeFresh_spec hVacant (reaches_vacant (2 ^ bits)) table.entries hFits
      rw [entriesOf_vacant, List.append_nil] at hEntries
      rw [hSlots]
      exact hEntries

theorem toList_copied (table : SetTable) : table.copied.toList.Perm table.toList :=
  (entries_copied table).map Prod.snd

end SetTable

end HeapBridge.Host
