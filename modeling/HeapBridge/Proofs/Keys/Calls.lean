import HeapBridge.Proofs.Keys.Stock
import HeapBridge.Proofs.Sets.Transparency
/-!
Calls on a set of handles. Asked for a handle a set answers whether it has one for the same pointer of the same
type. To add a handle stores it unless there is one, and to remove it gives up the one that was stored; no other
handle is touched. The bridge and the exported functions do what the host does.
-/
namespace HeapBridge

open Host (Context Heap HostM Ops Ref SetTable handleHash nestingLimit)

variable {start world : World} {set place level : Nat} {table : SetTable} {key : Key}
  {stored : List (Nat × Key)} {fresh : List (Nat × Handle)} {refs : List Ref} {context : Context}

/-- Without one of its keys a set has the others. -/
theorem toFinset_map_erase (hStored : (place, key) ∈ stored) (hDistinct : (stored.map (·.2)).Nodup) :
    ((stored.erase (place, key)).map (·.2)).toFinset = (stored.map (·.2)).toFinset.erase key := by
  have hPerm := (List.perm_cons_erase hStored).map Prod.snd
  have hFirst : (stored.map (·.2)).toFinset =
      insert key ((stored.erase (place, key)).map (·.2)).toFinset := by
    rw [List.toFinset_eq_of_perm _ _ hPerm, List.map_cons, List.toFinset_cons]
  rw [hFirst, Finset.erase_insert]
  intro hThere
  exact (List.nodup_cons.mp (hPerm.nodup_iff.mp hDistinct)).1 (List.mem_toFinset.mp hThere)

namespace World

/-- Whether a world is the one at first, but for fresh handles, and the set holds just these keys. -/
def Keyed (start : World) (set : Nat) (present : Finset Key) (world : World) : Prop :=
  ∃ table stored fresh, start.Stocks set table stored fresh world ∧ (stored.map (·.2)).toFinset = present

/-- Whether moreover nothing is left over, and some references are held besides what was held at first. -/
structure HasKeys (start : World) (set : Nat) (present : Finset Key) (refs : List Ref) (world : World) :
    Prop where
  keyed : start.Keyed set present world
  swept : world.Swept
  held : world.held.Perm (refs ++ start.held)

namespace Stocks

theorem keyed (hStocks : start.Stocks set table stored fresh world) :
    start.Keyed set (stored.map (·.2)).toFinset world := ⟨table, stored, fresh, hStocks, rfl⟩

theorem isAlike (hStocks : start.Stocks set table stored fresh world) {other : Key}
    (hStored : (place, other) ∈ stored) (key : Key) :
    world.host.isAlike (start.registry.handle key) (.object place) = decide (other = key) := by
  rw [(hStocks.wraps.isHandle (hStocks.there (Registry.mem_handles hStored))).isAlike]
  exact start.registry.handle_alike other key

/-- There is an element for a key just if the key is stored. -/
theorem any_isAlike (hStocks : start.Stocks set table stored fresh world) (key : Key) :
    table.toList.any (world.host.isAlike (start.registry.handle key)) =
      decide (key ∈ (stored.map (·.2)).toFinset) := by
  rw [Bool.eq_iff_iff, List.any_eq_true, decide_eq_true_eq, List.mem_toFinset, List.mem_map]
  constructor
  · rintro ⟨ref, hRef, hSame⟩
    obtain ⟨place, other, hStored, rfl⟩ := hStocks.mem_toList.mp hRef
    rw [hStocks.isAlike hStored, decide_eq_true_eq] at hSame
    exact ⟨(place, other), hStored, hSame⟩
  · rintro ⟨⟨place, other⟩, hStored, rfl⟩
    refine ⟨.object place, hStocks.mem_toList.mpr ⟨place, other, hStored, rfl⟩, ?_⟩
    rw [hStocks.isAlike hStored, decide_eq_true rfl]

theorem mem_of_alike (hStocks : start.Stocks set table stored fresh world) {ref : Ref}
    (hThere : ref ∈ table.toList) (hAlike : world.host.isAlike (start.registry.handle key) ref = true) :
    key ∈ (stored.map (·.2)).toFinset := by
  have hAny := hStocks.any_isAlike key
  rw [List.any_eq_true.mpr ⟨ref, hThere, hAlike⟩, eq_comm, decide_eq_true_eq] at hAny
  exact hAny

theorem not_mem_of_alike (hStocks : start.Stocks set table stored fresh world)
    (hNone : ∀ ref ∈ table.toList, world.host.isAlike (start.registry.handle key) ref = false) :
    key ∉ (stored.map (·.2)).toFinset := by
  have hAny := hStocks.any_isAlike key
  rw [List.any_eq_false.mpr (by simpa using hNone), eq_comm, decide_eq_false_iff_not] at hAny
  exact hAny

end Stocks

end World

open World (HasKeys Keyed Stocks WrapsWithin)

namespace Host.SetObject

/-- A handle is stored unless there is one for its key. -/
theorem exists_eval_addHashed_handle (level : Nat) (context : Context) (hAwaits : start.AwaitsKeys set)
    (hStocks : start.Stocks set table stored fresh world)
    (hFresh : (place, start.registry.handle key) ∈ fresh) (hSwept : world.Swept)
    (hHeld : world.held.Perm (refs ++ start.held)) (hNesting : context.nesting < nestingLimit) :
    ∃ after, (addHashed (Ops.ofDepth (level + 1)) (.object set) (.object place)
        (handleHash (start.registry.handle key))).eval context world = (.ok (), after) ∧
      start.HasKeys set (insert key (stored.map (·.2)).toFinset) refs after := by
  have hSet := hStocks.hasHandles hAwaits
  obtain ⟨spot, hLocate, hSpot⟩ :=
    exists_located_handle level hSet (hStocks.wraps.isHandle hFresh) hNesting true
  cases spot with
  | stored index =>
    obtain ⟨ref, hElement, hAlike⟩ := hSpot
    have hThere : ref ∈ table.toList := List.mem_map_of_mem (SetTable.mem_entries_of_slot hElement)
    have hPresent := hStocks.mem_of_alike hThere hAlike
    rw [Finset.insert_eq_of_mem hPresent]
    exact ⟨world, eval_addHashed_stored hLocate, hStocks.keyed, hSwept, hHeld⟩
  | free index reusable =>
    obtain ⟨hPlaceable, hNone⟩ := hSpot
    have hAbsent := hStocks.not_mem_of_alike hNone
    obtain ⟨hSound, hEntries⟩ := hStocks.sound.put hPlaceable (.object place)
    have hMore := hStocks.retable hAwaits ((place, key) :: stored) hSound
      (hEntries.trans (hStocks.entries.cons _))
      (List.nodup_cons.mpr ⟨fun hThere => hAbsent (List.mem_toFinset.mpr hThere), hStocks.distinct⟩)
      (List.cons_subset.mpr ⟨hFresh, hStocks.there⟩)
    have hKeyed := hMore.keyed
    rw [List.map_cons, List.toFinset_cons] at hKeyed
    refine ⟨_, eval_addHashed_free hLocate hSet.body, hKeyed, ?_, hHeld⟩
    intro address hLive
    apply hStocks.isReferenced_retable hAwaits hSwept hMore hLive
    exact fun hThere => (hEntries.map Prod.snd).mem_iff.mpr (List.mem_cons_of_mem _ hThere)

/-- The handle for a key is given up, if there is one. -/
theorem exists_eval_discardHashed_handle (level : Nat) (context : Context) (hAwaits : start.AwaitsKeys set)
    (hStocks : start.Stocks set table stored fresh world)
    (hFresh : (place, start.registry.handle key) ∈ fresh) (hSwept : world.Swept)
    (hHeld : world.held.Perm (refs ++ start.held)) (hNesting : context.nesting < nestingLimit) :
    ∃ found after, (discardHashed (Ops.ofDepth (level + 1)) (.object set) (.object place)
        (handleHash (start.registry.handle key))).eval context world = (.ok found, after) ∧
      start.HasKeys set ((stored.map (·.2)).toFinset.erase key) refs after := by
  have hSet := hStocks.hasHandles hAwaits
  obtain ⟨spot, hLocate, hSpot⟩ :=
    exists_located_handle level hSet (hStocks.wraps.isHandle hFresh) hNesting false
  cases spot with
  | stored index =>
    obtain ⟨ref, hElement, hAlike⟩ := hSpot
    obtain ⟨spot, other, hStored, rfl, _, hHandle⟩ := hStocks.mem_entries (SetTable.mem_entries_of_slot hElement)
    rw [hHandle.isAlike, start.registry.handle_alike, decide_eq_true_eq] at hAlike
    subst hAlike
    obtain ⟨hSound, hEntries⟩ := hStocks.sound.eraseAt hElement
    have hPerm := List.perm_cons_erase hStored
    have hNodup := (hPerm.map Prod.snd).nodup_iff.mp hStocks.distinct
    have hLess := hStocks.retable hAwaits (stored.erase (spot, other)) hSound
      (List.Perm.cons_inv (hEntries.symm.trans (hStocks.entries.trans (hPerm.map _))))
      (List.nodup_cons.mp hNodup).2
      (List.Subset.trans (List.map_subset _ List.erase_subset) hStocks.there)
    -- Nothing is left over but the element that was taken out.
    have hOthers : ∀ address, (world.tabled set (table.eraseAt index)).host.isLive (.object address) = true →
        Ref.object spot ≠ .object address →
          (world.tabled set (table.eraseAt index)).isReferenced (.object address) = true := by
      intro address hLive hOther
      apply hStocks.isReferenced_retable hAwaits hSwept hLess hLive
      intro hThere
      rcases List.mem_cons.mp ((hEntries.map Prod.snd).mem_iff.mp hThere) with hSame | hRest
      · exact absurd hSame.symm hOther
      · exact hRest
    have hBase : (start.tabled set (table.eraseAt index)).held ⊆ world.held := fun ref hRef =>
      hHeld.mem_iff.mpr (List.mem_append_right _ hRef)
    obtain ⟨after, hRelease, hWithin, hAfter, hStill⟩ := WrapsWithin.eval_release_object
      ⟨fresh, List.Subset.refl _, hLess.wraps⟩ (hAwaits.swept_tabled _) hBase hOthers level context
    obtain ⟨others, hLast⟩ := hLess.within hAwaits hWithin
    have hKeyed := hLast.keyed
    rw [toFinset_map_erase hStored hStocks.distinct] at hKeyed
    exact ⟨true, after, eval_discardHashed_stored hLocate hSet.body hElement hRelease, hKeyed, hAfter,
      hStill.trans hHeld⟩
  | free index reusable =>
    have hAbsent := hStocks.not_mem_of_alike hSpot.2
    rw [Finset.erase_eq_of_notMem hAbsent]
    exact ⟨false, world, eval_discardHashed_free hLocate, hStocks.keyed, hSwept, hHeld⟩

/-- All handles are taken out. Some may be left over, since one call lets go of so many references only. -/
theorem exists_eval_clear_handles (level : Nat) (context : Context) (hAwaits : start.AwaitsKeys set)
    (hStocks : start.Stocks set table stored fresh world) (hHeld : world.held.Perm (refs ++ start.held)) :
    ∃ after, (clear (Ops.ofDepth (level + 1)) (.object set)).eval context world = (.ok (), after) ∧
      start.Keyed set ∅ after ∧ after.held.Perm (refs ++ start.held) := by
  have hSet := hStocks.hasHandles hAwaits
  obtain ⟨hSound, hEntries⟩ := SetTable.Sound.cleared table
  have hNone := hStocks.retable hAwaits [] hSound (by rw [hEntries]; exact .refl _) List.nodup_nil
    (List.nil_subset _)
  have hBase : (start.tabled set table.cleared).held ⊆ world.held := fun ref hRef =>
    hHeld.mem_iff.mpr (List.mem_append_right _ hRef)
  obtain ⟨after, hRelease, hWithin, hAfter⟩ := WrapsWithin.eval_release
    ⟨fresh, List.Subset.refl _, hNone.wraps⟩ (hAwaits.swept_tabled _) hBase level context table.toList
  obtain ⟨others, hLast⟩ := hNone.within hAwaits hWithin
  exact ⟨after, eval_clear hSet.body hRelease, hLast.keyed, hAfter.trans hHeld⟩

end Host.SetObject

namespace Host

/-- The key is hashed by its type and its pointer. -/
theorem eval_hash_key (hStocks : start.Stocks set table stored fresh world)
    (hFresh : (place, start.registry.handle key) ∈ fresh) (context : Context) :
    (Host.ops.hash (.object place)).eval context world =
      (.ok (handleHash (start.registry.handle key)), world) := by
  obtain ⟨level, hOps⟩ := exists_ops
  rw [hOps]
  exact answers_hash_handle_ofDepth level (hStocks.wraps.isHandle hFresh) world rfl

/-- Host code asks for a handle. -/
theorem runOn_contains_handle (hAwaits : start.AwaitsKeys set)
    (hStocks : start.Stocks set table stored fresh world)
    (hFresh : (place, start.registry.handle key) ∈ fresh) :
    HostM.runOn (contains Host.ops (.object set) (.object place)) world =
      (.ok (decide (key ∈ (stored.map (·.2)).toFinset)), world) := by
  have hSet := hStocks.hasHandles hAwaits
  have hContains : (SetObject.containsHashed Host.ops (.object set) (.object place)
      (handleHash (start.registry.handle key))).eval {} world =
        (.ok (decide (key ∈ (stored.map (·.2)).toFinset)), world) := by
    obtain ⟨level, hOps⟩ := exists_ops
    rw [hOps, ← hStocks.any_isAlike]
    exact SetObject.answers_containsHashed_handle hSet (hStocks.wraps.isHandle hFresh) (by decide) world rfl
  exact runOn_contains_of hSet.leaves hSet.body (eval_hash_key hStocks hFresh {}) hContains

/-- Host code adds a handle. -/
theorem exists_runOn_add_handle (hAwaits : start.AwaitsKeys set)
    (hStocks : start.Stocks set table stored fresh world)
    (hFresh : (place, start.registry.handle key) ∈ fresh) (hSwept : world.Swept)
    (hHeld : world.held.Perm (refs ++ start.held)) :
    ∃ after, HostM.runOn (call Host.ops (.object set) "add" [.object place]) world = (.ok .nil, after) ∧
      start.HasKeys set (insert key (stored.map (·.2)).toFinset) refs after := by
  have hSet := hStocks.hasHandles hAwaits
  obtain ⟨level, hOps⟩ := exists_ops
  obtain ⟨after, hAdd, hAfter⟩ := SetObject.exists_eval_addHashed_handle level
    { nesting := 1 } hAwaits hStocks hFresh hSwept hHeld (by decide)
  rw [← hOps] at hAdd
  exact ⟨after, runOn_add_of hSet.leaves hSet.body (eval_hash_key hStocks hFresh _) hAdd, hAfter⟩

/-- Host code discards a handle. -/
theorem exists_runOn_discard_handle (hAwaits : start.AwaitsKeys set)
    (hStocks : start.Stocks set table stored fresh world)
    (hFresh : (place, start.registry.handle key) ∈ fresh) (hSwept : world.Swept)
    (hHeld : world.held.Perm (refs ++ start.held)) :
    ∃ after, HostM.runOn (call Host.ops (.object set) "discard" [.object place]) world = (.ok .nil, after) ∧
      start.HasKeys set ((stored.map (·.2)).toFinset.erase key) refs after := by
  have hSet := hStocks.hasHandles hAwaits
  obtain ⟨level, hOps⟩ := exists_ops
  obtain ⟨found, after, hDiscard, hAfter⟩ := SetObject.exists_eval_discardHashed_handle level
    { nesting := 1 } hAwaits hStocks hFresh hSwept hHeld (by decide)
  rw [← hOps] at hDiscard
  exact ⟨after, runOn_discard_of hSet.leaves hSet.body (eval_hash_key hStocks hFresh _) hDiscard, hAfter⟩

/-- Host code clears the set. -/
theorem exists_runOn_clear_handles (hAwaits : start.AwaitsKeys set)
    (hStocks : start.Stocks set table stored fresh world) (hHeld : world.held.Perm (refs ++ start.held)) :
    ∃ after, HostM.runOn (call Host.ops (.object set) "clear" []) world = (.ok .nil, after) ∧
      start.Keyed set ∅ after ∧ after.held.Perm (refs ++ start.held) := by
  have hSet := hStocks.hasHandles hAwaits
  obtain ⟨level, hOps⟩ := exists_ops
  obtain ⟨after, hClear, hAfter⟩ := SetObject.exists_eval_clear_handles level
    { nesting := 1 } hAwaits hStocks hHeld
  rw [← hOps] at hClear
  exact ⟨after, runOn_clear_of hSet.leaves hSet.body hClear, hAfter⟩

/-- The length that the host tells is the number of different keys. -/
theorem runOn_length_handles (hAwaits : start.AwaitsKeys set)
    (hStocks : start.Stocks set table stored fresh world) :
    HostM.runOn (length Host.ops (.object set)) world = (.ok (stored.map (·.2)).toFinset.card, world) := by
  have hSet := hStocks.hasHandles hAwaits
  have hSize : table.size = (stored.map (·.2)).toFinset.card := by
    rw [List.toFinset_card_of_nodup hStocks.distinct, List.length_map, ← SetTable.length_entries,
      hStocks.entries.length_eq, List.length_map]
  rw [← hSize]
  exact runOn_length hSet.elements? (hSet.leaves.unscripted "__len__" (by simp))

end Host

end HeapBridge
