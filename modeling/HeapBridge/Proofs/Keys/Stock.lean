import HeapBridge.Proofs.Keys.Comparing
import HeapBridge.Proofs.Keys.Fresh
/-!
The keys in a set. A set that was empty at first comes to hold handles that were made since, no two of them
for one pointer of one type. Such a world is told as the one at first, in which the set has another table, with
fresh handles in it.
-/
namespace HeapBridge

open Host (Heap Object Ref SetTable handleHash)

variable {start world : World} {set place : Nat} {table other : SetTable} {key : Key}
  {stored left : List (Nat × Key)} {fresh : List (Nat × Handle)} {ref : Ref}

/-- A native object together with the type that it crosses as. -/
structure Key where
  typeId : String
  address : Nat
  deriving DecidableEq

def Registry.handle (registry : Registry) (key : Key) : Handle :=
  match registry.lookup key.typeId with
  | .ok { toHost := .handle _ name ownership, .. } =>
    { typeId := key.typeId, typeName := name, pointer := .native key.address, ownership }
  | _ => { typeId := key.typeId, typeName := "", pointer := .native key.address, ownership := none }

@[simp] theorem Registry.typeId_handle (registry : Registry) (key : Key) :
    (registry.handle key).typeId = key.typeId := by
  unfold handle
  split <;> rfl

@[simp] theorem Registry.pointer_handle (registry : Registry) (key : Key) :
    (registry.handle key).pointer = .native key.address := by
  unfold handle
  split <;> rfl

/-- Handles are told apart just as their keys are. -/
theorem Registry.handle_alike (registry : Registry) (key other : Key) :
    ((registry.handle key).pointer.number = (registry.handle other).pointer.number &&
      (registry.handle key).typeId = (registry.handle other).typeId) = decide (key = other) := by
  obtain ⟨typeId, address⟩ := key
  obtain ⟨otherId, otherAddress⟩ := other
  simp only [pointer_handle, typeId_handle, Pointer.number_native_inj, Key.mk.injEq, ← Bool.decide_and,
    and_comm]

theorem Registry.handle_injective (registry : Registry) : Function.Injective registry.handle := by
  intro key other hSame
  have hAlike := registry.handle_alike key other
  rw [hSame, decide_eq_true rfl, decide_eq_true rfl, Bool.and_self, eq_comm, decide_eq_true_eq] at hAlike
  exact hAlike

def Registry.handles (registry : Registry) (stored : List (Nat × Key)) : List (Nat × Handle) :=
  stored.map fun entry => (entry.1, registry.handle entry.2)

theorem Registry.mem_handles {registry : Registry} (hEntry : (place, key) ∈ stored) :
    (place, registry.handle key) ∈ registry.handles stored := List.mem_map_of_mem hEntry

theorem Registry.nodup_handles (registry : Registry) (hStored : stored.Nodup) :
    (registry.handles stored).Nodup :=
  hStored.map (Function.injective_id.prodMap registry.handle_injective)

namespace World

def tabled (world : World) (set : Nat) (table : SetTable) : World :=
  { world with host := world.host.setBody (.object set) (.set table) }

section Tabled

variable {object : Object} {old : SetTable} (hObject : world.host.object? set = some object)
  (hBody : object.body = .set old)

include hObject hBody

/-- Only the set has another table. -/
theorem object?_tabled (table : SetTable) (address : Nat) :
    (world.tabled set table).host.object? address =
      if address = set then some { object with body := .set table } else world.host.object? address := by
  have hBecomes : object.body.canBecome (.set table) = true := by rw [hBody]; rfl
  have hPut : (world.tabled set table).host = world.host.put set { object with body := .set table } := by
    simp only [tabled, Heap.setBody, hObject, if_pos hBecomes]
  rw [hPut, Heap.object?_put hObject]

theorem size_tabled (table : SetTable) :
    (world.tabled set table).host.cells.size = world.host.cells.size := by
  have hBecomes : object.body.canBecome (.set table) = true := by rw [hBody]; rfl
  simp only [tabled, Heap.setBody, hObject, if_pos hBecomes, Heap.put, Array.size_setIfInBounds]

theorem scripts_tabled (table : SetTable) : (world.tabled set table).host.scripts = world.host.scripts := by
  have hBecomes : object.body.canBecome (.set table) = true := by rw [hBody]; rfl
  simp only [tabled, Heap.setBody, hObject, if_pos hBecomes, Heap.put]

/-- Instead of its elements so far a set refers to those of the other table. -/
theorem mentions_tabled (hEmpty : old.toList = []) (table : SetTable) :
    (world.tabled set table).Mentions ref ↔ world.Mentions ref ∨ ref ∈ table.toList := by
  have hTabled := object?_tabled hObject hBody table
  have hScripts := scripts_tabled hObject hBody table
  have hOld : object.references = object.attributes.map (·.2) := by
    rw [Object.references, hBody]
    simp only [Host.Body.references, hEmpty, List.append_nil]
  constructor
  · rintro (⟨hNative, hRef⟩ | ⟨number, hRef⟩ | hRef | ⟨hFound, hRef⟩ | ⟨hScript, hRef⟩)
    · exact .inl (.proxy hNative hRef)
    · exact .inl (.cursor number hRef)
    · exact .inl (.converter hRef)
    case object address found =>
      rw [hTabled] at hFound
      by_cases hSet : address = set
      · rw [if_pos hSet] at hFound
        cases hFound
        rcases List.mem_append.mp hRef with hAttribute | hElement
        · exact .inl (.object hObject (hOld ▸ hAttribute))
        · exact .inr hElement
      · rw [if_neg hSet] at hFound
        exact .inl (.object hFound hRef)
    · exact .inl (.script (hScripts ▸ hScript) hRef)
  · rintro ((⟨hNative, hRef⟩ | ⟨number, hRef⟩ | hRef | ⟨hFound, hRef⟩ | ⟨hScript, hRef⟩) | hElement)
    · exact .proxy hNative hRef
    · exact .cursor number hRef
    · exact .converter hRef
    case object address found =>
      by_cases hSet : address = set
      · subst hSet
        cases hObject.symm.trans hFound
        have hThere := hTabled address
        rw [if_pos rfl] at hThere
        exact .object hThere (List.mem_append_left _ (hOld ▸ hRef))
      · have hThere := hTabled address
        rw [if_neg hSet] at hThere
        exact .object (hThere.trans hFound) hRef
    · exact .script (hScripts ▸ hScript) hRef
    · have hThere := hTabled set
      rw [if_pos rfl] at hThere
      exact .object hThere (List.mem_append_right _ hElement)

end Tabled

/-- Whether a world has nothing but what is referred to, refers to nothing that was not made yet, and has an
empty set at that address, whose class leaves it to sets what the operations on it do. -/
structure AwaitsKeys (world : World) (set : Nat) : Prop where
  swept : world.Swept
  made : ∀ address, world.isReferenced (.object address) = true → address < world.host.cells.size
  leaves : world.host.LeavesToSets (.object set)
  empty : ∃ object table, world.host.object? set = some object ∧ object.body = .set table ∧
    table.Sound ∧ table.entries = []

/-- Whether a world is the one at first, but for fresh handles of which the set with that table holds those of
the stored keys. -/
structure Stocks (start : World) (set : Nat) (table : SetTable) (stored : List (Nat × Key))
    (fresh : List (Nat × Handle)) (world : World) : Prop where
  wraps : (start.tabled set table).Wraps fresh world
  sound : table.Sound
  entries : table.entries.Perm
    (stored.map fun entry => (handleHash (start.registry.handle entry.2), .object entry.1))
  distinct : (stored.map (·.2)).Nodup
  there : start.registry.handles stored ⊆ fresh

namespace AwaitsKeys

/-- Besides what the world referred to at first the set refers to its elements. -/
theorem mentions_iff (hAwaits : start.AwaitsKeys set) :
    (start.tabled set table).Mentions ref ↔ start.Mentions ref ∨ ref ∈ table.toList := by
  obtain ⟨object, old, hObject, hBody, _, hEmpty⟩ := hAwaits.empty
  exact mentions_tabled hObject hBody (by simp [SetTable.toList, hEmpty]) table

/-- The set can get another table without leaving anything for a sweep. -/
theorem swept_tabled (hAwaits : start.AwaitsKeys set) (table : SetTable) : (start.tabled set table).Swept := by
  obtain ⟨object, old, hObject, hBody, _, hEmpty⟩ := hAwaits.empty
  intro address hLive
  have hOld : start.host.isLive (.object address) = true := by
    rw [Heap.isLive, object?_tabled hObject hBody] at hLive
    by_cases hSet : address = set
    · rw [hSet, Heap.isLive, hObject]
      rfl
    · rwa [if_neg hSet] at hLive
  have hReferenced := hAwaits.swept address hOld
  rw [isReferenced_iff] at hReferenced ⊢
  exact hReferenced.imp_right fun hMentions => hAwaits.mentions_iff.mpr (.inl hMentions)

/-- What was made since is mentioned by the set only. -/
theorem mem_of_isReferenced (hAwaits : start.AwaitsKeys set) {address : Nat}
    (hNew : start.host.cells.size ≤ address)
    (hReferenced : (start.tabled set table).isReferenced (.object address) = true) :
    .object address ∈ table.toList := by
  have hMade (hThere : start.isReferenced (.object address) = true) : .object address ∈ table.toList := by
    have hIn := hAwaits.made address hThere
    omega
  rcases isReferenced_iff.mp hReferenced with hHeld | hMentions
  · exact hMade (isReferenced_iff.mpr (.inl hHeld))
  · rcases hAwaits.mentions_iff.mp hMentions with hOld | hElement
    · exact hMade (isReferenced_iff.mpr (.inr hOld))
    · exact hElement

/-- At first there are no keys. -/
theorem exists_stocks (hAwaits : start.AwaitsKeys set) : ∃ table, start.Stocks set table [] [] start := by
  obtain ⟨object, table, hObject, hBody, hSound, hEmpty⟩ := hAwaits.empty
  have hSize := size_tabled hObject hBody table
  refine ⟨table, ?_, hSound, by rw [hEmpty]; exact .refl _, List.nodup_nil, List.Subset.refl _⟩
  exact {
    cursors := rfl
    registry := rfl
    scripts := (scripts_tabled hObject hBody table).symm
    size := hSize.le
    old := by
      intro address _
      rw [object?_tabled hObject hBody]
      by_cases hSet : address = set
      · rw [if_pos hSet, hSet, hObject, ← hBody]
      · rw [if_neg hSet]
    new := by
      intro address object hNew
      rw [hSize] at hNew
      refine iff_of_false (fun hThere => ?_) (by simp)
      exact absurd (Heap.lt_size_of_object? hThere) (Nat.not_lt.mpr hNew)
    nodup := List.nodup_nil
    beyond := by simp
    retains := by simp
    native := by
      intro address
      simp only [ownedBy, List.map_nil, List.sum_nil, Native.Cell.retained_zero, Option.map_id']
      rfl
    mentioned := by
      intro address hNew hMentions
      rw [hSize] at hNew
      have hThere := hAwaits.mem_of_isReferenced hNew (isReferenced_iff.mpr (.inr hMentions))
      rw [SetTable.toList, hEmpty] at hThere
      cases hThere }

end AwaitsKeys

/-- The set gets another table with fresh handles in it. -/
theorem Wraps.retable (hAwaits : start.AwaitsKeys set) (hWraps : (start.tabled set table).Wraps fresh world)
    (hElements : ∀ ref ∈ other.toList, ∃ entry ∈ fresh, ref = .object entry.1) :
    (start.tabled set other).Wraps fresh (world.tabled set other) := by
  obtain ⟨object, old, hObject, hBody, _, _⟩ := hAwaits.empty
  have hSize := size_tabled hObject hBody
  have hIn : set < (start.tabled set table).host.cells.size := by
    rw [hSize]
    exact Heap.lt_size_of_object? hObject
  have hSet : world.host.object? set = some { object with body := .set table } := by
    rw [hWraps.old set hIn, object?_tabled hObject hBody, if_pos rfl]
  have hStart := object?_tabled hObject hBody
  have hWorld := object?_tabled hSet rfl other
  exact {
    cursors := hWraps.cursors
    registry := hWraps.registry
    scripts := by
      rw [scripts_tabled hSet rfl, hWraps.scripts, scripts_tabled hObject hBody, scripts_tabled hObject hBody]
    size := by
      rw [size_tabled hSet rfl, hSize, ← hSize table]
      exact hWraps.size
    old := by
      intro address hOld
      rw [hSize, ← hSize table] at hOld
      rw [hWorld, hStart, hWraps.old address hOld, hStart]
      by_cases hSame : address = set
      · rw [if_pos hSame, if_pos hSame]
      · rw [if_neg hSame, if_neg hSame, if_neg hSame]
    new := by
      intro address found hNew
      rw [hSize, ← hSize table] at hNew
      rw [hWorld, if_neg (by omega)]
      exact hWraps.new address found hNew
    nodup := hWraps.nodup
    beyond := by
      rw [hSize, ← hSize table]
      exact hWraps.beyond
    retains := hWraps.retains
    native := hWraps.native
    mentioned := by
      intro address hNew hMentions
      rw [hSize] at hNew
      have hThere := hAwaits.mem_of_isReferenced hNew (World.isReferenced_iff.mpr (.inr hMentions))
      obtain ⟨⟨place, handle⟩, hEntry, hPlace⟩ := hElements _ hThere
      cases hPlace
      exact ⟨handle, hEntry⟩ }

namespace Stocks

/-- The elements are the handles of the stored keys. -/
theorem mem_entries (hStocks : start.Stocks set table stored fresh world) {hash : Int}
    (hEntry : (hash, ref) ∈ table.entries) : ∃ place key, (place, key) ∈ stored ∧ ref = .object place ∧
      hash = handleHash (start.registry.handle key) ∧
        world.host.IsHandle ref (start.registry.handle key) := by
  obtain ⟨⟨place, key⟩, hStored, hSame⟩ := List.mem_map.mp (hStocks.entries.mem_iff.mp hEntry)
  obtain ⟨hHash, hRef⟩ := Prod.mk.inj hSame
  have hHandle := hStocks.wraps.isHandle (hStocks.there (Registry.mem_handles hStored))
  exact ⟨place, key, hStored, hRef.symm, hHash.symm, hRef ▸ hHandle⟩

/-- The elements of the table are the handles that are kept for keys. -/
theorem mem_toList (hStocks : start.Stocks set table stored fresh world) :
    ref ∈ table.toList ↔ ∃ place key, (place, key) ∈ stored ∧ ref = .object place := by
  have hPerm := hStocks.entries.map Prod.snd
  rw [List.map_map] at hPerm
  rw [SetTable.toList, hPerm.mem_iff, List.mem_map]
  constructor
  · rintro ⟨⟨place, key⟩, hStored, rfl⟩
    exact ⟨place, key, hStored, rfl⟩
  · rintro ⟨place, key, hStored, rfl⟩
    exact ⟨(place, key), hStored, rfl⟩

/-- What is held is referred to, and what the world referred to at first, and the elements. -/
theorem isReferenced_iff (hStocks : start.Stocks set table stored fresh world)
    (hAwaits : start.AwaitsKeys set) :
    world.isReferenced ref = true ↔ ref ∈ world.held ∨ start.Mentions ref ∨ ref ∈ table.toList := by
  rw [hStocks.wraps.isReferenced_iff, hAwaits.mentions_iff]

/-- The set is one of handles. -/
theorem hasHandles (hStocks : start.Stocks set table stored fresh world) (hAwaits : start.AwaitsKeys set) :
    world.host.HasHandles (.object set) table := by
  obtain ⟨object, old, hObject, hBody, _, _⟩ := hAwaits.empty
  have hIn : set < (start.tabled set table).host.cells.size := by
    rw [size_tabled hObject hBody]
    exact Heap.lt_size_of_object? hObject
  have hSet : world.host.object? set = some { object with body := .set table } := by
    rw [hStocks.wraps.old set hIn, object?_tabled hObject hBody, if_pos rfl]
  have hView := Heap.view_of_object? hSet
  have hOldView := Heap.view_of_object? hObject
  have hScripts : world.host.scripts = start.host.scripts :=
    hStocks.wraps.scripts.trans (scripts_tabled hObject hBody table)
  refine ⟨Option.isSome_iff_exists.mpr ⟨_, hSet⟩, ?_, ?_, hStocks.sound, ?_⟩
  · apply hAwaits.leaves.update
    · rw [Heap.script?, Heap.script?, hView, hOldView, hScripts]
    · rw [hView, hOldView]
    · rw [Heap.body, hOldView, hBody]
      rfl
  · rw [Heap.body, hView]
  · intro hash ref hEntry
    obtain ⟨place, key, _, _, hHash, hHandle⟩ := hStocks.mem_entries hEntry
    exact ⟨_, hHandle, hHash⟩

/-- The set gets another table with the handles of other keys. -/
theorem retable (hStocks : start.Stocks set table stored fresh world) (hAwaits : start.AwaitsKeys set)
    (left : List (Nat × Key)) (hSound : other.Sound) (hEntries : other.entries.Perm
      (left.map fun entry => (handleHash (start.registry.handle entry.2), .object entry.1)))
    (hDistinct : (left.map (·.2)).Nodup) (hThere : start.registry.handles left ⊆ fresh) :
    start.Stocks set other left fresh (world.tabled set other) where
  wraps := by
    apply hStocks.wraps.retable hAwaits
    intro ref hRef
    obtain ⟨⟨_, _⟩, hEntry, rfl⟩ := List.mem_map.mp hRef
    obtain ⟨⟨place, key⟩, hStored, hSame⟩ := List.mem_map.mp (hEntries.mem_iff.mp hEntry)
    exact ⟨_, hThere (Registry.mem_handles hStored), (Prod.mk.inj hSame).2.symm⟩
  sound := hSound
  entries := hEntries
  distinct := hDistinct
  there := hThere

/-- When the set gets another table what is left over are elements that it has no more. -/
theorem isReferenced_retable (hStocks : start.Stocks set table stored fresh world)
    (hAwaits : start.AwaitsKeys set) (hSwept : world.Swept) {fewer : List (Nat × Key)}
    (hOther : start.Stocks set other fewer fresh (world.tabled set other)) {address : Nat}
    (hLive : (world.tabled set other).host.isLive (.object address) = true)
    (hStays : .object address ∈ table.toList → .object address ∈ other.toList) :
    (world.tabled set other).isReferenced (.object address) = true := by
  have hSet := hStocks.hasHandles hAwaits
  have hThere : world.host.isLive (.object address) = true := by
    obtain ⟨object, hObject⟩ := Option.isSome_iff_exists.mp hSet.live
    have hBody : object.body = .set table := by rw [← hSet.body, Heap.body, Heap.view_of_object? hObject]
    rw [Heap.isLive, object?_tabled hObject hBody] at hLive
    by_cases hSame : address = set
    · rw [hSame]
      exact hSet.live
    · rwa [if_neg hSame] at hLive
  rw [hOther.isReferenced_iff hAwaits]
  rcases (hStocks.isReferenced_iff hAwaits).mp (hSwept address hThere) with hHeld | hMentions | hElement
  · exact .inl hHeld
  · exact .inr (.inl hMentions)
  · exact .inr (.inr (hStays hElement))

/-- The stored handles are there as long as the set is, whatever else is given up. -/
theorem within (hStocks : start.Stocks set table stored fresh world) (hAwaits : start.AwaitsKeys set)
    {after : World} (hWithin : (start.tabled set table).WrapsWithin fresh after) :
    ∃ fresh, start.Stocks set table stored fresh after := by
  obtain ⟨some, hSome, hWraps⟩ := hWithin
  refine ⟨some, hWraps, hStocks.sound, hStocks.entries, hStocks.distinct, ?_⟩
  intro entry hEntry
  obtain ⟨⟨place, key⟩, hStored, rfl⟩ := List.mem_map.mp hEntry
  have hOld := hStocks.there (Registry.mem_handles hStored)
  -- The set refers to the handle, so it was not given up.
  have hMentions : (start.tabled set table).Mentions (.object place) :=
    hAwaits.mentions_iff.mpr (.inr (hStocks.mem_toList.mpr ⟨place, key, hStored, rfl⟩))
  obtain ⟨handle, hStill⟩ := hWraps.mentioned place (hStocks.wraps.beyond _ hOld) hMentions
  rw [hStocks.wraps.eq_of_mem hOld (hSome hStill)]
  exact hStill

end Stocks

end World

end HeapBridge
