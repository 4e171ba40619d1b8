import HeapBridge.Host.Change
import Mathlib.Algebra.BigOperators.Group.List.Basic
import Mathlib.Algebra.Order.Group.Multiset
import Mathlib.Tactic.Abel
/-!
Who owns what in the native heap. A reference to a native object is owned from outside the heaps or by
a live handle, and storage that was reserved is owned from outside. Holdings account for a native heap
if every object has as many references as are owned, and an object that nobody owns is not there. Each
operation of the heap keeps it so, as long as it is used by an owner.
-/
namespace HeapBridge

open Native (NativeClass Payload)

/-- Something that is owned in the native heap. -/
inductive Holding where
  /-- A counted reference to an object. -/
  | reference (address : Nat)
  /-- Storage without an object. -/
  | storage (address : Nat)
  deriving DecidableEq, Repr

/-- A list of cells with one of them replaced. -/
theorem sum_map_set {α β : Type} {cells : List α} {address : Nat} {old : α}
    (hOld : cells[address]? = some old) (new : α) (share : α → Multiset β) :
    share old + ((cells.set address new).map share).sum = share new + (cells.map share).sum := by
  induction cells generalizing address with
  | nil => simp at hOld
  | cons cell rest ih =>
    cases address with
    | zero =>
      obtain rfl : cell = old := by simpa using hOld
      simp only [List.set_cons_zero, List.map_cons, List.sum_cons]
      abel
    | succ address =>
      have hRest : share old + ((rest.set address new).map share).sum =
          share new + (rest.map share).sum := ih (by simpa using hOld)
      simp only [List.set_cons_succ, List.map_cons, List.sum_cons]
      calc share old + (share cell + ((rest.set address new).map share).sum)
          = share cell + (share old + ((rest.set address new).map share).sum) := by abel
        _ = share cell + (share new + (rest.map share).sum) := by rw [hRest]
        _ = share new + (share cell + (rest.map share).sum) := by abel

/-- What a handle owns in the native heap. Handles of an external family, and pointers to anything but
native objects, are nothing to it. -/
def Handle.holdings (handle : Handle) : Multiset Holding :=
  match handle.ownership, handle.pointer with
  | none, _ => 0
  | some (.external _), _ => 0
  | some _, .native address => {.reference address}
  | some _, _ => 0

namespace Host

def Object.holdings (object : Object) : Multiset Holding :=
  match object.body with
  | .handle handle => handle.holdings
  | _ => 0

namespace Heap

/-- What the handles that are alive own in the native heap. -/
def holdings (heap : Heap) : Multiset Holding :=
  (heap.cells.toList.map fun cell => cell.elim 0 Object.holdings).sum

end Heap

theorem Object.holdings_of_isHandle_eq_false {object : Object}
    (hBody : object.body.isHandle = false) : object.holdings = 0 := by
  unfold Object.holdings
  split
  next handle hHandle => simp [hHandle, Body.isHandle] at hBody
  next => rfl

theorem Body.isHandle_of_canBecome {old new : Body} (hBecome : old.canBecome new = true) :
    old.isHandle = false ∧ new.isHandle = false := by
  cases old <;> cases new <;> simp_all [Body.canBecome, Body.isHandle]

/-- A handle stays what it is while it lives, and nothing becomes one. -/
theorem Object.Becomes.holdings_eq {old new : Object} (hBecomes : old.Becomes new) :
    new.holdings = old.holdings := by
  rcases hBecomes.2 with hSame | hBecome
  · simp only [Object.holdings, hSame]
  · obtain ⟨hOld, hNew⟩ := Body.isHandle_of_canBecome hBecome
    rw [holdings_of_isHandle_eq_false hOld, holdings_of_isHandle_eq_false hNew]

namespace Heap

theorem holdings_allocate (heap : Heap) (object : Object) :
    (heap.allocate object).2.holdings = object.holdings + heap.holdings := by
  simp [holdings, allocate, add_comm]

theorem getElem?_of_object? {heap : Heap} {address : Nat} {object : Object}
    (hObject : heap.object? address = some object) :
    heap.cells.toList[address]? = some (some object) := by
  simpa using Option.join_eq_some_iff.mp hObject

/-- What handles own does not change with what is said of an object. -/
theorem holdings_put {heap : Heap} {address : Nat} {old new : Object}
    (hOld : heap.object? address = some old) (hSame : new.holdings = old.holdings) :
    (heap.put address new).holdings = heap.holdings := by
  have hSum := sum_map_set (getElem?_of_object? hOld) (some new)
    (fun cell => cell.elim 0 Object.holdings)
  simp only [Option.elim_some, hSame] at hSum
  simpa [holdings, put] using add_left_cancel hSum

/-- An object that is freed owned what its handle owned. -/
theorem holdings_free {heap : Heap} {address : Nat} {object : Object}
    (hObject : heap.object? address = some object) :
    heap.holdings = object.holdings + (heap.free address).holdings := by
  have hSum := sum_map_set (getElem?_of_object? hObject) none
    (fun cell => cell.elim 0 Object.holdings)
  simp only [Option.elim_some, Option.elim_none, zero_add] at hSum
  simpa [holdings, free] using hSum.symm

end Heap

end Host

/-- Whether holdings account for a native heap: every object has as many references as are owned and has
one at least, and storage is owned once at most and holds no object. -/
structure Native.Heap.OwnedBy (heap : Native.Heap) (owners : Multiset Holding) : Prop where
  counted : ∀ address, heap.retainCount address = owners.count (.reference address)
  alive : ∀ address object, heap.object? address = some object → 0 < object.retainCount
  stored : ∀ address, .storage address ∈ owners →
    ∃ nativeClass, heap.cell? address = some (.reserved nativeClass)
  single : ∀ address, owners.count (.storage address) ≤ 1

namespace Native.Heap.OwnedBy

variable {heap : Native.Heap} {owners : Multiset Holding} {address : Nat}

/-- An object is there as soon as a reference to it is owned. -/
theorem exists_object (hOwned : heap.OwnedBy owners) (address : Nat)
    (hReference : .reference address ∈ owners) :
    ∃ object, heap.object? address = some object := by
  have hCount := hOwned.counted address
  have hPositive := Multiset.count_pos.mpr hReference
  cases hObject : heap.object? address with
  | some object => exact ⟨object, rfl⟩
  | none =>
    rw [retainCount, hObject, Option.map_none, Option.getD_none] at hCount
    omega

/-- An object is there only if a reference to it is owned. -/
theorem reference_mem {object : Object} (hOwned : heap.OwnedBy owners)
    (hObject : heap.object? address = some object) : .reference address ∈ owners := by
  rw [← Multiset.count_pos, ← hOwned.counted, retainCount_of_object? hObject]
  exact hOwned.alive address object hObject

theorem reference_notMem (hOwned : heap.OwnedBy owners) (hNone : heap.object? address = none) :
    .reference address ∉ owners := by
  intro hReference
  obtain ⟨object, hObject⟩ := hOwned.exists_object _ hReference
  rw [hNone] at hObject
  cases hObject

/-- Whoever reserves storage has it. -/
theorem reserve (hOwned : heap.OwnedBy owners) (nativeClass : NativeClass) :
    (heap.reserve nativeClass).2.OwnedBy ({.storage heap.cells.size} + owners) := by
  have hNew : .storage heap.cells.size ∉ owners := by
    intro hStorage
    obtain ⟨other, hCell⟩ := hOwned.stored _ hStorage
    rw [cell?_size] at hCell
    cases hCell
  refine ⟨fun address => ?_, fun address object hObject => ?_, fun address hStorage => ?_,
    fun address => ?_⟩
  · rw [retainCount, object?_reserve, Multiset.count_add, Multiset.count_singleton, if_neg (by simp),
      zero_add]
    exact hOwned.counted address
  · rw [object?_reserve] at hObject
    exact hOwned.alive address object hObject
  · rw [cell?_reserve]
    split
    next => exact ⟨nativeClass, rfl⟩
    next hOther =>
      rw [Multiset.mem_add, Multiset.mem_singleton, Holding.storage.injEq] at hStorage
      exact hOwned.stored address (hStorage.resolve_left hOther)
  · rw [Multiset.count_add, Multiset.count_singleton]
    split
    next hSame =>
      rw [Holding.storage.injEq] at hSame
      rw [hSame, Multiset.count_eq_zero.mpr hNew]
    next => simpa using hOwned.single address

/-- Storage that is owned once is owned no more after that. -/
theorem storage_notMem (hOwned : heap.OwnedBy ({.storage address} + owners)) :
    .storage address ∉ owners := by
  have hSingle := hOwned.single address
  rw [Multiset.count_add, Multiset.count_singleton_self] at hSingle
  exact Multiset.count_eq_zero.mp (by omega)

theorem stored_of_ne {other : Nat} (hOwned : heap.OwnedBy ({.storage address} + owners))
    (hStorage : .storage other ∈ owners) :
    other ≠ address ∧ ∃ nativeClass, heap.cell? other = some (.reserved nativeClass) :=
  ⟨fun hSame => hOwned.storage_notMem (hSame ▸ hStorage),
    hOwned.stored other (Multiset.mem_add.mpr (.inr hStorage))⟩

theorem abandon (hOwned : heap.OwnedBy ({.storage address} + owners)) : heap.OwnedBy owners where
  counted other := by simpa using hOwned.counted other
  alive := hOwned.alive
  stored other hStorage := hOwned.stored other (Multiset.mem_add.mpr (.inr hStorage))
  single other :=
    (Multiset.count_le_of_le _ (Multiset.le_add_left _ _)).trans (hOwned.single other)

/-- Storage that was never put to use is given back by the one who has it. -/
theorem discard (hOwned : heap.OwnedBy ({.storage address} + owners)) :
    (heap.discard address).OwnedBy owners := by
  obtain ⟨nativeClass, hCell⟩ := hOwned.stored address (by simp)
  refine ⟨fun other => ?_, fun other object hObject => ?_, fun other hStorage => ?_,
    fun other => ?_⟩
  · rw [retainCount, object?_discard hCell]
    simpa [retainCount] using hOwned.counted other
  · rw [object?_discard hCell] at hObject
    exact hOwned.alive other object hObject
  · obtain ⟨hOther, hReserved⟩ := hOwned.stored_of_ne hStorage
    rwa [cell?_discard hCell, if_neg hOther]
  · exact (Multiset.count_le_of_le _ (Multiset.le_add_left _ _)).trans (hOwned.single other)

/-- Putting storage to use turns it into a first reference. -/
theorem install (hOwned : heap.OwnedBy ({.storage address} + owners)) (payload : Payload) :
    (heap.install address payload).OwnedBy ({.reference address} + owners) := by
  obtain ⟨nativeClass, hCell⟩ := hOwned.stored address (by simp)
  have hNone : .reference address ∉ owners := fun hReference =>
    hOwned.reference_notMem (object?_of_reserved hCell) (Multiset.mem_add.mpr (.inr hReference))
  refine ⟨fun other => ?_, fun other object hObject => ?_, fun other hStorage => ?_,
    fun other => ?_⟩
  · rw [retainCount, object?_install hCell, Multiset.count_add, Multiset.count_singleton]
    split
    next hSame => simp [hSame, Multiset.count_eq_zero.mpr hNone]
    next hOther => simpa [retainCount, hOther] using hOwned.counted other
  · rw [object?_install hCell] at hObject
    split at hObject
    next => cases hObject; exact Nat.one_pos
    next => exact hOwned.alive other object hObject
  · rw [Multiset.mem_add, Multiset.mem_singleton] at hStorage
    obtain ⟨hOther, hReserved⟩ := hOwned.stored_of_ne (hStorage.resolve_left (by simp))
    rwa [cell?_install hCell, if_neg hOther]
  · rw [Multiset.count_add, Multiset.count_singleton, if_neg (by simp), zero_add]
    exact (Multiset.count_le_of_le _ (Multiset.le_add_left _ _)).trans (hOwned.single other)

/-- Only an owner can make owners. -/
theorem retain (hOwned : heap.OwnedBy owners) (hReference : .reference address ∈ owners) :
    (heap.retain address).OwnedBy ({.reference address} + owners) := by
  obtain ⟨found, hFound⟩ := hOwned.exists_object _ hReference
  refine ⟨fun other => ?_, fun other object hObject => ?_, fun other hStorage => ?_,
    fun other => ?_⟩
  · have hCounted := hOwned.counted other
    rw [retainCount, object?_retain hFound, Multiset.count_add, Multiset.count_singleton]
    split
    next hSame =>
      rw [hSame, retainCount_of_object? hFound] at hCounted
      simp [hSame, ← hCounted, Nat.add_comm]
    next hOther => simpa [retainCount, hOther] using hCounted
  · rw [object?_retain hFound] at hObject
    split at hObject
    next => cases hObject; exact Nat.succ_pos _
    next => exact hOwned.alive other object hObject
  · rw [Multiset.mem_add, Multiset.mem_singleton] at hStorage
    obtain ⟨stored, hCell⟩ := hOwned.stored other (hStorage.resolve_left (by simp))
    have hOther : other ≠ address := by
      intro hSame
      rw [hSame, object?_eq_some_iff.mp hFound] at hCell
      cases hCell
    exact ⟨stored, by rwa [cell?_retain hFound, if_neg hOther]⟩
  · rw [Multiset.count_add, Multiset.count_singleton, if_neg (by simp), zero_add]
    exact hOwned.single other

/-- An owner that releases is one no more. -/
theorem release (hOwned : heap.OwnedBy ({.reference address} + owners)) :
    (heap.release address).2.OwnedBy owners := by
  obtain ⟨found, hFound⟩ := hOwned.exists_object address (by simp)
  have hLive := hOwned.alive address found hFound
  refine ⟨fun other => ?_, fun other object hObject => ?_, fun other hStorage => ?_,
    fun other => ?_⟩
  · have hCounted := hOwned.counted other
    rw [Multiset.count_add, Multiset.count_singleton] at hCounted
    rw [retainCount, object?_release hFound]
    split
    next hSame =>
      rw [hSame, if_pos rfl, retainCount_of_object? hFound] at hCounted
      subst hSame
      split <;> simp <;> omega
    next hOther => simpa [retainCount, hOther] using hCounted
  · rw [object?_release hFound] at hObject
    split at hObject
    next =>
      split at hObject
      next => cases hObject
      next => cases hObject; simp only; omega
    next => exact hOwned.alive other object hObject
  · obtain ⟨stored, hCell⟩ := hOwned.stored other (Multiset.mem_add.mpr (.inr hStorage))
    have hOther : other ≠ address := by
      intro hSame
      rw [hSame, object?_eq_some_iff.mp hFound] at hCell
      cases hCell
    exact ⟨stored, by rwa [cell?_release hFound, if_neg hOther]⟩
  · exact (Multiset.count_le_of_le _ (Multiset.le_add_left _ _)).trans (hOwned.single other)

end Native.Heap.OwnedBy

end HeapBridge
