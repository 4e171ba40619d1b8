import HeapBridge.Proofs.Handles.Crossing
import HeapBridge.Proofs.Sets.Classes
import HeapBridge.Proofs.Sets.Comparing
/-!
Handles as elements. A set that holds handles takes two of them for the same if their types and pointers are,
so a search for a handle comes to the stored one of its type and pointer, or to a place for it.
-/
namespace HeapBridge.Host

variable {host : Heap} {set a b key ref : Ref} {x y handle : Handle} {table : SetTable} {context : Context}
  {level : Nat}

/-- Whether an object is a handle of the same type and pointer. -/
def Heap.isAlike (heap : Heap) (handle : Handle) (ref : Ref) : Bool :=
  match heap.body ref with
  | .handle other => other.pointer.number = handle.pointer.number && other.typeId = handle.typeId
  | _ => false

theorem Heap.IsHandle.isAlike (hA : host.IsHandle a x) (handle : Handle) :
    host.isAlike handle a = (x.pointer.number = handle.pointer.number && x.typeId = handle.typeId) := by
  simp only [Heap.isAlike, hA.1]

/-- Whether an object is a set of handles with that table, and its class leaves it to sets what the operations
on it do. -/
structure Heap.HasHandles (heap : Heap) (set : Ref) (table : SetTable) : Prop where
  live : heap.isLive set = true
  leaves : heap.LeavesToSets set
  body : heap.body set = .set table
  sound : table.Sound
  element : ∀ hash ref, (hash, ref) ∈ table.entries →
    ∃ handle, heap.IsHandle ref handle ∧ hash = handleHash handle

theorem Heap.HasHandles.elements? (hSet : host.HasHandles set table) :
    (host.body set).elements? = some table := by
  rw [hSet.body]
  rfl

/-- Host code can go on for some levels. -/
theorem exists_ops : ∃ level, Host.ops = Ops.ofDepth (level + 1) := ⟨4999, rfl⟩

theorem answers_hash_handle_ofDepth (level : Nat) (hA : host.IsHandle a x) :
    ((Ops.ofDepth (level + 1)).hash a).Answers context host (handleHash x) :=
  answers_hash_handle (Ops.ofDepth level) hA

/-- Handles are the same for the host if their types and pointers are. -/
theorem answers_same_handles (hA : host.IsHandle a x) (hB : host.IsHandle b y)
    (hNesting : context.nesting < nestingLimit) :
    (same (Ops.ofDepth (level + 1)) a b).Answers context host (host.isAlike y a) := by
  rw [hA.isAlike]
  unfold same
  by_cases hOne : a = b
  · subst hOne
    have hSelf : x = y := Body.handle.inj (hA.1.symm.trans hB.1)
    rw [if_pos rfl, hSelf]
    simp only [decide_true, Bool.and_true]
    exact .pure
  · rw [if_neg hOne]
    have hCompared : ((Ops.ofDepth (level + 1)).compare .equal a b).Answers context host
        (.bool (x.pointer.number = y.pointer.number && x.typeId = y.typeId)) := answers_compared_handles _ hA hB hNesting
    exact .bind hCompared fun world _ => eval_decided_bool _ _ context world

namespace SetObject

/-- A search for a handle comes to the element of its type and pointer, or to a place for it. -/
theorem exists_located_handle (level : Nat) (hSet : host.HasHandles set table)
    (hKey : host.IsHandle key handle) (hNesting : context.nesting < nestingLimit) (adding : Bool) :
    ∃ place, (locate (Ops.ofDepth (level + 1)) set key (handleHash handle) adding).Answers context host place ∧
      match place with
      | .stored index => ∃ ref, table.slot index = .element (handleHash handle) ref ∧
          host.isAlike handle ref = true
      | .free index reusable => table.Placeable (handleHash handle) index reusable ∧
          ∀ ref ∈ table.toList, host.isAlike handle ref = false := by
  have hMatch : ∀ ref, (handleHash handle, ref) ∈ table.entries →
      (matching (Ops.ofDepth (level + 1)) ref key).Answers context host (host.isAlike handle ref) := by
    intro ref hEntry
    obtain ⟨other, hOther, _⟩ := hSet.element _ _ hEntry
    apply answers_matching
    · exact refersTo_of_element hSet.live hSet.elements? (List.mem_map_of_mem hEntry)
    · exact answers_same_handles hOther hKey hNesting
  have hSelf : host.isAlike handle key = true := by
    rw [hKey.isAlike]
    simp
  refine ⟨_, answers_locate hSet.elements? hMatch hSelf adding, ?_⟩
  rcases hSet.sound.search (handleHash handle) (host.isAlike handle) with
    ⟨index, ref, hPlace, hElement, hAlike⟩ | ⟨index, reusable, hPlace, hPlaceable, hNone⟩
  · rw [hPlace]
    exact ⟨ref, hElement, hAlike⟩
  · rw [hPlace]
    refine ⟨hPlaceable, ?_⟩
    -- An element under another hash is of another type or pointer.
    intro ref hRef
    obtain ⟨⟨hash, _⟩, hEntry, rfl⟩ := List.mem_map.mp hRef
    obtain ⟨other, hOther, hHash⟩ := hSet.element _ _ hEntry
    apply Bool.eq_false_iff.mpr
    intro hAlike
    have hSame := hAlike
    rw [hOther.isAlike, Bool.and_eq_true, decide_eq_true_eq, decide_eq_true_eq] at hSame
    rw [hHash, handleHash_congr hSame.2 hSame.1] at hEntry
    rw [hNone _ hEntry] at hAlike
    cases hAlike

/-- Among handles a set finds a key by comparing what they stand for; no script is asked. -/
theorem answers_containsHashed_handle (hSet : host.HasHandles set table) (hKey : host.IsHandle key handle)
    (hNesting : context.nesting < nestingLimit) :
    (containsHashed (Ops.ofDepth (level + 1)) set key (handleHash handle)).Answers context host
      (table.toList.any (host.isAlike handle)) := by
  obtain ⟨place, hLocate, hPlace⟩ := exists_located_handle level hSet hKey hNesting false
  apply HostM.Answers.bind hLocate
  cases place with
  | stored index =>
    obtain ⟨ref, hElement, hAlike⟩ := hPlace
    have hThere : ref ∈ table.toList := List.mem_map_of_mem (SetTable.mem_entries_of_slot hElement)
    rw [List.any_eq_true.mpr ⟨ref, hThere, hAlike⟩]
    exact .pure
  | free index reusable =>
    have hNone : table.toList.any (host.isAlike handle) = false := by
      simpa using hPlace.2
    rw [hNone]
    exact .pure

end SetObject

end HeapBridge.Host
