import HeapBridge.Proofs.Ownership.Lives
/-!
The references that proxies hold. The native heap holds one reference to a host value for each proxy of it
that is alive: it comes with the payload of the proxy and goes with it, in the move in which the proxy comes
to its end.
-/
namespace HeapBridge

open Host (Ref)
open Native (Payload)

namespace Native

def Cell.references : Cell → Multiset Ref
  | .reserved _ => 0
  | .live object => object.payload.references

namespace Heap

variable {heap next : Heap} {address : Nat} {cell : Cell} {ends : List End}

/-- The references from the native heap, cell by cell. -/
theorem references_eq_sum (heap : Heap) :
    (heap.references : Multiset Ref) =
      (heap.cells.toList.map fun cell => cell.elim 0 Cell.references).sum := by
  unfold references objects
  induction heap.cells.toList with
  | nil => rfl
  | cons cell rest ih =>
    rw [List.map_cons, List.sum_cons, ← ih]
    rcases cell with _ | nativeClass | object <;>
      simp [Cell.references, ← Multiset.coe_add]

/-- A cell is replaced, and what it holds with it. -/
theorem references_setCell (hCell : heap.cell? address = some cell) (new : Option Cell) :
    cell.references + ((heap.setCell address new).references : Multiset Ref) =
      new.elim 0 Cell.references + (heap.references : Multiset Ref) := by
  have hOld : heap.cells.toList[address]? = some (some cell) := by
    simpa using Option.join_eq_some_iff.mp hCell
  have hSum := sum_map_set hOld new fun cell => cell.elim 0 Cell.references
  simpa [references_eq_sum, setCell] using hSum

theorem references_reserve (heap : Heap) (nativeClass : NativeClass) :
    (heap.reserve nativeClass).2.references = heap.references := by
  simp [references, objects, reserve]

theorem references_install {nativeClass : NativeClass}
    (hCell : heap.cell? address = some (.reserved nativeClass)) (payload : Payload) :
    ((heap.install address payload).references : Multiset Ref) =
      payload.references + (heap.references : Multiset Ref) := by
  have hSet := references_setCell hCell (some (.live { retainCount := 1, payload }))
  rwa [Cell.references, zero_add] at hSet

theorem references_discard {nativeClass : NativeClass}
    (hCell : heap.cell? address = some (.reserved nativeClass)) :
    ((heap.discard address).references : Multiset Ref) = heap.references := by
  have hSet := references_setCell hCell none
  simpa [discard, hCell, Cell.references] using hSet

/-- The last release gives up what the payload holds. -/
theorem references_release {payload : Payload}
    (hObject : heap.object? address = some { retainCount := 1, payload }) :
    (heap.references : Multiset Ref) =
      payload.references + ((heap.release address).2.references : Multiset Ref) := by
  have hSet := references_setCell (object?_eq_some_iff.mp hObject) none
  simpa [release, hObject, Cell.references] using hSet.symm

/-- A step in which an object comes to its end does nothing else. -/
theorem Step.references_of_ended (step : heap.Step next ends) {payload : Payload}
    (hObject : heap.object? address = some { retainCount := 1, payload })
    (hVacated : next.Vacated address) :
    (heap.references : Multiset Ref) = payload.references + (next.references : Multiset Ref) := by
  have hEnded : (address, payload) ∈ ends := by
    refine (step.kept hObject).resolve_right fun ⟨other, hOther, _⟩ => ?_
    rw [object?_of_vacant hVacated.1] at hOther
    cases hOther
  cases step with
  | last hLast =>
    obtain ⟨rfl, rfl⟩ := Prod.mk.inj (List.mem_singleton.mp hEnded)
    exact references_release hLast
  | _ => cases hEnded

end Heap

end Native

variable {may : Deed → Prop} {before after : Account} {entry : End}

/-- What a move does to native objects and what it does to references from outside exclude each other. -/
theorem Move.native_or_held (move : Move may before after) :
    after.world.native = before.world.native ∨ after.world.held = before.world.held := by
  cases move with
  | host change =>
    cases change with
    | giveUp => exact .inr (World.held_reclaim _ _)
    | _ => exact .inl rfl
  | drop address _ => exact .inr (World.aside_dropNative address _).1
  | _ => first | exact .inl rfl | exact .inr rfl

/-- The end of an object gives up just what its payload holds. -/
theorem Account.Ends.references (hEnds : before.Ends may after entry) (hBalanced : before.Balanced) :
    (before.world.native.references : Multiset Ref) =
        entry.2.references + (after.world.native.references : Multiset Ref) ∧
      after.world.held = before.world.held := by
  obtain ⟨ends, hStep⟩ := hEnds.move.nativeStep hBalanced
  refine ⟨hStep.step.references_of_ended hEnds.last hEnds.vacated, ?_⟩
  refine hEnds.move.native_or_held.resolve_left fun hSame => ?_
  have hVacant := Native.Heap.object?_of_vacant hEnds.vacated.1
  rw [hSame, hEnds.last] at hVacant
  cases hVacant

end HeapBridge
