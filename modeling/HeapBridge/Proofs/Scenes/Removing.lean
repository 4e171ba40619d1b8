import HeapBridge.Proofs.Scenes.Searching
/-!
Taking elements out. Wherever a scene is followed, a set that is asked to discard an object searches its table for
it. The element that is found goes, and may be given up then; the other elements stay, as long as the set does.
-/
namespace HeapBridge

open Host (Body Context Fault Heap HostM Object Ref SetTable)

variable {scene : Scene} {world before middle after : World} {ref set key : Ref} {table left : SetTable}
  {context : Context} {hash : Int} {index : Nat}

namespace Host

/-- A search comes to an element if one under the hash is the one, and no comparison under the hash fails. -/
theorem SetTable.Sound.exists_placeOf (hSound : table.Sound) {outcome : Ref → Except Fault Bool}
    (hEntry : (hash, ref) ∈ table.entries) (hSame : outcome ref = .ok true)
    (hCompared : ∀ other, (hash, other) ∈ table.entries → ∃ answer, outcome other = .ok answer) :
    ∃ index found, table.placeOf hash outcome = .ok (.stored index) ∧ table.slot index = .element hash found := by
  let isSame (other : Ref) : Bool := (outcome other).toOption = some true
  have hOutcome : ∀ other, (hash, other) ∈ table.entries → outcome other = .ok (isSame other) := by
    intro other hOther
    obtain ⟨answer, hAnswer⟩ := hCompared other hOther
    simp only [isSame, hAnswer]
    cases answer <;> rfl
  rw [SetTable.placeOf, SetTable.trySearch_eq hOutcome]
  rcases hSound.search hash isSame with
    ⟨index, found, hPlace, hElement, _⟩ | ⟨index, reusable, _, _, hNone⟩
  · exact ⟨index, found, congrArg Except.ok hPlace, hElement⟩
  · have hNot := hNone ref hEntry
    simp only [isSame, hSame] at hNot
    cases hNot

/-- Whether each element of a table stands where a search for it begins. -/
def SetTable.IsDirect (bits : Nat) (table : SetTable) : Prop :=
  table.slots.size = 2 ^ bits ∧ table.fill * 5 < (table.slots.size - 1) * 3 ∧
    ∀ index < table.slots.size, ∀ entry ∈ (table.slot index).element?, SetTable.path table.slots entry.1 0 = index

instance (bits : Nat) (table : SetTable) : Decidable (table.IsDirect bits) := inferInstanceAs (Decidable (_ ∧ _ ∧ _))

/-- A table without collisions is sound. -/
theorem SetTable.IsDirect.sound {bits : Nat} (hDirect : table.IsDirect bits) : table.Sound where
  size := ⟨bits, hDirect.1⟩
  load := hDirect.2.1
  reaches index hash ref hElement := by
    have hIndex : index < table.slots.size := by
      by_contra hOut
      rw [SetTable.slotAt, Array.getD_eq_getD_getElem?, Array.getElem?_eq_none (Nat.not_lt.mp hOut)] at hElement
      cases hElement
    have hHere : table.slot index = .element hash ref := hElement
    exact ⟨0, hDirect.2.2 index hIndex (hash, ref) (by rw [hHere]; rfl),
      fun _ hEarlier => absurd hEarlier (Nat.not_lt_zero _)⟩

/-- An element that a search comes to is taken out and let go of. -/
theorem SetObject.eval_discard_stored (hHash : (Host.ops.hash key).eval context world = (.ok hash, before))
    (hLocate : (SetObject.locate Host.ops set key hash false).eval context before = (.ok (.stored index), middle))
    (hBody : middle.host.body set = .set table) (hElement : table.slot index = .element hash ref)
    (hRelease : (Host.ops.release [ref]).eval context
      { middle with host := middle.host.setBody set (.set (table.eraseAt index)) } = (.ok (), after)) :
    (SetObject.discard Host.ops set key).eval context world = (.ok true, after) := by
  have hAt : table.at? index = some ref := by
    rw [SetTable.at?, hElement]
    rfl
  have hHashed : (SetObject.discardHashed Host.ops set key hash).eval context before = (.ok true, after) := by
    rw [SetObject.discardHashed, HostM.eval_bind, hLocate]
    dsimp only
    rw [HostM.eval_bind, SetObject.eval_table hBody]
    dsimp only
    rw [HostM.eval_bind, SetObject.eval_setTable hBody, hAt]
    dsimp only [Option.toList]
    rw [HostM.eval_bind, hRelease]
    rfl
  apply HostM.eval_tryCatch
  rw [HostM.eval_bind, hHash]
  exact hHashed

/-- Something is discarded, as host code does it. -/
theorem runOn_discard {found : Bool} (hLeaves : world.host.LeavesToSets set) (hBody : world.host.body set = .set table)
    (hDiscard : (SetObject.discard Host.ops set key).eval { nesting := 1 } world = (.ok found, after)) :
    HostM.runOn (call Host.ops set "discard" [key]) world = (.ok .nil, after) := by
  have hDone : (Functor.discard (SetObject.discard Host.ops set key)).eval { nesting := 1 } world =
      (.ok (), after) := by
    change ((fun _ => ()) <$> SetObject.discard Host.ops set key).eval { nesting := 1 } world = _
    rw [HostM.eval_map, hDiscard]
    rfl
  apply runOn_callMethod hLeaves hBody (by simp)
  simp only [SetObject.callMethod?, SetObject.done, Arguments.only, typeNameOf, HostM.eval_bind,
    HostM.eval_map, HostM.eval_heap, HostM.eval_pure, hDone]

end Host

namespace Scene

/-- What an object is known by stays what it is while a set is changed. -/
theorem Keeps.origin_eq (hKeeps : scene.Keeps {set} before after) (hOpens : scene.Opens) (hSet : set ∈ scene.sets)
    (hBefore : before.host.isLive ref = true) (hAfter : after.host.isLive ref = true) :
    scene.origin after ref = scene.origin before ref := by
  by_cases hSame : ref = set
  · rw [hSame, hOpens.origin_set hSet, hOpens.origin_set hSet]
  · exact Scene.origin_eq (congrArg Object.body (hKeeps.leaves.view_eq hSame hBefore hAfter))

/-- Whether a set goes on with other elements, unless it is gone. -/
structure Retables (scene : Scene) (set : Ref) (left : SetTable) (before after : World) : Prop where
  keeps : scene.Keeps {set} before after
  body : after.host.isLive set = true → after.host.body set = .set left

/-- It does so when other things are done afterwards. -/
theorem Retables.trans (hRetables : scene.Retables set left before middle) (hOpens : scene.Opens)
    (hSet : set ∈ scene.sets) (hKeeps : scene.Keeps ∅ middle after) : scene.Retables set left before after where
  keeps := hRetables.keeps.trans (hKeeps.mono (Set.empty_subset _))
  body hAfter := by
    have hMiddle : middle.host.isLive set = true := by
      obtain ⟨address, hOld, rfl⟩ := hOpens.exists_address hSet
      exact hKeeps.leaves.isLive (hOld.trans_le hRetables.keeps.follows.leaves.size) (Set.notMem_empty _) hAfter
    rw [← hRetables.body hMiddle]
    exact congrArg Object.body (hKeeps.leaves.view_eq (Set.notMem_empty set) hMiddle hAfter)

/-- Whether an object is one of which a container finds an element, without a comparison that fails. -/
structure Locates (scene : Scene) (world : World) (table : SetTable) (key : Ref) (hash : Int) (ref : Ref) : Prop where
  hashed : scene.conduct.hash (scene.origin world key) = .ok hash
  entry : (hash, ref) ∈ table.entries
  same : scene.verdict world key ref = .ok true
  compared : ∀ other, (hash, other) ∈ table.entries → ∃ answer, scene.verdict world key other = .ok answer

/-- A container has what it finds. -/
theorem Locates.answered_eq (hLocates : scene.Locates world table key hash ref) (hSound : table.Sound) :
    scene.answered world table key = .ok true := by
  obtain ⟨index, found, hPlace, _⟩ := hSound.exists_placeOf hLocates.entry hLocates.same hLocates.compared
  have hAsked : scene.asked world table key = .ok true := by
    rw [asked, hLocates.hashed]
    change (table.placeOf hash _).map _ = _
    rw [hPlace]
    rfl
  rw [answered, hAsked]

/-- What a set finds goes when it is discarded. -/
theorem Contains.exists_runOn_discard (hContains : scene.Contains world set table) (hGoverns : scene.Governs)
    (hOpens : scene.Opens) (hSet : set ∈ scene.sets) (hBody : world.host.body set = .set table) (hSound : table.Sound)
    (hKey : scene.Concerns world key) (hLocates : scene.Locates world table key hash ref) :
    ∃ index found after, table.slot index = .element hash found ∧
      HostM.runOn (Host.call Host.ops set "discard" [key]) world = (.ok .nil, after) ∧
        scene.Retables set (table.eraseAt index) world after := by
  obtain ⟨index, found, hPlace, hElement⟩ :=
    hSound.exists_placeOf hLocates.entry hLocates.same hLocates.compared
  let context : Context := { nesting := 1 }
  have hNesting : context.nesting ≤ 1 := Nat.le_refl 1
  obtain ⟨before, hHashed, hCalm⟩ := hContains.peeks_hash hGoverns hKey hNesting
  rw [hLocates.hashed] at hHashed
  obtain ⟨middle, hLocated, hMiddle⟩ := (hContains.undisturbed hCalm).peeks_locate hGoverns
    (hKey.undisturbed hCalm) hNesting hash false
  rw [funext (verdict_undisturbed hCalm key), hPlace] at hLocated
  have hBoth := hCalm.trans hMiddle
  have hThere := hContains.undisturbed hBoth
  have hMiddleBody := (hBoth.body_eq set).trans hBody
  have hPerm := (hSound.eraseAt hElement).2
  have hElements : ∀ other ∈ (table.eraseAt index).toList, middle.host.isLive other = true := by
    intro other hOther
    obtain ⟨entry, hEntry, rfl⟩ := List.mem_map.mp hOther
    exact (hThere.concerns _ (List.mem_map_of_mem (hPerm.mem_iff.mpr (List.mem_cons_of_mem _ hEntry)))).live
  obtain ⟨hKeeps, hNew, hStays⟩ := hThere.follows.keeps_setTable hSet hThere.live hElements
  have hFound : ∀ other ∈ [found],
      (middle.host.setBody set (.set (table.eraseAt index))).isLive other = true := by
    intro other hOther
    rw [List.mem_singleton.mp hOther, hStays]
    exact (hThere.concerns _ (List.mem_map_of_mem (f := Prod.snd) (SetTable.mem_entries_of_slot hElement))).live
  obtain ⟨after, hRelease, hGone, _⟩ : ∃ after, (Host.ops.release [found]).eval { nesting := 1 }
      { middle with host := middle.host.setBody set (.set (table.eraseAt index)) } = (.ok (), after) ∧
        scene.Keeps ∅ { middle with host := middle.host.setBody set (.set (table.eraseAt index)) } after ∧
          after.held.Perm middle.held :=
    hKeeps.follows.keeps_release hGoverns hFound Host.depthLimit { nesting := 1 }
  have hRetables : scene.Retables set (table.eraseAt index) world
      { middle with host := middle.host.setBody set (.set (table.eraseAt index)) } :=
    ⟨(hContains.follows.keeps_undisturbed hBoth).trans hKeeps, fun _ => hNew⟩
  refine ⟨index, found, after, hElement, ?_, hRetables.trans hOpens hSet hGone⟩
  exact Host.runOn_discard (hContains.follows.leavesToSets hOpens hSet hContains.live).1 hBody
    (Host.SetObject.eval_discard_stored hHashed hLocated hMiddleBody hElement hRelease)

end Scene

end HeapBridge
