import HeapBridge.Proofs.Failures.Restoring
/-!
Searches that fail. A search goes over a set by a walk that is made for it, and compares each element with what it
looks for. If a comparison fails, or if there is no storage for what is found, the walk is gone and the world
restored.
-/
namespace HeapBridge

open Host (Body Context Fault Heap HostM Object Ref SetTable Walk)
open BridgeM (Leaves)

variable {before middle after world base later : World} {ref set needle : Ref} {left rest : List Ref}
  {table : SetTable} {value : NativeValue} {walk : Walk}

namespace ForeignSet

/-- No proxy is made for which there is no storage, and what it would have referred to is given back. -/
theorem leaves_create (hGiveBack : ∀ refusals, refusals ⊆ world.refusals →
      before.Restored (World.letGo ref { world with refusals })) :
    Leaves (fun _ => True) before.Restored ((create ref).run.run world) := by
  rw [run_create]
  unfold World.reserve
  split
  next refusals hRefused => exact hGiveBack refusals (hRefused ▸ List.subset_cons_self true refusals)
  next => exact .inl trivial

end ForeignSet

/-- What is referred to anyway may be held and given back. -/
theorem World.restored_letGo (hReferenced : world.isReferenced ref = true) {refusals : List Bool}
    (hRefusals : refusals ⊆ world.refusals) :
    world.Restored (World.letGo ref { (world.hold ref) with refusals }) := by
  have hHeld : World.Restored (world.holdAll [ref]) { (world.hold ref) with refusals } :=
    .of_calm hRefusals (.refl _)
  exact hHeld.giveBack fun other hOther _ => List.mem_singleton.mp hOther ▸ hReferenced

/-- The native form of what is referred to is told, unless there is no storage for a proxy. -/
theorem NativeValue.spares_fromHost (hReferenced : world.isReferenced ref = true) :
    (NativeValue.fromHost ref).Spares (fun _ => True) world := by
  rw [BridgeM.Spares, fromHost, run_get]
  split
  next => exact .inl trivial
  next => exact .inl trivial
  next => split <;> exact .inl trivial
  next => exact .inl trivial
  next => split <;> exact .inl trivial
  next =>
    have hCreate : Leaves (fun _ => True) world.Restored ((ForeignSet.create ref).run.run (world.hold ref)) :=
      ForeignSet.leaves_create fun refusals hRefusals => World.restored_letGo hReferenced hRefusals
    change Leaves _ _ ((ForeignSet.create ref >>= fun address => pure (NativeValue.set address) : BridgeM _).run.run
      (world.hold ref))
    rw [run_bind]
    revert hCreate
    rcases (ForeignSet.create ref).run.run (world.hold ref) with ⟨error | address, after⟩
    · exact id
    · exact fun _ => .inl trivial
  next => exact .inl trivial

namespace ForeignSet

/-- An element is told in its native form. -/
theorem spares_elementValue (element : Option Ref) (hReferenced : ∀ ref ∈ element, world.isReferenced ref = true) :
    (elementValue element).Spares (fun _ => True) world := by
  cases element with
  | none => exact .pure
  | some ref =>
    have hKept := hReferenced ref rfl
    apply BridgeM.Spares.keeping
    · exact fun other hOther _ => List.mem_singleton.mp hOther ▸ hKept
    · exact (NativeValue.spares_fromHost (World.isReferenced_holdAll hKept [ref])).map some fun _ => id

/-- An element is compared with what is looked for. The world is restored unless it is found. -/
theorem spares_matched (hLater : base.Enlarges world) (hReferenced : world.isReferenced ref = true)
    (hEqual : (Host.equal Host.ops ref needle).Spares base False {} world) :
    (matched? ref needle).Spares (fun found => found.isSome = true) world := by
  refine (BridgeM.Spares.host hLater hEqual).bind fun isEqual after _ hRestored => ?_
  cases isEqual with
  | true =>
    have hStill : after.isReferenced ref = true := hRestored.grows.isReferenced_iff.mpr hReferenced
    exact (NativeValue.spares_fromHost hStill).map some fun _ _ => rfl
  | false => exact .pure

end ForeignSet

namespace World

/-- Whether a walk over a set has these elements left, and nothing has become of any other object. -/
def Strolls (base : World) (set : Ref) (table : SetTable) (left : List Ref) (world : World) : Prop :=
  ∃ position due, table.remaining position = left ∧
    (base.making (.walk .setWalk (.elements set position table.size due false))).Restored world

namespace Strolls

theorem restored (hStrolls : base.Strolls set table left before) (hRestored : before.Restored after) :
    base.Strolls set table left after := by
  obtain ⟨position, due, hLeft, hBefore⟩ := hStrolls
  exact ⟨position, due, hLeft, hBefore.trans hRestored⟩

theorem beside (hStrolls : base.Strolls set table left world) (hSet : base.isReferenced set = true) :
    base.RestoredBeside world := by
  obtain ⟨position, due, _, hRestored⟩ := hStrolls
  exact ⟨.walk .setWalk (.elements set position table.size due false), rfl,
    fun ref hRef => List.mem_singleton.mp hRef ▸ hSet, hRestored⟩

theorem walks (hStrolls : base.Strolls set table left world) : base.Walks set table left world := by
  obtain ⟨position, due, hLeft, hRestored⟩ := hStrolls
  exact ⟨position, due, hLeft, hRestored.grows⟩

/-- The walk over a set hands out the elements one after the other. -/
theorem run_next (hSet : base.Mentions set) (hElements : (base.host.body set).elements? = some table)
    (hStrolls : base.Strolls set table (ref :: rest) world) :
    ∃ after, (BridgeM.contract .iterate (Host.next Host.ops (.object base.host.cells.size))).run.run world =
        (.ok (some ref), after) ∧
      base.Strolls set table rest after := by
  obtain ⟨position, due, hLeft, hRestored⟩ := hStrolls
  obtain ⟨next, hRest, hRun⟩ :=
    run_nextFrom hSet (Heap.isLive_of_elements hElements) hElements hLeft hRestored.grows
  exact ⟨_, hRun, next, due - 1, hRest, hRestored.setBody rfl⟩

theorem enlarges {start : World} (hStrolls : base.Strolls set table left world) (hMore : start.Enlarges base)
    (hLive : base.host.isLive set = true) : start.Enlarges world := by
  obtain ⟨position, due, _, hRestored⟩ := hStrolls
  refine World.Enlarges.restored (hMore.made fun ref hRef => ?_) hRestored
  rw [List.mem_singleton.mp hRef]
  exact hLive

end Strolls

end World

namespace ForeignSet

variable {start : World} (hFacing : value.Facing start base set table needle) (hSet : base.Mentions set)

include hFacing hSet

/-- The elements that a walk has left are compared in turn. If a comparison fails only the walk is new. -/
theorem leaves_findEqual (hStrolls : base.Strolls set table left world) (hLeft : left ⊆ table.toList) (steps : Nat) :
    Leaves (fun _ => True) base.RestoredBeside
      ((findEqual (.object base.host.cells.size) needle steps).run.run world) := by
  have hLive : base.host.isLive set = true := Heap.isLive_of_elements hFacing.table_eq
  have hReferenced : base.isReferenced set = true := World.isReferenced_iff.mpr (.inr hSet)
  induction steps generalizing left world with
  | zero => exact hStrolls.beside hReferenced
  | succ steps ih =>
    rw [findEqual_succ, run_bind]
    cases left with
    | nil =>
      obtain ⟨after, hNext, _⟩ := hStrolls.walks.run_next_nil hSet hLive hFacing.table_eq
      rw [hNext]
      exact .inl trivial
    | cons ref rest =>
      obtain ⟨middle, hNext, hMiddle⟩ := hStrolls.run_next hSet hFacing.table_eq
      have hRef := hLeft List.mem_cons_self
      have hHere := hFacing.extended (hMiddle.enlarges hFacing.more hLive) hMiddle.walks.extends
      have hElement : ∀ other ∈ [ref], middle.host.isLive other = true := fun other hOther =>
        List.mem_singleton.mp hOther ▸ hHere.more.whole ref (hHere.isReferenced hRef)
      have hHeld := hHere.extended (hHere.more.holdAll hElement) (middle.extends_holdAll [ref])
      have hMatched : (BridgeM.keeping [ref] (matched? ref needle)).Spares (fun found => found.isSome = true) middle :=
        .keeping (fun other hOther _ => List.mem_singleton.mp hOther ▸ hHere.isReferenced hRef)
          (spares_matched hHeld.more (hHeld.isReferenced hRef) (hHeld.spares_equal (Nat.zero_le 1) hRef))
      rw [BridgeM.Spares] at hMatched
      rw [hNext]
      dsimp only
      rw [run_bind]
      rcases hRun : (BridgeM.keeping [ref] (matched? ref needle)).run.run middle with ⟨error | found, after⟩ <;>
        rw [hRun] at hMatched
      · exact (hMiddle.restored hMatched).beside hReferenced
      · cases found with
        | some value => exact .inl trivial
        | none =>
          have hRestored := hMatched.resolve_left (by decide)
          exact ih (hMiddle.restored hRestored) (List.subset_of_cons_subset hLeft)

end ForeignSet

end HeapBridge
