import HeapBridge.Proofs.Teardown.Fading
/-!
Cascades. Letting go of a reference may give up an object, and with it what the object referred to, and so
on through both heaps. As long as no object has to be told first, all of this is made of steps of a
teardown; host code does not run on the way.
-/
namespace HeapBridge

open Host (HostM Ref)

variable {holdings rest : Multiset Holding} {world before after : World} {ref : Ref}
  {refs others : List Ref} {address : Nat}

/-- Whether no object has yet to be told that it is about to be given up. -/
def Host.Heap.Mute (heap : Host.Heap) : Prop :=
  ∀ address object, heap.object? address = some object →
    object.finalized = true ∨ heap.scripted? (.object address) "__del__" = none

instance (heap : Host.Heap) : Decidable heap.Mute :=
  decidable_of_iff (∀ address ∈ heap.addresses, (heap.view (.object address)).finalized = true ∨
    heap.scripted? (.object address) "__del__" = none) <| by
    constructor
    · intro hMute address object hObject
      rw [← Host.Heap.view_of_object? hObject]
      exact hMute address (Host.Heap.mem_addresses.mpr (by simp [Host.Heap.isLive, hObject]))
    · intro hMute address hAddress
      obtain ⟨object, hObject⟩ := Option.isSome_iff_exists.mp (Host.Heap.mem_addresses.mp hAddress)
      rw [Host.Heap.view_of_object? hObject]
      exact hMute address object hObject

/-- Where no code runs at the end of an object, none will as the world shrinks. -/
theorem World.Shrinks.mute (hShrinks : before.Shrinks after) (hMute : before.host.Mute) :
    after.host.Mute := by
  intro address object hObject
  have hBefore := hShrinks.object address object hObject
  have hSame : after.host.scripted? (.object address) "__del__" =
      before.host.scripted? (.object address) "__del__" := by
    rw [Host.Heap.scripted?, Host.Heap.scripted?, Host.Heap.script?, Host.Heap.script?,
      Host.Heap.view_of_object? hObject, Host.Heap.view_of_object? hBefore, hShrinks.scripts]
  rw [hSame]
  exact hMute address object hBefore

/-- What a host object owns is there. -/
theorem Account.Balanced.exists_owned {object : Host.Object}
    (hBalanced : Account.Balanced ⟨holdings, world⟩)
    (hObject : world.host.object? address = some object) (owned : Nat)
    (hOwned : .reference owned ∈ object.holdings) :
    ∃ found, world.native.object? owned = some found := by
  refine Native.Heap.OwnedBy.exists_object hBalanced owned (Multiset.mem_add.mpr (.inr ?_))
  rw [Host.Heap.holdings_free hObject]
  exact Multiset.mem_add.mpr (.inl hOwned)

/-- A host object that nothing refers to is given up. -/
theorem fades_reclaim {kept : List Ref} (hAbandoned : Host.isAbandoned address world = true)
    (hBalanced : Account.Balanced ⟨holdings, world⟩) (hKept : kept ⊆ (world.reclaim address).1) :
    Fades ⟨holdings, world⟩ ⟨holdings, (world.reclaim address).2.holdAll kept⟩ := by
  simp only [Host.isAbandoned, Bool.and_eq_true, Bool.not_eq_true'] at hAbandoned
  obtain ⟨object, hObject⟩ := Option.isSome_iff_exists.mp hAbandoned.1
  exact (Fade.giveUp hObject hAbandoned.2 (hBalanced.exists_owned hObject) hKept).toFades

/-- Letting go of references fades them one by one. -/
theorem fades_unholdAll (hHeld : world.held.Perm (refs ++ others)) :
    Fades ⟨holdings, world⟩ ⟨holdings, world.unholdAll refs⟩ := by
  induction refs generalizing world with
  | nil => exact .refl
  | cons ref rest ih =>
    have hFirst : ref ∈ world.held := hHeld.mem_iff.mpr List.mem_cons_self
    exact (Fade.unhold hFirst).toFades.trans (ih (World.held_unhold hHeld))

namespace Host

variable {ops : Ops} {context : Context}

/-- An object that has not to be told is not told. -/
theorem eval_finalize_mute {object : Object} (hObject : world.host.object? address = some object)
    (hMute : world.host.Mute) :
    (finalize ops address).eval context world = (.ok (), world) := by
  apply eval_finalize_quiet
  rw [Heap.view_of_object? hObject]
  exact hMute address object hObject

/-- What referred to nothing else than what is held now is given up. -/
theorem fades_giveUp (hAbandoned : isAbandoned address world = true)
    (hBalanced : Account.Balanced ⟨holdings, world⟩) :
    Fades ⟨holdings, world⟩ ⟨holdings, (giveUp address world).2⟩ := by
  rw [giveUp, if_pos hAbandoned]
  exact fades_reclaim hAbandoned hBalanced List.filter_sublist.subset

/-- References that are held are let go of, one after the other, with whatever goes then. -/
theorem fades_letGo (steps : Nat) (hHeld : world.held.Perm (refs ++ others))
    (hBalanced : Account.Balanced ⟨holdings, world⟩) (hMute : world.host.Mute) :
    Fades ⟨holdings, world⟩ ⟨holdings, letGo ops context steps refs world⟩ := by
  fun_induction letGo ops context steps refs world with
  | case1 refs world => exact fades_unholdAll hHeld
  | case2 => exact .refl
  | case3 steps value rest world ih =>
    have hFirst : .atom value ∈ world.held := hHeld.mem_iff.mpr List.mem_cons_self
    exact (Fade.unhold hFirst).toFades.trans (ih (World.held_unhold hHeld) hBalanced hMute)
  | case4 steps address rest world middle hAbandoned freed after hGiveUp ih =>
    have hFirst : .object address ∈ world.held := hHeld.mem_iff.mpr List.mem_cons_self
    have hMiddle : middle.held.Perm (rest ++ others) := World.held_unhold hHeld
    have hStep : Fades ⟨holdings, world⟩ ⟨holdings, middle⟩ := (Fade.unhold hFirst).toFades
    have hMuteMiddle : middle.host.Mute := hMute
    clear_value middle
    obtain ⟨object, hObject⟩ := Option.isSome_iff_exists.mp (Bool.and_eq_true _ _ ▸ hAbandoned).1
    rw [eval_finalize_mute hObject hMuteMiddle] at hGiveUp
    have hGone := fades_giveUp hAbandoned (hStep.balanced hBalanced)
    have hFreed := held_giveUp address middle
    rw [hGiveUp] at hGone hFreed
    refine (hStep.trans hGone).trans (ih ?_ (hGone.balanced (hStep.balanced hBalanced))
      (hGone.shrinks.mute hMuteMiddle))
    rw [hFreed, List.append_assoc]
    exact hMiddle.append_left freed
  | case5 steps address rest world middle _ ih =>
    have hFirst : .object address ∈ world.held := hHeld.mem_iff.mpr List.mem_cons_self
    exact (Fade.unhold hFirst).toFades.trans (ih (World.held_unhold hHeld) hBalanced hMute)

/-- So are objects that nothing refers to. -/
theorem fades_sweep (steps : Nat) (hBalanced : Account.Balanced ⟨holdings, world⟩) :
    Fades ⟨holdings, world⟩ ⟨holdings, sweep steps world⟩ := by
  fun_induction sweep steps world with
  | case2 steps world address others _ hAbandoned ih =>
    have hGone : Fades ⟨holdings, world⟩ ⟨holdings, (world.reclaim address).2⟩ :=
      fades_reclaim hAbandoned hBalanced (List.nil_subset _)
    exact hGone.trans (ih (hGone.balanced hBalanced))
  | _ => exact .refl

end Host

namespace World

/-- References in flight are held, and then let go of. -/
theorem exists_release : ∃ ops : Host.Ops, ∀ refs world, release refs world =
    Host.letGo ops {} Host.stepLimit (refs.filter Ref.isObject)
      (world.holdAll (refs.filter Ref.isObject)) := by
  obtain ⟨ops, hOps⟩ : ∃ ops : Host.Ops, Host.ops = ops.above := ⟨.ofDepth 4999, rfl⟩
  refine ⟨ops, fun refs world => ?_⟩
  rw [release, hOps]
  rfl

/-- What is in flight has been held by something that is gone, and is let go of. -/
theorem fades_release (refs : List Ref) (hBalanced : Account.Balanced ⟨holdings, world⟩)
    (hMute : world.host.Mute) :
    Fades ⟨holdings, world.holdAll (refs.filter Ref.isObject)⟩ ⟨holdings, world.release refs⟩ := by
  obtain ⟨ops, hRelease⟩ := exists_release
  rw [hRelease]
  exact Host.fades_letGo Host.stepLimit (.refl _) hBalanced hMute

/-- A reference that is held is given back. -/
theorem fades_giveBack (hHeld : ref ∈ world.held) (hBalanced : Account.Balanced ⟨holdings, world⟩)
    (hMute : world.host.Mute) : Fades ⟨holdings, world⟩ ⟨holdings, world.letGo ref⟩ := by
  cases ref with
  | atom value => exact (Fade.unhold hHeld).toFades
  | object address =>
    have hRelease : Fades ⟨holdings, (world.unhold (.object address)).hold (.object address)⟩
        ⟨holdings, world.letGo (.object address)⟩ :=
      fades_release [.object address] hBalanced hMute
    exact (Fade.pass hHeld).toFades.trans hRelease

/-- A reference to a native object is dropped, and what the object held goes with the last one. -/
theorem fades_releaseNative (hBalanced : Account.Balanced ⟨holdings, world⟩) (hMute : world.host.Mute)
    (hHoldings : holdings = {.reference address} + rest) :
    Fades ⟨holdings, world⟩ ⟨rest, world.releaseNative address⟩ := by
  obtain ⟨object, hObject⟩ := Native.Heap.OwnedBy.exists_object hBalanced address (by simp [hHoldings])
  have hDrop := (Fade.drop hObject hHoldings
    (List.filter_sublist.subset : (world.dropNative address).1.filter Ref.isObject ⊆ _)).toFades
  have hLeft : Account.Balanced ⟨rest, (world.dropNative address).2⟩ := hDrop.balanced hBalanced
  exact hDrop.trans (fades_release _ hLeft (hDrop.shrinks.mute hMute))

/-- Settling in a world without such code only fades. -/
theorem fades_settle (hBalanced : Account.Balanced ⟨holdings, world⟩) (hMute : world.host.Mute) :
    Fades ⟨holdings, world⟩ ⟨holdings, world.settle⟩ := by
  have hLive : ∀ ref ∈ world.unreferenced.filter Ref.isObject, world.host.isLive ref = true := by
    intro ref hRef
    obtain ⟨address, rfl, hAbandoned⟩ := mem_unreferenced.mp (List.mem_filter.mp hRef).1
    rw [Host.isAbandoned, Bool.and_eq_true] at hAbandoned
    exact hAbandoned.1
  have hSettle (ops : Host.Ops) : ∃ middle : World,
      (HostM.runOn (Host.settle ops) world).2 = Host.sweep middle.host.cells.size middle ∧
        middle = Host.letGo ops {} Host.stepLimit (world.unreferenced.filter Ref.isObject)
          (world.holdAll (world.unreferenced.filter Ref.isObject)) := ⟨_, rfl, rfl⟩
  obtain ⟨middle, hSweep, hLetGo⟩ := hSettle Host.ops
  have hGone : Fades ⟨holdings, world⟩ ⟨holdings, middle⟩ := by
    rw [hLetGo]
    exact (Fade.hold hLive).toFades.trans (Host.fades_letGo Host.stepLimit (.refl _) hBalanced hMute)
  rw [settle, hSweep]
  exact hGone.trans (Host.fades_sweep _ (hGone.balanced hBalanced))

end World

/-- A native value is given up with what it owns or holds. -/
theorem NativeValue.fades_drop {value : NativeValue} (hHeld : ∀ ref, value = .host ref → ref ∈ world.held)
    (hBalanced : Account.Balanced ⟨holdings, world⟩) (hMute : world.host.Mute)
    (hHoldings : holdings = value.holdings + rest) :
    Fades ⟨holdings, world⟩ ⟨rest, value.drop world⟩ := by
  cases value with
  | set address => exact World.fades_releaseNative hBalanced hMute hHoldings
  | host ref =>
    obtain rfl : holdings = rest := hHoldings.trans (zero_add rest)
    exact World.fades_giveBack (hHeld ref rfl) hBalanced hMute
  | _ =>
    obtain rfl : holdings = rest := hHoldings.trans (zero_add rest)
    exact .refl

/-- An iterator is given up, and what it referred to is let go of. -/
theorem ForeignSet.fades_dropIterator (number : Nat) (hBalanced : Account.Balanced ⟨holdings, world⟩)
    (hMute : world.host.Mute) :
    Fades ⟨holdings, world⟩ ⟨holdings, dropIterator number world⟩ := by
  have hFinish : Fades ⟨holdings, world⟩ _ :=
    (Fade.finish number
      (List.filter_sublist.subset : (world.cursor number).references.filter Ref.isObject ⊆ _)).toFades
  exact hFinish.trans (World.fades_release _ hBalanced hMute)

end HeapBridge
