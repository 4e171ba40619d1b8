import HeapBridge.Proofs.Custody.Releases
import HeapBridge.Proofs.Teardown.Shrinking
/-!
Fading. When owners are dropped, one object after the other is given up, and what it referred to is held
for a while until it is let go of, too. Each step is one that touches only what is still there. The main
statement is that a host object that was there at the start is there as long as anything refers to it.
-/
namespace HeapBridge

open Host (Ref)
open Native (NativeClass)

/-- One step of a teardown: what becomes of what is owned from outside, and of the world. Whatever a step
takes a reference from is there. -/
inductive Fade : Account → Account → Prop where
  /-- A reference that is held is given back. -/
  | unhold {holdings : Multiset Holding} {world : World} {ref : Ref} (hHeld : ref ∈ world.held) :
      Fade ⟨holdings, world⟩ ⟨holdings, world.unhold ref⟩
  /-- A reference that is held changes hands. -/
  | pass {holdings : Multiset Holding} {world : World} {ref : Ref} (hHeld : ref ∈ world.held) :
      Fade ⟨holdings, world⟩ ⟨holdings, (world.unhold ref).hold ref⟩
  /-- Objects that are there are held before it is seen whether anything else refers to them. -/
  | hold {holdings : Multiset Holding} {world : World} {refs : List Ref}
      (hLive : ∀ ref ∈ refs, world.host.isLive ref = true) :
      Fade ⟨holdings, world⟩ ⟨holdings, world.holdAll refs⟩
  /-- A host object that nothing refers to is given up, and some of what it referred to is held. -/
  | giveUp {holdings : Multiset Holding} {world : World} {address : Nat} {object : Host.Object}
      {kept : List Ref} (hObject : world.host.object? address = some object)
      (hFree : world.isReferenced (.object address) = false)
      (hOwned : ∀ owned, .reference owned ∈ object.holdings →
        ∃ found, world.native.object? owned = some found)
      (hKept : kept ⊆ (world.reclaim address).1) :
      Fade ⟨holdings, world⟩ ⟨holdings, (world.reclaim address).2.holdAll kept⟩
  /-- A reference to a native object is dropped, and some of what the object held is held if it was the
  last one. -/
  | drop {holdings rest : Multiset Holding} {world : World} {address : Nat} {object : Native.Object}
      {kept : List Ref} (hObject : world.native.object? address = some object)
      (hHoldings : holdings = {.reference address} + rest)
      (hKept : kept ⊆ (world.dropNative address).1) :
      Fade ⟨holdings, world⟩ ⟨rest, (world.dropNative address).2.holdAll kept⟩
  /-- Storage is given back. -/
  | discard {holdings rest : Multiset Holding} {world : World} {address : Nat}
      {nativeClass : NativeClass} (hCell : world.native.cell? address = some (.reserved nativeClass))
      (hHoldings : holdings = {.storage address} + rest) :
      Fade ⟨holdings, world⟩ ⟨rest, { world with native := world.native.discard address }⟩
  /-- An iterator is given up, and some of what it referred to is held. -/
  | finish {holdings : Multiset Holding} {world : World} (number : Nat) {kept : List Ref}
      (hKept : kept ⊆ (world.cursor number).references) :
      Fade ⟨holdings, world⟩ ⟨holdings, (world.moveCursor number .finished).holdAll kept⟩
  | note {holdings : Multiset Holding} {world : World} (lastErrors : List (Thread × String)) :
      Fade ⟨holdings, world⟩ ⟨holdings, { world with lastErrors }⟩

inductive Fades (start : Account) : Account → Prop where
  | refl : Fades start start
  | step {middle finish : Account} (prior : Fades start middle) (last : Fade middle finish) :
      Fades start finish

variable {before after start middle finish : Account} {ref : Ref} {address : Nat}

theorem Fade.toFades (fade : Fade before after) : Fades before after := .step .refl fade

theorem Fades.trans (first : Fades start middle) (second : Fades middle finish) :
    Fades start finish := by
  induction second with
  | refl => exact first
  | step _ last ih => exact .step ih last

namespace World

theorem mem_held_unhold {world : World} {other : Ref} (hHeld : other ∈ (world.unhold ref).held) :
    other ∈ world.held :=
  List.mem_of_mem_erase hHeld

theorem shrinks_holdAll (refs : List Ref) (world : World) : world.Shrinks (world.holdAll refs) :=
  .aside rfl rfl rfl rfl

end World

namespace Fade

theorem shrinks (fade : Fade before after) : before.world.Shrinks after.world := by
  cases fade with
  | giveUp => exact (World.Shrinks.reclaim _ _).trans (World.shrinks_holdAll _ _)
  | drop => exact (World.Shrinks.dropNative _ _).trans (World.shrinks_holdAll _ _)
  | discard => exact .discard _ _
  | finish number => exact (World.Shrinks.finish _ _).trans (World.shrinks_holdAll _ _)
  | _ => exact .aside rfl rfl rfl rfl

/-- What is held afterwards was referred to before or is there. -/
private theorem of_mem_held (fade : Fade before after) (hHeld : ref ∈ after.world.held) :
    before.world.isReferenced ref = true ∨ after.world.host.isLive ref = true := by
  rw [World.isReferenced_iff]
  cases fade with
  | unhold _ => exact .inl (.inl (World.mem_held_unhold hHeld))
  | pass hPassed =>
    rcases List.mem_cons.mp hHeld with rfl | hRest
    · exact .inl (.inl hPassed)
    · exact .inl (.inl (World.mem_held_unhold hRest))
  | hold hLive =>
    rcases List.mem_append.mp hHeld with hNew | hOld
    · exact .inr (hLive ref hNew)
    · exact .inl (.inl hOld)
  | @giveUp _ world address object kept hObject _ _ hKept =>
    rcases List.mem_append.mp hHeld with hNew | hOld
    · exact .inl (.inr (World.mentions_of_reclaim (by simp [Host.Heap.isLive, hObject]) (hKept hNew)))
    · rw [World.held_reclaim] at hOld
      exact .inl (.inl hOld)
  | @drop _ _ world address object kept hObject _ hKept =>
    rcases List.mem_append.mp hHeld with hNew | hOld
    · exact .inl (.inr (World.mentions_of_dropNative (hKept hNew)))
    · rw [(World.aside_dropNative address world).1] at hOld
      exact .inl (.inl hOld)
  | finish number hKept =>
    rcases List.mem_append.mp hHeld with hNew | hOld
    · exact .inl (.inr (.cursor number (hKept hNew)))
    · exact .inl (.inl hOld)
  | discard _ _ => exact .inl (.inl hHeld)
  | note _ => exact .inl (.inl hHeld)

/-- What is referred to afterwards was referred to before, unless it is an object that is there. -/
theorem of_isReferenced (fade : Fade before after) (hReferenced : after.world.isReferenced ref = true) :
    before.world.isReferenced ref = true ∨ after.world.host.isLive ref = true := by
  rcases World.isReferenced_iff.mp hReferenced with hHeld | hMentions
  · exact fade.of_mem_held hHeld
  · exact .inl (World.isReferenced_iff.mpr (.inr (fade.shrinks.mentions hMentions)))

/-- An object that something refers to is not given up. -/
theorem isLive (fade : Fade before after) (hLive : before.world.host.isLive ref = true)
    (hReferenced : before.world.isReferenced ref = true) : after.world.host.isLive ref = true := by
  cases fade with
  | @giveUp _ world address object kept hObject hFree _ _ =>
    change (world.reclaim address).2.host.isLive ref = true
    rw [World.reclaim_host]
    cases ref with
    | atom value => rfl
    | object other =>
      rcases eq_or_ne address other with rfl | hOther
      · rw [hReferenced] at hFree
        cases hFree
      · rwa [Host.Heap.isLive, Host.Heap.object?_free_of_ne hOther]
  | @drop _ _ world address _ _ _ _ _ =>
    change (world.dropNative address).2.host.isLive ref = true
    rwa [World.dropNative_host]
  | _ => exact hLive

end Fade

namespace Fades

theorem shrinks (fades : Fades start finish) : start.world.Shrinks finish.world := by
  induction fades with
  | refl => exact .refl _
  | step _ last ih => exact ih.trans last.shrinks

/-- A host object that was there at the start is there as long as anything refers to it. -/
theorem isLive (fades : Fades start finish) (hLive : start.world.host.isLive ref = true)
    (hReferenced : finish.world.isReferenced ref = true) : finish.world.host.isLive ref = true := by
  induction fades with
  | refl => exact hLive
  | step _ last ih =>
    rcases last.of_isReferenced hReferenced with hBefore | hAfter
    · exact last.isLive (ih hBefore) hBefore
    · exact hAfter

end Fades

/-- Whether a deed is one of those that a teardown needs. -/
def Deed.IsCursor (deed : Deed) : Prop := ∃ number, deed = .cursor number

/-- A step of a teardown is made of moves, so it keeps the books. -/
theorem Fade.moves (fade : Fade before after) : Moves Deed.IsCursor before after := by
  cases fade with
  | unhold _ => exact .host (Host.Change.unhold _).toChanges _
  | pass _ => exact .host ((Host.Change.unhold _).toChanges.trans (Host.Change.hold [_]).toChanges) _
  | hold _ => exact .host (Host.Change.hold _).toChanges _
  | giveUp hObject hFree _ _ =>
    have hLive : Host.Change _ _ := .giveUp (by simp [Host.Heap.isLive, hObject]) hFree
    exact .host (hLive.toChanges.trans (Host.Change.hold _).toChanges) _
  | drop _ hHoldings _ =>
    exact (Move.drop _ hHoldings).toMoves.trans (.host (Host.Change.hold _).toChanges _)
  | discard _ hHoldings => exact (Move.discard _ hHoldings).toMoves
  | finish number _ =>
    exact (Move.moveCursor number _ ⟨number, rfl⟩).toMoves.trans (.host (Host.Change.hold _).toChanges _)
  | @note holdings world lastErrors =>
    have hNote : Move Deed.IsCursor ⟨holdings, world⟩ _ :=
      .note [] List.not_mem_nil lastErrors world.returned
    rw [List.append_nil] at hNote
    exact hNote.toMoves

theorem Fades.moves (fades : Fades start finish) : Moves Deed.IsCursor start finish := by
  induction fades with
  | refl => exact .refl
  | step _ last ih => exact ih.trans last.moves

theorem Fades.balanced (fades : Fades start finish) (hBalanced : start.Balanced) : finish.Balanced :=
  fades.moves.balanced hBalanced

/-! Storage that is reserved is not touched by what becomes of objects. -/

/-- Releasing an object does not touch storage that is only reserved. -/
theorem Native.Heap.reserved_release {heap : Native.Heap} {other : Nat} {nativeClass : NativeClass}
    (hCell : heap.cell? other = some (.reserved nativeClass)) :
    (heap.release address).2.cell? other = some (.reserved nativeClass) := by
  cases hObject : heap.object? address with
  | none => rwa [release, hObject]
  | some object =>
    have hOther : other ≠ address := by
      rintro rfl
      rw [object?_of_reserved hCell] at hObject
      cases hObject
    rwa [cell?_release hObject, if_neg hOther]

namespace World

variable {world : World} {other : Nat} {nativeClass : NativeClass}

theorem reserved_dropNative (hCell : world.native.cell? other = some (.reserved nativeClass)) :
    (world.dropNative address).2.native.cell? other = some (.reserved nativeClass) := by
  rw [dropNative_native]
  exact Native.Heap.reserved_release hCell

/-- Storage that is reserved stays so as others are reclaimed. -/
theorem reserved_reclaim (hCell : world.native.cell? other = some (.reserved nativeClass)) :
    (world.reclaim address).2.native.cell? other = some (.reserved nativeClass) := by
  unfold reclaim
  dsimp only
  split
  next _ _ pointer discipline _ =>
    cases discipline <;> cases pointer <;> first | exact hCell | exact reserved_dropNative hCell
  next => exact hCell

end World

/-- What becomes of storage that is reserved: its owner gives it back, and what has no owner stays. -/
structure Account.Clears (before after : Account) : Prop where
  fewer : after.holdings ≤ before.holdings
  owned : ∀ address, .storage address ∈ before.holdings →
    .storage address ∈ after.holdings ∨ after.world.native.cell? address = none
  stray : ∀ address nativeClass, before.world.native.cell? address = some (.reserved nativeClass) →
    .storage address ∉ before.holdings →
      after.world.native.cell? address = some (.reserved nativeClass)

/-- No storage is given back where none is disowned. -/
private theorem Account.Clears.of_reserved (hFewer : after.holdings ≤ before.holdings)
    (hOwned : ∀ address, .storage address ∈ before.holdings → .storage address ∈ after.holdings)
    (hCells : ∀ address nativeClass, before.world.native.cell? address = some (.reserved nativeClass) →
      after.world.native.cell? address = some (.reserved nativeClass)) : before.Clears after :=
  ⟨hFewer, fun address hStorage => .inl (hOwned address hStorage),
    fun address nativeClass hCell _ => hCells address nativeClass hCell⟩

/-- Each step of a fading clears away what it ends. -/
theorem Fade.clears (fade : Fade before after) : before.Clears after := by
  cases fade with
  | giveUp _ _ _ _ =>
    exact .of_reserved (le_refl _) (fun _ => id) fun _ _ hCell => World.reserved_reclaim hCell
  | drop _ hHoldings _ =>
    refine .of_reserved ?_ (fun address hStorage => ?_) fun _ _ hCell => World.reserved_dropNative hCell
    · rw [hHoldings]
      exact Multiset.le_add_left _ _
    · simpa [hHoldings] using hStorage
  | @discard holdings rest world address nativeClass hCell hHoldings =>
    refine ⟨?_, fun other hStorage => ?_, fun other otherClass hOther hStray => ?_⟩
    · rw [hHoldings]
      exact Multiset.le_add_left _ _
    · simp only [hHoldings, Multiset.mem_add, Multiset.mem_singleton, Holding.storage.injEq] at hStorage
      refine hStorage.symm.imp_right ?_
      rintro rfl
      change (world.native.discard other).cell? other = none
      rw [Native.Heap.cell?_discard hCell, if_pos rfl]
    · change (world.native.discard address).cell? other = some (.reserved otherClass)
      have hDifferent : other ≠ address := by
        rintro rfl
        exact hStray (by simp [hHoldings])
      rwa [Native.Heap.cell?_discard hCell, if_neg hDifferent]
  | _ => exact .of_reserved (le_refl _) (fun _ => id) fun _ _ => id

/-- What is not reserved any more is not reserved again. -/
theorem World.Shrinks.cell?_eq_none {before after : World} (hShrinks : before.Shrinks after)
    (hNone : before.native.cell? address = none) : after.native.cell? address = none := by
  refine Option.eq_none_iff_forall_ne_some.mpr fun cell hCell => ?_
  obtain ⟨old, hOld, _⟩ := hShrinks.cell address cell hCell
  rw [hNone] at hOld
  cases hOld

/-- So does the whole of it. -/
theorem Fades.clears (fades : Fades start finish) : start.Clears finish := by
  induction fades with
  | refl => exact ⟨le_refl _, fun _ => .inl, fun _ _ hCell _ => hCell⟩
  | step _ last ih =>
    have hLast := last.clears
    refine ⟨hLast.fewer.trans ih.fewer, fun address hStorage => ?_,
      fun address nativeClass hCell hStray => ?_⟩
    · rcases ih.owned address hStorage with hOwned | hNone
      · exact hLast.owned address hOwned
      · exact .inr (last.shrinks.cell?_eq_none hNone)
    · exact hLast.stray address nativeClass (ih.stray address nativeClass hCell hStray)
        fun hOwned => hStray (Multiset.mem_of_le ih.fewer hOwned)

/-! The ends that native objects come to. -/

theorem World.NativeStep.holdAll {world next : World} {ends : List End}
    (hStep : world.NativeStep next ends) (kept : List Ref) :
    world.NativeStep (next.holdAll kept) ends :=
  ⟨hStep.step, hStep.records.destroyed, hStep.records.released⟩

/-- Each step is one that native objects can take. -/
theorem Fade.nativeStep (fade : Fade before after) (hBalanced : before.Balanced) :
    ∃ ends, before.world.NativeStep after.world ends := by
  unfold Account.Balanced at hBalanced
  cases fade with
  | giveUp hObject _ _ _ =>
    rw [Host.Heap.holdings_free hObject, add_left_comm] at hBalanced
    obtain ⟨ends, hStep⟩ := World.NativeStep.reclaim hObject hBalanced
    exact ⟨ends, hStep.holdAll _⟩
  | drop hObject _ _ =>
    obtain ⟨ends, hStep⟩ := World.NativeStep.dropNative hObject (hBalanced.alive _ _ hObject)
    exact ⟨ends, hStep.holdAll _⟩
  | discard hCell _ => exact ⟨[], .discard hCell, .none rfl rfl⟩
  | _ => exact ⟨[], .same rfl rfl rfl⟩

/-- The step in which a native object comes to its end. It takes the last reference, and the reference
that the object held is given up just then. -/
structure Fade.Ends (before after : Account) (entry : End) : Prop where
  fade : Fade before after
  last : before.world.native.object? entry.1 = some { retainCount := 1, payload := entry.2 }
  vacated : after.world.native.Vacated entry.1
  references : (before.world.native.references : Multiset Ref) =
    entry.2.references + (after.world.native.references : Multiset Ref)

/-- In a teardown native objects come to their ends one by one. -/
theorem Fades.exists_ends (fades : Fades start finish) (hBalanced : start.Balanced) :
    ∃ ends, start.world.Outlives finish.world ends ∧
      ∀ entry ∈ ends, ∃ before after, Fades start before ∧ Fade.Ends before after entry ∧
        Fades after finish := by
  induction fades with
  | refl => exact ⟨[], .refl _, by simp⟩
  | @step middle finish prior last ih =>
    obtain ⟨ends, hPrior, hEnded⟩ := ih
    obtain ⟨more, hStep⟩ := last.nativeStep (prior.balanced hBalanced)
    refine ⟨ends ++ more, hPrior.snoc hStep, fun entry hEntry => ?_⟩
    rcases List.mem_append.mp hEntry with hOld | hNew
    · obtain ⟨before, after, hBefore, hEnds, hAfter⟩ := hEnded entry hOld
      exact ⟨before, after, hBefore, hEnds, .step hAfter last⟩
    · obtain ⟨hLast, hVacated⟩ := hStep.step.ended hNew
      have hReferences := hStep.step.references_of_ended hLast hVacated
      exact ⟨middle, finish, prior, ⟨last, hLast, hVacated, hReferences⟩, .refl⟩

end HeapBridge
