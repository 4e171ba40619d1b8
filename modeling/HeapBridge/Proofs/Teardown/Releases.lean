import HeapBridge.Proofs.Teardown.Owners
/-!
Releases. Whichever way an owner is dropped, its slot is cleared of one reference, and what becomes of the
world is made of steps of a teardown. The main statement is that releases that drop each owner as often as
it has to be dropped clear all slots, in any order.
-/
namespace HeapBridge

open Host (Ref)

variable {session before middle after : Session} {owner : Owner} {name : String} {number : Nat}
  {world : World}

/-- A proxy is told by its payload. -/
theorem Native.Heap.backing?_congr {heap other : Native.Heap} {address : Nat}
    {object next : Native.Object} (hObject : heap.object? address = some object)
    (hNext : other.object? address = some next) (hPayload : object.payload = next.payload) :
    heap.backing? address = other.backing? address := by
  obtain ⟨retainCount, payload⟩ := object
  obtain ⟨nextCount, nextPayload⟩ := next
  obtain rfl : payload = nextPayload := hPayload
  rw [backing?, backing?, hObject, hNext]
  cases payload <;> rfl

namespace World

theorem cursor_letGo (ref : Ref) (world : World) (number : Nat) :
    (world.letGo ref).cursor number = world.cursor number :=
  cursor_release [ref] (world.unhold ref) number

theorem cursor_releaseNative (address : Nat) (world : World) (number : Nat) :
    (world.releaseNative address).cursor number = world.cursor number :=
  (cursor_release _ _ number).trans (cursor_congr (aside_dropNative address world).2.1 number)

theorem cursor_settle (world : World) (number : Nat) :
    world.settle.cursor number = world.cursor number :=
  cursor_congr (changes_settle world).cursors_registry.1 number

end World

theorem NativeValue.cursor_drop (value : NativeValue) (world : World) (number : Nat) :
    (value.drop world).cursor number = world.cursor number := by
  cases value with
  | set address => exact World.cursor_releaseNative address world number
  | host ref => exact World.cursor_letGo ref world number
  | _ => rfl

namespace Session

def iterator? (session : Session) : Owner → Option Nat
  | .iteration slot => (session.iterations.get? slot).map (·.number)
  | _ => none

/-- What dropping an owner once comes to: its slot is cleared of one reference, its iterator is given up
if it is one, and the rest is made of steps of a teardown. -/
structure Drops (owner : Owner) (before after : Session) : Prop where
  slots : after = { before.relieved owner with world := after.world }
  fades : Fades before.account after.account
  cursor : ∀ number, after.world.cursor number =
    if before.iterator? owner = some number then .finished else before.world.cursor number

/-- An owner that is no iterator. -/
theorem Drops.of_cursor (hSlots : after = { before.relieved owner with world := after.world })
    (hFades : Fades before.account after.account) (hNone : before.iterator? owner = none)
    (hCursor : ∀ number, after.world.cursor number = before.world.cursor number) :
    Drops owner before after := by
  refine ⟨hSlots, hFades, fun number => ?_⟩
  rw [hNone, if_neg (by simp)]
  exact hCursor number

/-- What is dropped is settled afterwards. -/
theorem Drops.settle (hDrops : Drops owner before after) (hBalanced : before.account.Balanced)
    (hMute : before.world.host.Mute) :
    Drops owner before { after with world := after.world.settle } where
  slots := by rw [hDrops.slots]
  fades := by
    refine hDrops.fades.trans (World.fades_settle ?_ ?_)
    · exact hDrops.fades.balanced hBalanced
    · exact hDrops.fades.shrinks.mute hMute
  cursor number := (World.cursor_settle _ _).trans (hDrops.cursor number)

/-! What the parts of releases come to. -/

theorem run_dropHost {slot : HostSlot} (hSlot : session.hosts.get? name = some slot) :
    (dropHost name).run.run session = (.ok true, { session with
      hosts := session.hosts.erase name, world := session.world.letGo slot.ref }) := by
  rw [dropHost, run_get, hSlot]
  rfl

theorem run_dropValue {value : NativeValue} (hValue : session.values.get? name = some value) :
    (dropValue name).run.run session = (.ok true, { session with
      values := session.values.erase name, world := value.drop session.world }) := by
  rw [dropValue, run_get, hValue]
  rfl

/-- An iteration that is dropped gives up its iterator. -/
theorem run_dropIteration {iteration : Iteration}
    (hIteration : session.iterations.get? name = some iteration) :
    (dropIteration name).run.run session = (.ok true, { session with
      iterations := session.iterations.erase name
      world := ForeignSet.dropIterator iteration.number session.world }) := by
  rw [dropIteration, run_get, hIteration]
  rfl

theorem run_iteratorArgument_exported {iteration : Iteration}
    (hIteration : session.iterations.get? name = some iteration)
    (hExported : iteration.stepping = .exported) :
    (iteratorArgument (some name)).run.run session = (.ok (some iteration.number), session) := by
  obtain ⟨number, stepping, ordered, seen⟩ := iteration
  obtain rfl : stepping = .exported := hExported
  rw [iteratorArgument, run_get, Option.bind_some, hIteration]
  rfl

theorem run_objectArgument_some {slot : ObjectSlot} (hSlot : session.objects.get? name = some slot) :
    (objectArgument (some name)).run.run session = (.ok (.native slot.address), session) := by
  rw [objectArgument, run_bind, run_content, hSlot]
  rfl

/-- Giving up an exported iteration finishes its cursor through the bridge. -/
theorem run_exportedIteration {iteration : Iteration}
    (hIteration : session.iterations.get? name = some iteration)
    (hExported : iteration.stepping = .exported) :
    ((Release.exportedIteration name).command.run.run.run session).2 = { session with
      iterations := session.iterations.erase name
      world := ForeignSet.dropIterator iteration.number (session.world.clearLastError thread) } := by
  have hObject : (objectArgument none).run.run session = (.ok .null, session) := rfl
  simp only [Release.command, Command.run, ExportCall.run, ExportCommand.runOn, run_bind, hObject,
    run_iteratorArgument_exported hIteration hExported]
  rfl

/-- Releasing gives up the slot and one reference. -/
theorem run_objectRelease {slot : ObjectSlot} (hSlot : session.objects.get? name = some slot) :
    ((Release.object name).command.run.run.run session).2 =
      { session.disowned name with world := session.world.releaseNative slot.address } := by
  rw [← disowned_with_world]
  simp only [Release.command, Command.run, ExportCall.run, ExportCommand.runOn, run_bind,
    run_objectArgument_some hSlot]
  rfl

/-- Releasing a set releases the one reference that the slot had. -/
theorem run_setRelease {slot : ObjectSlot} {backing : Ref}
    (hSlot : session.objects.get? name = some slot)
    (hBacking : session.world.native.backing? slot.address = some backing) :
    ((Release.set name).command.run.run.run session).2 = { session.disowned name with
      world := (session.world.clearLastError thread).releaseNative slot.address } := by
  rw [← disowned_with_world]
  simp only [Release.command, Command.run, ExportCall.run, ExportCommand.runOn, run_bind,
    run_objectArgument_some hSlot, run_exported, Export.run_setRelease_native, hBacking]
  rfl

theorem run_discard {address : Nat} {nativeClass : Native.NativeClass}
    (hStorage : session.storage.get? name = some (address, nativeClass)) :
    ((Release.storage name).command.run.run.run session).2 = { session with
      storage := session.storage.erase name
      world := { session.world with native := session.world.native.discard address } } := by
  simp only [Release.command, Command.run, ObjectCommand.run]
  rw [run_get, hStorage]
  rfl

/-! Each way to drop an owner drops it. -/

/-- Emptying a slot for a host object drains one owner. -/
theorem drops_host {slot : HostSlot} (hSlot : session.hosts.get? name = some slot)
    (hHeld : slot.ref ∈ session.world.held) (hBalanced : session.account.Balanced)
    (hMute : session.world.host.Mute) :
    Drops (.host name) session ((Release.host name).command.run.run.run session).2 := by
  change Drops _ session ((dropHost name >>= fun answer =>
    pure (.flag answer) : SessionM Reply).run.run session).2
  rw [run_bind, run_dropHost hSlot]
  refine .of_cursor rfl ?_ rfl (World.cursor_letGo _ _)
  exact World.fades_giveBack hHeld hBalanced hMute

/-- Dropping a value drains one owner. -/
theorem drops_value {value : NativeValue} (hValue : session.values.get? name = some value)
    (hHeld : ∀ ref, value = .host ref → ref ∈ session.world.held)
    (hBalanced : session.account.Balanced) (hMute : session.world.host.Mute) :
    Drops (.value name) session ((Release.value name).command.run.run.run session).2 := by
  have hErase := holdings_eraseValue session name
  rw [hValue, Option.elim_some] at hErase
  change Drops _ session ((dropValue name >>= fun answer =>
    pure (.flag answer) : SessionM Reply).run.run session).2
  rw [run_bind, run_dropValue hValue]
  refine .of_cursor rfl ?_ rfl (value.cursor_drop _)
  exact NativeValue.fades_drop hHeld hBalanced hMute hErase.symm

/-- Ending an iteration drains one owner. -/
theorem drops_iteration {iteration : Iteration}
    (hIteration : session.iterations.get? name = some iteration)
    (hBalanced : session.account.Balanced) (hMute : session.world.host.Mute) :
    Drops (.iteration name) session ((Release.iteration name).command.run.run.run session).2 := by
  change Drops _ session ((dropIteration name >>= fun answer =>
    pure (.flag answer) : SessionM Reply).run.run session).2
  rw [run_bind, run_dropIteration hIteration]
  refine ⟨rfl, ForeignSet.fades_dropIterator _ hBalanced hMute, fun number => ?_⟩
  simp only [iterator?, hIteration, Option.map_some, Option.some.injEq]
  exact ForeignSet.cursor_dropIterator_eq_ite _ _ number

/-- The exported functions forget the last error first. -/
theorem fades_clearLastError (session : Session) :
    Fades session.account ⟨session.holdings, session.world.clearLastError thread⟩ :=
  (Fade.note _).toFades

/-- Ending it through the bridge drains the same. -/
theorem drops_exportedIteration {iteration : Iteration}
    (hIteration : session.iterations.get? name = some iteration)
    (hExported : iteration.stepping = .exported) (hBalanced : session.account.Balanced)
    (hMute : session.world.host.Mute) : Drops (.iteration name) session
      ((Release.exportedIteration name).command.run.run.run session).2 := by
  have hClear := session.fades_clearLastError
  rw [run_exportedIteration hIteration hExported]
  refine ⟨rfl, hClear.trans ?_, fun number => ?_⟩
  · exact ForeignSet.fades_dropIterator _ (hClear.balanced hBalanced) hMute
  · simp only [iterator?, hIteration, Option.map_some, Option.some.injEq]
    exact ForeignSet.cursor_dropIterator_eq_ite _ _ number

/-- Giving storage back drains one owner. -/
theorem drops_storage {slot : Nat × Native.NativeClass} (hSlot : session.storage.get? name = some slot)
    (hBalanced : session.account.Balanced) :
    Drops (.storage name) session ((Release.storage name).command.run.run.run session).2 := by
  have hErase := holdings_eraseStorage session name
  rw [hSlot, Option.elim_some] at hErase
  have hStored : .storage slot.1 ∈ session.holdings := by
    rw [← hErase]
    exact Multiset.mem_add.mpr (.inl (Multiset.mem_singleton_self _))
  obtain ⟨nativeClass, hCell⟩ := Native.Heap.OwnedBy.stored hBalanced slot.1
    (Multiset.mem_add.mpr (.inl hStored))
  rw [run_discard hSlot]
  exact .of_cursor rfl (Fade.discard hCell hErase.symm).toFades rfl fun _ => rfl

theorem drops_object {slot : ObjectSlot} (hSlot : session.objects.get? name = some slot)
    (hBalanced : session.account.Balanced) (hMute : session.world.host.Mute) :
    Drops (.object name) session ((Release.object name).command.run.run.run session).2 := by
  rw [run_objectRelease hSlot]
  refine .of_cursor rfl ?_ rfl (World.cursor_releaseNative _ _)
  exact World.fades_releaseNative hBalanced hMute (holdings_disowned hSlot)

/-- Releasing a set drains one owner. -/
theorem drops_set {slot : ObjectSlot} {backing : Ref} (hSlot : session.objects.get? name = some slot)
    (hBacking : session.world.native.backing? slot.address = some backing)
    (hBalanced : session.account.Balanced) (hMute : session.world.host.Mute) :
    Drops (.object name) session ((Release.set name).command.run.run.run session).2 := by
  have hClear := session.fades_clearLastError
  rw [run_setRelease hSlot hBacking]
  refine .of_cursor rfl (hClear.trans ?_) rfl (World.cursor_releaseNative _ _)
  exact World.fades_releaseNative (hClear.balanced hBalanced) hMute (holdings_disowned hSlot)

/-- What has to be dropped is in its slot, and the host reference that it holds is held. -/
theorem drops_run {release : Release} (hOwed : 0 < session.owes release.owner)
    (hSuits : release.suits session = true) (hBalanced : session.account.Balanced)
    (hSettled : session.Settled) (hMute : session.world.host.Mute) :
    Drops release.owner session (release.command.run.run.run session).2 := by
  have hHeld : ∀ ref, ref ∈ session.claims → ref ∈ session.world.held := by
    intro ref hRef
    rwa [← hSettled, Multiset.mem_coe] at hRef
  cases release with
  | host name =>
    obtain ⟨slot, hSlot⟩ := Slots.exists_of_elim_pos hOwed
    refine drops_host hSlot (hHeld slot.ref (Multiset.mem_add.mpr (.inl ?_))) hBalanced hMute
    exact Multiset.mem_of_le (Slots.le_total hSlot) (Multiset.mem_singleton_self slot.ref)
  | value name =>
    obtain ⟨value, hValue⟩ := Slots.exists_of_elim_pos hOwed
    refine drops_value hValue (fun ref hHost => ?_) hBalanced hMute
    refine hHeld ref (Multiset.mem_add.mpr (.inr (Multiset.mem_of_le (Slots.le_total hValue) ?_)))
    rw [hHost]
    exact Multiset.mem_singleton_self ref
  | iteration name =>
    obtain ⟨iteration, hIteration⟩ := Slots.exists_of_elim_pos hOwed
    exact drops_iteration hIteration hBalanced hMute
  | exportedIteration name =>
    obtain ⟨iteration, hIteration⟩ := Slots.exists_of_elim_pos hOwed
    refine drops_exportedIteration hIteration ?_ hBalanced hMute
    simpa [Release.suits, hIteration] using hSuits
  | storage name =>
    obtain ⟨slot, hSlot⟩ := Slots.exists_of_elim_pos hOwed
    exact drops_storage hSlot hBalanced
  | object name =>
    obtain ⟨slot, hSlot⟩ := Slots.exists_of_elim_pos hOwed
    exact drops_object hSlot hBalanced hMute
  | set name =>
    obtain ⟨slot, hSlot⟩ := Slots.exists_of_elim_pos hOwed
    have hSet : (session.world.native.backing? slot.address).isSome = true := by
      simpa [Release.suits, hSlot] using hSuits
    obtain ⟨backing, hBacking⟩ := Option.isSome_iff_exists.mp hSet
    exact drops_set hSlot hBacking hBalanced hMute

/-- What is dropped by a whole command is dropped and settled. -/
theorem drops_perform {release : Release} (hOwed : 0 < session.owes release.owner)
    (hSuits : release.suits session = true) (hBalanced : session.account.Balanced)
    (hSettled : session.Settled) (hMute : session.world.host.Mute) :
    Drops release.owner session (perform release.command session).2 := by
  rw [perform_snd]
  exact (drops_run hOwed hSuits hBalanced hSettled hMute).settle hBalanced hMute

/-! What is left of the slots when an owner was dropped. -/

/-- Relieving an iteration clears its slot and no other. -/
theorem iterations_relieved (session : Session) (owner : Owner) (name : String) :
    (session.relieved owner).iterations.get? name =
      if owner = .iteration name then none else session.iterations.get? name := by
  cases owner with
  | iteration slot => simp only [relieved, Slots.get?_erase, Owner.iteration.injEq, eq_comm]
  | object slot => rw [relieved, (disowned_aside session slot).2.2.1, if_neg (by simp)]
  | _ => exact (if_neg (by simp)).symm

/-- A slot for a native object is for that object as long as it is not cleared. -/
theorem exists_object_before {content : ObjectSlot}
    (hSlot : (session.relieved owner).objects.get? name = some content) :
    ∃ old, session.objects.get? name = some old ∧ old.address = content.address := by
  cases owner with
  | object slot =>
    rw [relieved] at hSlot
    rcases eq_or_ne name slot with rfl | hOther
    · cases hOld : session.objects.get? name with
      | none => simp [disowned, hOld] at hSlot
      | some old =>
        rcases objects_disowned_self hOld with ⟨_, hNone⟩ | ⟨less, hLess, hSame, _⟩
        · simp [hNone] at hSlot
        · rw [hLess, Option.some.injEq] at hSlot
          exact ⟨old, rfl, hSlot ▸ hSame.symm⟩
    · rw [objects_disowned_of_ne hOther] at hSlot
      exact ⟨content, hSlot, rfl⟩
  | _ => exact ⟨content, hSlot, rfl⟩

def HasIterator (session : Session) (number : Nat) : Prop :=
  ∃ name iteration, session.iterations.get? name = some iteration ∧ iteration.number = number

theorem hasIterator_of_iterator? (hNumber : session.iterator? owner = some number) :
    session.HasIterator number := by
  cases owner with
  | iteration slot =>
    obtain ⟨iteration, hIteration, rfl⟩ := Option.map_eq_some_iff.mp hNumber
    exact ⟨slot, iteration, hIteration, rfl⟩
  | _ => cases hNumber

namespace Drops

theorem get?_iterations (hDrops : Drops owner before after) (name : String) :
    after.iterations.get? name =
      if owner = .iteration name then none else before.iterations.get? name := by
  rw [hDrops.slots]
  exact iterations_relieved before owner name

theorem owes (hDrops : Drops owner before after) (hOwed : 0 < before.owes owner) (other : Owner) :
    before.owes other = (if other = owner then 1 else 0) + after.owes other := by
  rw [owes_relieved hOwed, hDrops.slots]
  cases other <;> rfl

/-- An iterator in a slot is the one that is dropped, or is in a slot still. -/
theorem hasIterator (hDrops : Drops owner before after) :
    before.HasIterator number ↔ before.iterator? owner = some number ∨ after.HasIterator number := by
  constructor
  · rintro ⟨name, iteration, hIteration, rfl⟩
    by_cases hName : owner = .iteration name
    · subst hName
      exact .inl (by rw [iterator?, hIteration]; rfl)
    · refine .inr ⟨name, iteration, ?_, rfl⟩
      rw [hDrops.get?_iterations, if_neg hName, hIteration]
  · rintro (hDropped | ⟨name, iteration, hIteration, rfl⟩)
    · exact hasIterator_of_iterator? hDropped
    · rw [hDrops.get?_iterations] at hIteration
      split at hIteration
      next => cases hIteration
      next => exact ⟨name, iteration, hIteration, rfl⟩

/-- A way to drop an owner suits it as long as it is there. -/
theorem suits (hDrops : Drops owner before after) (hBalanced : before.account.Balanced)
    {release : Release} (hSuits : release.suits before = true) : release.suits after = true := by
  cases release with
  | exportedIteration name =>
    simp only [Release.suits] at hSuits ⊢
    rw [hDrops.get?_iterations]
    split
    next => rfl
    next => exact hSuits
  | set name =>
    simp only [Release.suits, Option.all_eq_true] at hSuits ⊢
    intro content hContent
    have hOwned : .reference content.address ∈ after.holdings := reference_mem hContent
    obtain ⟨object, hObject⟩ := Native.Heap.OwnedBy.exists_object
      (hDrops.fades.balanced hBalanced) content.address (Multiset.mem_add.mpr (.inl hOwned))
    obtain ⟨found, hFound, hPayload⟩ := hDrops.fades.shrinks.native hObject
    rw [hDrops.slots] at hContent
    obtain ⟨old, hOld, hAddress⟩ := exists_object_before hContent
    have hBacking := hSuits old hOld
    rw [hAddress] at hBacking
    have hSame : before.world.native.backing? content.address =
        after.world.native.backing? content.address :=
      Native.Heap.backing?_congr hFound hObject hPayload
    rwa [hSame] at hBacking
  | _ => rfl

end Drops

/-- What releases come to that drop everything that there is to drop. -/
structure Drains (before after : Session) : Prop where
  fades : Fades before.account after.account
  cleared : ∀ owner, after.owes owner = 0
  finished : ∀ number, before.HasIterator number → after.world.cursor number = .finished
  stray : ∀ number, ¬ before.HasIterator number →
    after.world.cursor number = before.world.cursor number

/-- Releases that drop each owner as often as it has to be dropped drop everything. -/
theorem drains_performAll {releases : List Release}
    (hOwed : ∀ owner, (releases.map Release.owner).count owner = session.owes owner)
    (hSuits : ∀ release ∈ releases, release.suits session = true)
    (hBalanced : session.account.Balanced) (hSettled : session.Settled)
    (hMute : session.world.host.Mute) :
    Drains session (performAll (releases.map Release.command) session).2 := by
  induction releases generalizing session with
  | nil =>
    have hNone (owner : Owner) : session.owes owner = 0 := by simp [← hOwed owner]
    refine ⟨.refl, hNone, fun number hIterator => ?_, fun _ _ => rfl⟩
    obtain ⟨name, iteration, hIteration, _⟩ := hIterator
    have hOwned := hNone (.iteration name)
    simp [owes, hIteration] at hOwned
  | cons release rest ih =>
    have hFirst : 0 < session.owes release.owner := by simp [← hOwed]
    have hDrops := drops_perform hFirst (hSuits release List.mem_cons_self) hBalanced hSettled hMute
    have hRest := ih
      (fun owner => by
        have hCount := hOwed owner
        have hLess := hDrops.owes hFirst owner
        rw [List.map_cons, List.count_cons] at hCount
        simp only [beq_iff_eq, @eq_comm _ release.owner] at hCount
        omega)
      (fun other hOther => hDrops.suits hBalanced (hSuits other (List.mem_cons_of_mem _ hOther)))
      (hDrops.fades.balanced hBalanced) (settled_perform release.command hSettled)
      (hDrops.fades.shrinks.mute hMute)
    refine ⟨hDrops.fades.trans hRest.fades, hRest.cleared, fun number hIterator => ?_,
      fun number hStray => ?_⟩
    · by_cases hLater : (perform release.command session).2.HasIterator number
      · exact hRest.finished number hLater
      · refine (hRest.stray number hLater).trans ?_
        rw [hDrops.cursor, if_pos ((hDrops.hasIterator.mp hIterator).resolve_right hLater)]
    · rw [hDrops.hasIterator, not_or] at hStray
      refine (hRest.stray number hStray.2).trans ?_
      rw [hDrops.cursor, if_neg hStray.1]

end Session

end HeapBridge
