import HeapBridge.Proofs.Ownership.Lives
import HeapBridge.Proofs.Ownership.Performing
/-!
Conservation of ownership. Over every session, whatever its commands are and whatever comes of them, a
native object has exactly as many references as slots, native values and live handles own, and comes to its
end in the move that takes the last of them, once, and not before. The record of destroyed payloads tells
of just these ends.
-/
namespace HeapBridge

open Session

variable {may : Deed → Prop}

/-- The number of references to a native object that a handle owns: one if it is a retained handle for
that object. -/
def Handle.owns (handle : Handle) (address : Nat) : Nat :=
  match handle.ownership with
  | some .nativeObject | some .frameworkObject => if handle.pointer = .native address then 1 else 0
  | some (.external _) | none => 0

def Host.Object.owns (object : Host.Object) (address : Nat) : Nat :=
  match object.body with
  | .handle handle => handle.owns address
  | _ => 0

/-- The number of references to a native object that are owned: by slots, by native values in slots, and
by the handles that are alive. -/
def Session.owners (session : Session) (address : Nat) : Nat :=
  (session.objects.entries.map fun slot =>
      if slot.2.address = address then slot.2.owned else 0).sum +
    (session.values.entries.map fun slot => if slot.2 = .set address then 1 else 0).sum +
    (session.world.host.cells.toList.map fun cell => cell.elim 0 (·.owns address)).sum

/-- A handle that goes with an object owns one reference to it. -/
theorem Handle.count_holdings (handle : Handle) (address : Nat) :
    handle.holdings.count (.reference address) = handle.owns address := by
  obtain ⟨typeId, typeName, pointer, ownership⟩ := handle
  rcases ownership with _ | discipline
  · rfl
  · cases discipline <;> cases pointer <;>
      simp [Handle.holdings, Handle.owns, Multiset.count_singleton, eq_comm]

theorem Host.Object.count_holdings (object : Host.Object) (address : Nat) :
    object.holdings.count (.reference address) = object.owns address := by
  obtain ⟨body, _, _, _⟩ := object
  cases body with
  | handle handle => exact handle.count_holdings address
  | _ => rfl

/-- What handles own, host object by host object. -/
theorem Host.Heap.count_holdings (heap : Host.Heap) (address : Nat) :
    heap.holdings.count (.reference address) =
      (heap.cells.toList.map fun cell => cell.elim 0 (·.owns address)).sum := by
  rw [holdings, count_sum_map]
  congr 2
  funext cell
  cases cell with
  | none => rfl
  | some object => exact object.count_holdings address

theorem ObjectSlot.count_holdings (slot : ObjectSlot) (address : Nat) :
    slot.holdings.count (.reference address) = if slot.address = address then slot.owned else 0 := by
  rw [holdings, Multiset.count_nsmul, Multiset.count_singleton]
  simp only [Holding.reference.injEq, eq_comm]
  split <;> simp

theorem NativeValue.count_holdings (value : NativeValue) (address : Nat) :
    value.holdings.count (.reference address) = if value = .set address then 1 else 0 := by
  cases value <;> simp [holdings, Multiset.count_singleton, eq_comm]

/-- The owners of an object are what the books of the session tell. -/
theorem Session.owners_eq (session : Session) (address : Nat) :
    session.owners address =
      (session.holdings + session.world.host.holdings).count (.reference address) := by
  have hStorage : (session.storage.total storageSlotHoldings).count (.reference address) = 0 := by
    rw [Slots.total, count_sum_map, List.sum_eq_zero]
    intro count hCount
    obtain ⟨slot, _, rfl⟩ := List.mem_map.mp hCount
    exact Multiset.count_singleton _ _
  have hObjects := count_sum_map (fun slot : String × ObjectSlot => slot.2.holdings)
    (.reference address) session.objects.entries
  have hValues := count_sum_map (fun slot : String × NativeValue => slot.2.holdings)
    (.reference address) session.values.entries
  simp only [ObjectSlot.count_holdings, NativeValue.count_holdings] at hObjects hValues
  rw [Session.holdings, Multiset.count_add, Multiset.count_add, Multiset.count_add, hStorage,
    Host.Heap.count_holdings, Slots.total, Slots.total, hObjects, hValues, owners, Nat.add_zero]

namespace Session

theorem balanced_forget (command : Command) {session : Session}
    (hBalanced : session.account.Balanced) :
    Account.Balanced ⟨session.holdings, command.forget session.world⟩ := by
  unfold Command.forget
  split <;> exact hBalanced

/-- The books are in order after any commands that name what they make. -/
theorem balanced_performAll {commands : List Command}
    (hNamed : ∀ command ∈ commands, command.isNamed = true) {session : Session}
    (hBalanced : session.account.Balanced) : (performAll commands session).2.account.Balanced := by
  induction commands generalizing session with
  | nil => exact hBalanced
  | cons command rest ih =>
    have hCommand := hNamed command List.mem_cons_self
    exact ih (fun other hOther => hNamed other (List.mem_cons_of_mem _ hOther))
      ((moves_perform hCommand session).balanced (balanced_forget command hBalanced))

/-- Where there is nothing, nothing is owned. -/
theorem balanced_empty : (account {}).Balanced := by
  have hNone : (account {}).holdings + (account {}).world.host.holdings = 0 := rfl
  refine ⟨fun address => ?_, fun address object hObject => ?_, fun address hStorage => ?_,
    fun address => ?_⟩
  · rw [hNone]
    rfl
  · cases hObject
  · rw [hNone] at hStorage
    exact (Multiset.notMem_zero _ hStorage).elim
  · rw [hNone]
    exact Nat.zero_le 1

theorem owners_account (session : Session) (address : Nat) :
    session.account.owners address = session.owners address :=
  (session.owners_eq address).symm

/-- What a command is to native objects, from the session before it to the one after it: the ends that
they come to. -/
structure Passage (command : Command) (before after : Session) (ends : List End) : Prop where
  /-- No object ends twice. -/
  once : (ends.map (·.1)).Nodup
  /-- An object that is owned afterwards lives on with its payload. -/
  kept : ∀ address object, before.world.native.object? address = some object →
    0 < after.owners address →
      ∃ other, after.world.native.object? address = some other ∧ other.payload = object.payload
  /-- An object that is not owned afterwards has come to its end. -/
  ended : ∀ address object, before.world.native.object? address = some object →
    after.owners address = 0 → (address, object.payload) ∈ ends
  /-- Each end is a move on the way that takes the last reference. -/
  last : ∀ entry ∈ ends, ∃ middle next,
    Moves (command.May before) ⟨before.holdings, command.forget before.world⟩ middle ∧
      middle.Ends (command.May before) next entry ∧ Moves (command.May before) next after.account
  /-- An end is for good. -/
  gone : ∀ entry ∈ ends, after.world.native.Vacated entry.1 ∧ after.owners entry.1 = 0
  vacated : ∀ address, before.world.native.Vacated address → after.world.native.Vacated address
  /-- The record tells of these ends and of no other. -/
  records : (command.forget before.world).Records after.world ends

theorem native_forget (command : Command) (world : World) :
    (command.forget world).native = world.native := by
  unfold Command.forget
  split <;> rfl

/-- For each command the ends that native objects come to in it can be told. -/
theorem exists_passage {command : Command} {before : Session} (hNamed : command.isNamed = true)
    (hBalanced : before.account.Balanced) :
    ∃ ends, Passage command before (perform command before).2 ends := by
  have hMoves := moves_perform hNamed before
  have hStart := balanced_forget command hBalanced
  have hFinish := hMoves.balanced hStart
  obtain ⟨ends, hLives⟩ := hMoves.lives hStart
  have hGone : ∀ entry ∈ ends, (perform command before).2.world.native.Vacated entry.1 := by
    intro entry hEntry
    obtain ⟨middle, next, hMiddle, hEnds, hNext⟩ := hLives.ended entry hEntry
    exact hNext.vacated (hEnds.move.balanced (hMiddle.balanced hStart)) hEnds.vacated
  have hKept := hLives.kept
  have hVacated := hLives.vacated
  simp only [native_forget] at hKept hVacated
  refine ⟨ends, hLives.once, fun address object hObject hOwned => ?_,
    fun address object hObject hUnowned => ?_, hLives.ended, fun entry hEntry => ?_, hVacated,
    hLives.records⟩
  · rw [← owners_account] at hOwned
    refine (hKept address object hObject).resolve_left fun hEnd => ?_
    have hNone := Native.Heap.object?_of_vacant (hGone _ hEnd).1
    rw [hFinish.owners_eq_zero hNone] at hOwned
    exact Nat.lt_irrefl 0 hOwned
  · rw [← owners_account] at hUnowned
    refine (hKept address object hObject).resolve_right fun ⟨other, hOther, _⟩ => ?_
    have hPositive := hFinish.owners_pos hOther
    omega
  · refine ⟨hGone entry hEntry, ?_⟩
    rw [← owners_account]
    exact hFinish.owners_eq_zero (Native.Heap.object?_of_vacant (hGone entry hEntry).1)

/-- In every session, after any commands, an object has as many references as are owned; and whatever
the next command is, every object that is not owned after it has come to its end in it, once, in the
move that took the last reference, and no other object has. -/
theorem ownership_conserved (commands : List Command)
    (hCommands : ∀ command ∈ commands, command.isNamed = true) (command : Command)
    (hCommand : command.isNamed = true) :
    (∀ address, (performAll commands {}).2.world.native.retainCount address =
      (performAll commands {}).2.owners address) ∧
    ∃ ends, Passage command (performAll commands {}).2
      (perform command (performAll commands {}).2).2 ends := by
  have hBalanced := balanced_performAll hCommands balanced_empty
  refine ⟨fun address => ?_, exists_passage hCommand hBalanced⟩
  rw [← owners_account]
  exact hBalanced.retainCount_eq address

/-- An object whose last owner is a handle. -/
def leftToHandle : List Command :=
  [.object (.create "a" .tracked), .wrapper (.registerOwning "T" "T" .nativeObject),
    .wrapper (.toHost "T" (.native "a") (some "h")), .exported ⟨some "a", .objectRelease⟩]

/-- The handle's end is the object's end. -/
theorem ownership_conserved_leftToHandle :
    (∀ command ∈ leftToHandle, command.isNamed = true) ∧
    Command.isNamed (.host (.drop "h")) = true ∧
    (∀ address, (performAll leftToHandle {}).2.world.native.retainCount address =
      (performAll leftToHandle {}).2.owners address) ∧
    ∃ ends, Passage (.host (.drop "h")) (performAll leftToHandle {}).2
      (perform (.host (.drop "h")) (performAll leftToHandle {}).2).2 ends :=
  ⟨by decide, rfl, ownership_conserved leftToHandle (by decide) (.host (.drop "h")) rfl⟩

end Session

end HeapBridge
