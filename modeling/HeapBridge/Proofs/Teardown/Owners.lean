import HeapBridge.Proofs.Ownership.Conservation
import HeapBridge.Proofs.Teardown.Cascades
/-!
What a session has to drop. Each slot is dropped once, and a slot for a native object once for each
reference that it owns; a slot is cleared with the last of them. There are several ways to drop an
iteration or a native object, which clear the same slot.
-/
namespace HeapBridge

variable {α : Type}

/-- Something that a session drops: what is in a slot of one of its name spaces. -/
inductive Owner where
  | host (slot : String)
  | value (slot : String)
  | iteration (slot : String)
  | storage (slot : String)
  | object (slot : String)
  deriving DecidableEq, Repr

inductive Release where
  | host (slot : String)
  | value (slot : String)
  | iteration (slot : String)
  /-- By the exported function, for an iteration that was started by one. -/
  | exportedIteration (slot : String)
  | storage (slot : String)
  | object (slot : String)
  /-- By the exported function for foreign sets. -/
  | set (slot : String)
  deriving DecidableEq, Repr

/-- The plainest way to drop an owner. -/
def Owner.release : Owner → Release
  | .host slot => .host slot
  | .value slot => .value slot
  | .iteration slot => .iteration slot
  | .storage slot => .storage slot
  | .object slot => .object slot

namespace Release

def owner : Release → Owner
  | .host slot => .host slot
  | .value slot => .value slot
  | .iteration slot | .exportedIteration slot => .iteration slot
  | .storage slot => .storage slot
  | .object slot | .set slot => .object slot

def command : Release → Command
  | .host slot => .host (.drop slot)
  | .value slot => .value (.drop slot)
  | .iteration slot => .set (.dropIteration slot)
  | .exportedIteration slot => .exported ⟨none, .iteratorFree (some slot)⟩
  | .storage slot => .object (.discard slot)
  | .object slot => .exported ⟨some slot, .objectRelease⟩
  | .set slot => .exported ⟨some slot, .setRelease⟩

/-- Whether a way to drop an owner is one for what is in the slot. -/
def suits (session : Session) : Release → Bool
  | .exportedIteration slot =>
    (session.iterations.get? slot).all fun iteration => iteration.stepping = .exported
  | .set slot =>
    (session.objects.get? slot).all fun content =>
      (session.world.native.backing? content.address).isSome
  | _ => true

end Release

@[simp] theorem Owner.owner_release (owner : Owner) : owner.release.owner = owner := by
  cases owner <;> rfl

theorem Owner.suits_release (owner : Owner) (session : Session) :
    owner.release.suits session = true := by
  cases owner <;> rfl

namespace Slots

variable {slots : Slots α} {name other : String} {content : α}

/-- What counts for something is in its slot. -/
theorem exists_of_elim_pos {times : α → Nat} (hPositive : 0 < (slots.get? name).elim 0 times) :
    ∃ content, slots.get? name = some content := by
  cases hContent : slots.get? name with
  | none => simp [hContent] at hPositive
  | some content => exact ⟨content, rfl⟩

/-- Clearing a slot empties it and no other. -/
theorem get?_erase (slots : Slots α) (name other : String) :
    (slots.erase name).get? other = if other = name then none else slots.get? other := by
  have hFilter (entries : List (String × α)) :
      (entries.filter fun slot => slot.1 ≠ name).lookup other =
        if other = name then none else entries.lookup other := by
    induction entries with
    | nil => simp
    | cons first rest ih =>
      rcases eq_or_ne first.1 name with hGone | hKept
      · rw [List.filter_cons_of_neg (by simp [hGone]), ih]
        split
        next => rfl
        next hOther => rw [lookup_cons_of_ne (hGone ▸ Ne.symm hOther)]
      · rw [List.filter_cons_of_pos (by simpa using hKept)]
        rcases eq_or_ne first.1 other with rfl | hOther
        · rw [lookup_cons_self, lookup_cons_self, if_neg hKept]
        · rw [lookup_cons_of_ne hOther, lookup_cons_of_ne hOther, ih]
  exact hFilter slots.entries

/-- Filling a slot is seen in that slot only. -/
theorem get?_put (slots : Slots α) (name other : String) (content : α) :
    (slots.put name content).get? other = if other = name then some content else slots.get? other := by
  have hNew (rest : List (String × α)) : ((name, content) :: rest).lookup other =
      if other = name then some content else rest.lookup other := by
    rcases eq_or_ne name other with rfl | hOther
    · rw [if_pos rfl]
      exact lookup_cons_self (name, content) rest
    · rw [lookup_cons_of_ne hOther, if_neg (Ne.symm hOther)]
  have hFill (entries : List (String × α)) :
      (fill name content entries).lookup other =
        if other = name then some content else entries.lookup other := by
    induction entries with
    | nil => exact hNew []
    | cons first rest ih =>
      rw [fill]
      split
      next hSame =>
        rw [hNew]
        split
        next => rfl
        next hOther => rw [lookup_cons_of_ne (hSame ▸ Ne.symm hOther)]
      next hFirst =>
        split
        next => exact hNew (first :: rest)
        next =>
          rcases eq_or_ne first.1 other with rfl | hOther
          · rw [lookup_cons_self, lookup_cons_self, if_neg (Ne.symm hFirst)]
          · rw [lookup_cons_of_ne hOther, lookup_cons_of_ne hOther, ih]
  exact hFill slots.entries

/-- Where no name has a slot there are none. -/
theorem entries_eq_nil (hNone : ∀ name, slots.get? name = none) : slots.entries = [] := by
  cases hEntries : slots.entries with
  | nil => rfl
  | cons first rest =>
    have hFirst := hNone first.1
    rw [get?, hEntries, lookup_cons_self] at hFirst
    cases hFirst

/-- A slot that is cleared was to be cleared once. -/
theorem elim_erase (hFilled : 0 < (slots.get? name).elim 0 fun _ => 1) (other : String) :
    ((slots.get? other).elim 0 fun _ => 1) =
      (if other = name then 1 else 0) + ((slots.erase name).get? other).elim 0 fun _ => 1 := by
  rw [get?_erase]
  split
  next hSame =>
    subst hSame
    cases hContent : slots.get? other with
    | none => simp [hContent] at hFilled
    | some content => rfl
  next => exact (Nat.zero_add _).symm

/-- The owners that slots are, each as often as it is to be dropped. -/
def owners (owner : String → Owner) (times : α → Nat) (slots : Slots α) : List Owner :=
  slots.entries.flatMap fun slot => List.replicate (times slot.2) (owner slot.1)

variable {owner : String → Owner} {times : α → Nat}

/-- A slot stands for one owner, as many times as it owes releases. -/
theorem count_owners (hOwner : Function.Injective owner) (slots : Slots α) (name : String) :
    (slots.owners owner times).count (owner name) = (slots.get? name).elim 0 times := by
  obtain ⟨entries, hOrdered⟩ := slots
  simp only [owners, get?]
  induction entries with
  | nil => rfl
  | cons first rest ih =>
    obtain ⟨hFirst, hRest⟩ := List.pairwise_cons.mp hOrdered
    rw [List.flatMap_cons, List.count_append, ih hRest, List.count_replicate]
    rcases eq_or_ne first.1 name with rfl | hOther
    · rw [lookup_eq_none_of_lt hFirst, lookup_cons_self]
      simp
    · rw [lookup_cons_of_ne hOther]
      simp [hOwner.eq_iff, hOther]

theorem count_owners_of_ne {other : Owner} (hOther : ∀ name, owner name ≠ other) (slots : Slots α) :
    (slots.owners owner times).count other = 0 := by
  rw [List.count_eq_zero, owners, List.mem_flatMap]
  rintro ⟨slot, _, hMember⟩
  exact hOther slot.1 (List.eq_of_mem_replicate hMember).symm

end Slots

namespace Session

variable {session : Session} {owner : Owner} {name : String}

/-- The owners that a session has to drop, each as often as it is to be dropped. -/
def remaining (session : Session) : List Owner :=
  session.hosts.owners .host (fun _ => 1) ++ session.values.owners .value (fun _ => 1) ++
    session.iterations.owners .iteration (fun _ => 1) ++
      session.storage.owners .storage (fun _ => 1) ++ session.objects.owners .object (·.owned)

/-- How often an owner is to be dropped. -/
def owes (session : Session) : Owner → Nat
  | .host slot => (session.hosts.get? slot).elim 0 fun _ => 1
  | .value slot => (session.values.get? slot).elim 0 fun _ => 1
  | .iteration slot => (session.iterations.get? slot).elim 0 fun _ => 1
  | .storage slot => (session.storage.get? slot).elim 0 fun _ => 1
  | .object slot => (session.objects.get? slot).elim 0 (·.owned)

/-- Owners are counted by what they still owe. -/
theorem count_remaining (session : Session) (owner : Owner) :
    session.remaining.count owner = session.owes owner := by
  have hHosts : Function.Injective Owner.host := fun _ _ => Owner.host.inj
  have hValues : Function.Injective Owner.value := fun _ _ => Owner.value.inj
  have hIterations : Function.Injective Owner.iteration := fun _ _ => Owner.iteration.inj
  have hStorage : Function.Injective Owner.storage := fun _ _ => Owner.storage.inj
  have hObjects : Function.Injective Owner.object := fun _ _ => Owner.object.inj
  cases owner <;>
    simp [remaining, owes, Slots.count_owners, Slots.count_owners_of_ne, hHosts, hValues, hIterations,
      hStorage, hObjects]

/-- The slots after an owner was dropped once. -/
def relieved (session : Session) : Owner → Session
  | .host slot => { session with hosts := session.hosts.erase slot }
  | .value slot => { session with values := session.values.erase slot }
  | .iteration slot => { session with iterations := session.iterations.erase slot }
  | .storage slot => { session with storage := session.storage.erase slot }
  | .object slot => session.disowned slot

/-- Only the slot that is given up loses its object. -/
theorem objects_disowned_of_ne {other : String} (hOther : other ≠ name) :
    (session.disowned name).objects.get? other = session.objects.get? other := by
  unfold disowned
  split
  · split
    · exact (Slots.get?_erase ..).trans (if_neg hOther)
    · exact (Slots.get?_put ..).trans (if_neg hOther)
  · rfl

/-- A slot that gives up a reference is cleared, or it is for the same object still. -/
theorem objects_disowned_self {slot : ObjectSlot} (hSlot : session.objects.get? name = some slot) :
    (slot.owned = 1 ∧ (session.disowned name).objects.get? name = none) ∨
      ∃ less, (session.disowned name).objects.get? name = some less ∧
        less.address = slot.address ∧ slot.owned = 1 + less.owned := by
  have hOwned := slot.hOwned
  simp only [disowned, hSlot]
  split
  next hLast => exact .inl ⟨by omega, (Slots.get?_erase ..).trans (if_pos rfl)⟩
  next hMore => exact .inr ⟨_, (Slots.get?_put ..).trans (if_pos rfl), rfl, by dsimp only; omega⟩

theorem disowned_aside (session : Session) (name : String) :
    (session.disowned name).hosts = session.hosts ∧ (session.disowned name).values = session.values ∧
      (session.disowned name).iterations = session.iterations ∧
        (session.disowned name).storage = session.storage := by
  unfold disowned
  split
  · split <;> exact ⟨rfl, rfl, rfl, rfl⟩
  · exact ⟨rfl, rfl, rfl, rfl⟩

/-- An owner that is dropped once has to be dropped once less. -/
theorem owes_relieved {dropped : Owner} (hOwed : 0 < session.owes dropped) (owner : Owner) :
    session.owes owner = (if owner = dropped then 1 else 0) + (session.relieved dropped).owes owner := by
  cases dropped with
  | object slot =>
    obtain ⟨hHosts, hValues, hIterations, hStorage⟩ := disowned_aside session slot
    cases owner with
    | object other =>
      simp only [owes, relieved, Owner.object.injEq] at hOwed ⊢
      rcases eq_or_ne other slot with rfl | hOther
      · cases hSlot : session.objects.get? other with
        | none => simp [hSlot] at hOwed
        | some content =>
          rcases objects_disowned_self hSlot with ⟨hLast, hNone⟩ | ⟨less, hLess, _, hMore⟩
          · simp [hNone, hLast]
          · simp [hLess, hMore]
      · simp [objects_disowned_of_ne hOther, hOther]
    | _ => simp [owes, relieved, hHosts, hValues, hIterations, hStorage]
  | host slot =>
    cases owner <;> simp only [owes, relieved, Owner.host.injEq, reduceCtorEq, if_false, Nat.zero_add]
    exact Slots.elim_erase hOwed _
  | value slot =>
    cases owner <;> simp only [owes, relieved, Owner.value.injEq, reduceCtorEq, if_false, Nat.zero_add]
    exact Slots.elim_erase hOwed _
  | iteration slot =>
    cases owner <;>
      simp only [owes, relieved, Owner.iteration.injEq, reduceCtorEq, if_false, Nat.zero_add]
    exact Slots.elim_erase hOwed _
  | storage slot =>
    cases owner <;>
      simp only [owes, relieved, Owner.storage.injEq, reduceCtorEq, if_false, Nat.zero_add]
    exact Slots.elim_erase hOwed _

end Session

end HeapBridge
