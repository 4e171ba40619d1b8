import HeapBridge.Proofs.Ownership.Exports
/-!
What a session owns through its slots: the references that its slots for native objects own, the references
that its native values and its slots for host objects hold, and the storage it has reserved. Filling or
clearing a slot moves what was in it to whoever fills or clears it.
-/
namespace HeapBridge

open Host (Ref)

variable {α β : Type}

/-- How often something is owned together. -/
theorem count_sum_map [DecidableEq β] (share : α → Multiset β) (content : β) (items : List α) :
    ((items.map share).sum).count content = (items.map fun item => (share item).count content).sum := by
  induction items with
  | nil => rfl
  | cons item rest ih => simp only [List.map_cons, List.sum_cons, Multiset.count_add, ih]

namespace Slots

/-- What the contents of all slots own together. -/
def total (share : α → Multiset β) (slots : Slots α) : Multiset β :=
  (slots.entries.map fun slot => share slot.2).sum

theorem lookup_eq_none_of_lt {entries : List (String × α)} {name : String}
    (hLess : ∀ entry ∈ entries, name < entry.1) : entries.lookup name = none := by
  rw [List.lookup_eq_none_iff]
  intro entry hEntry
  simpa using (Std.ne_of_lt (hLess entry hEntry))

theorem lookup_cons_self (first : String × α) (rest : List (String × α)) :
    (first :: rest).lookup first.1 = some first.2 := by
  rw [List.lookup_cons, beq_self_eq_true]

theorem lookup_cons_of_ne {first : String × α} {name : String} (hOther : first.1 ≠ name)
    (rest : List (String × α)) : (first :: rest).lookup name = rest.lookup name := by
  rw [List.lookup_cons, beq_eq_false_iff_ne.mpr hOther.symm]

/-- All that slots hold is what one of them holds and what the others do. -/
theorem sum_filter (share : α → Multiset β) {entries : List (String × α)}
    (hOrdered : entries.Pairwise fun a b => a.1 < b.1) (name : String) :
    (entries.map fun slot => share slot.2).sum = (entries.lookup name).elim 0 share +
      ((entries.filter fun slot => slot.1 ≠ name).map fun slot => share slot.2).sum := by
  induction entries with
  | nil => rfl
  | cons first rest ih =>
    obtain ⟨hFirst, hRest⟩ := List.pairwise_cons.mp hOrdered
    rcases eq_or_ne first.1 name with rfl | hOther
    · have hKept : rest.filter (fun slot => slot.1 ≠ first.1) = rest := by
        rw [List.filter_eq_self]
        intro entry hEntry
        simpa using (Std.ne_of_lt (hFirst entry hEntry)).symm
      rw [List.filter_cons_of_neg (by simp), hKept, lookup_cons_self]
      simp
    · rw [List.filter_cons_of_pos (by simpa using hOther), lookup_cons_of_ne hOther]
      simp only [List.map_cons, List.sum_cons, ih hRest]
      abel

/-- Filling a slot trades the old content for the new. -/
theorem sum_fill (share : α → Multiset β) {entries : List (String × α)}
    (hOrdered : entries.Pairwise fun a b => a.1 < b.1) (name : String) (content : α) :
    (entries.lookup name).elim 0 share +
        ((fill name content entries).map fun slot => share slot.2).sum =
      share content + (entries.map fun slot => share slot.2).sum := by
  induction entries with
  | nil => simp [fill]
  | cons first rest ih =>
    obtain ⟨hFirst, hRest⟩ := List.pairwise_cons.mp hOrdered
    rw [fill]
    split
    next hSame =>
      rw [hSame, lookup_cons_self]
      simp only [Option.elim_some, List.map_cons, List.sum_cons]
      abel
    next hOther =>
      rw [lookup_cons_of_ne (Ne.symm hOther)]
      split
      next hLess =>
        rw [lookup_eq_none_of_lt fun entry hEntry => String.lt_trans hLess (hFirst entry hEntry)]
        simp
      next =>
        simp only [List.map_cons, List.sum_cons]
        rw [add_left_comm, ih hRest]
        abel

/-- What is cleared out of a slot is what the other slots do not own. -/
theorem total_erase (share : α → Multiset β) (slots : Slots α) (name : String) :
    slots.total share = (slots.get? name).elim 0 share + (slots.erase name).total share :=
  sum_filter share slots.ordered name

/-- Filling a slot puts a content in the place of the one that was there. -/
theorem total_put (share : α → Multiset β) (slots : Slots α) (name : String) (content : α) :
    (slots.get? name).elim 0 share + (slots.put name content).total share =
      share content + slots.total share :=
  sum_fill share slots.ordered name content

theorem le_total {share : α → Multiset β} {slots : Slots α} {name : String} {content : α}
    (hContent : slots.get? name = some content) : share content ≤ slots.total share := by
  rw [total_erase share slots name, hContent]
  exact Multiset.le_add_right _ _

end Slots

def ObjectSlot.holdings (slot : ObjectSlot) : Multiset Holding :=
  slot.owned • {.reference slot.address}

def HostSlot.claims (slot : HostSlot) : Multiset Ref := {slot.ref}

def storageSlotHoldings (slot : Nat × Native.NativeClass) : Multiset Holding := {.storage slot.1}

namespace Session

def holdings (session : Session) : Multiset Holding :=
  session.objects.total ObjectSlot.holdings + session.values.total NativeValue.holdings +
    session.storage.total storageSlotHoldings

def claims (session : Session) : Multiset Ref :=
  session.hosts.total HostSlot.claims + session.values.total NativeValue.claims

def estate (session : Session) : Estate := (session.holdings, session.claims)

instance : Holder Session where
  world := Session.world
  estate := Session.estate

variable {session : Session} {name : String}

@[simp] theorem ledger_session (beside : Estate) (session : Session) :
    Holder.ledger beside session = ⟨beside + session.estate, session.world⟩ := rfl

@[simp] theorem estate_world (session : Session) (world : World) :
    ({ session with world } : Session).estate = session.estate := rfl

@[simp] theorem estate_iterations (session : Session) (iterations : Slots Iteration) :
    ({ session with iterations } : Session).estate = session.estate := rfl

@[simp] theorem holdings_world (session : Session) (world : World) :
    ({ session with world } : Session).holdings = session.holdings := rfl

/-- What the slots for native objects own, beside what else is owned. -/
theorem holdings_putObject (session : Session) (name : String) (slot : ObjectSlot) :
    (session.objects.get? name).elim 0 ObjectSlot.holdings +
        ({ session with objects := session.objects.put name slot } : Session).holdings =
      slot.holdings + session.holdings := by
  simp only [holdings, ← add_assoc]
  rw [Slots.total_put]

theorem holdings_eraseObject (session : Session) (name : String) :
    (session.objects.get? name).elim 0 ObjectSlot.holdings +
        ({ session with objects := session.objects.erase name } : Session).holdings =
      session.holdings := by
  simp only [holdings, ← add_assoc]
  rw [← Slots.total_erase]

/-- A slot that is put owns what is put there, in place of what it owned. -/
theorem holdings_putValue (session : Session) (name : String) (value : NativeValue) :
    (session.values.get? name).elim 0 NativeValue.holdings +
        ({ session with values := session.values.put name value } : Session).holdings =
      value.holdings + session.holdings := by
  have hPut := Slots.total_put NativeValue.holdings session.values name value
  simp only [holdings]
  rw [add_right_comm, add_left_comm, hPut, add_right_comm _ (Slots.total _ session.values),
    add_left_comm]

theorem holdings_eraseValue (session : Session) (name : String) :
    (session.values.get? name).elim 0 NativeValue.holdings +
        ({ session with values := session.values.erase name } : Session).holdings =
      session.holdings := by
  have hErase := Slots.total_erase NativeValue.holdings session.values name
  simp only [holdings]
  rw [add_right_comm, add_left_comm, ← hErase, add_right_comm]

theorem holdings_putStorage (session : Session) (name : String)
    (slot : Nat × Native.NativeClass) :
    (session.storage.get? name).elim 0 storageSlotHoldings +
        ({ session with storage := session.storage.put name slot } : Session).holdings =
      storageSlotHoldings slot + session.holdings := by
  have hPut := Slots.total_put storageSlotHoldings session.storage name slot
  simp only [holdings]
  rw [add_left_comm, hPut, add_left_comm]

theorem holdings_eraseStorage (session : Session) (name : String) :
    (session.storage.get? name).elim 0 storageSlotHoldings +
        ({ session with storage := session.storage.erase name } : Session).holdings =
      session.holdings := by
  have hErase := Slots.total_erase storageSlotHoldings session.storage name
  simp only [holdings]
  rw [add_left_comm, ← hErase]

/-- Filling a slot for a host object claims a reference in the place of the one claimed before. -/
theorem claims_putHost (session : Session) (name : String) (slot : HostSlot) :
    (session.hosts.get? name).elim 0 HostSlot.claims +
        ({ session with hosts := session.hosts.put name slot } : Session).claims =
      slot.claims + session.claims := by
  simp only [claims, ← add_assoc]
  rw [Slots.total_put]

theorem claims_eraseHost (session : Session) (name : String) :
    (session.hosts.get? name).elim 0 HostSlot.claims +
        ({ session with hosts := session.hosts.erase name } : Session).claims =
      session.claims := by
  simp only [claims, ← add_assoc]
  rw [← Slots.total_erase]

/-- A value that is put owns references to host objects in place of what was there. -/
theorem claims_putValue (session : Session) (name : String) (value : NativeValue) :
    (session.values.get? name).elim 0 NativeValue.claims +
        ({ session with values := session.values.put name value } : Session).claims =
      value.claims + session.claims := by
  have hPut := Slots.total_put NativeValue.claims session.values name value
  simp only [claims]
  rw [add_left_comm, hPut, add_left_comm]

theorem claims_eraseValue (session : Session) (name : String) :
    (session.values.get? name).elim 0 NativeValue.claims +
        ({ session with values := session.values.erase name } : Session).claims =
      session.claims := by
  have hErase := Slots.total_erase NativeValue.claims session.values name
  simp only [claims]
  rw [add_left_comm, ← hErase]

/-- The object in a slot is owned by the session. -/
theorem reference_mem {slot : ObjectSlot} (hSlot : session.objects.get? name = some slot) :
    .reference slot.address ∈ session.holdings := by
  have hMem : Holding.reference slot.address ∈ slot.holdings := by
    simp [ObjectSlot.holdings, Multiset.mem_nsmul, slot.hOwned.ne']
  simp only [holdings, Multiset.mem_add]
  exact .inl (.inl (Multiset.mem_of_le (Slots.le_total hSlot) hMem))

/-- So is the proxy that a native value in a slot holds. -/
theorem value_mem {address : Nat} (hValue : session.values.get? name = some (.set address)) :
    .reference address ∈ session.holdings := by
  have hMem : Holding.reference address ∈ (NativeValue.set address).holdings := by
    simp [NativeValue.holdings]
  simp only [holdings, Multiset.mem_add]
  exact .inl (.inr (Multiset.mem_of_le (Slots.le_total hValue) hMem))

end Session

end HeapBridge
