import HeapBridge.Proofs.Custody.Adoption
import HeapBridge.Proofs.Ownership.Conservation
/-!
Proxies over whole sessions. While a proxy is alive it holds one reference to its host value and gives that
very value whenever it is asked; the reference was handed over by the call that made it, and is given up in
the move in which the proxy comes to its end. So in every session the references to a host object are just
those of the slots, native values and live proxies that name it, beside those from inside the bridge.
-/
namespace HeapBridge

open Host (Ref)
open Native (Payload)

/-- How often the slots own something of which no content has more than one. -/
theorem Slots.count_total {α β : Type} [DecidableEq β] {share : α → Multiset β} {content : β}
    {names : α → Prop} [DecidablePred names]
    (hShare : ∀ item, (share item).count content = if names item then 1 else 0) (slots : Slots α) :
    (slots.total share).count content = slots.entries.countP fun slot => names slot.2 := by
  rw [total, count_sum_map]
  induction slots.entries with
  | nil => rfl
  | cons first rest ih =>
    rw [List.map_cons, List.sum_cons, ih, hShare, List.countP_cons, Nat.add_comm]
    simp only [decide_eq_true_eq]

/-- The number of live proxies of a host object. -/
def Native.Heap.proxies (heap : Native.Heap) (ref : Ref) : Nat :=
  heap.objects.countP fun object => object.payload = .foreignSet ref

/-- Each proxy holds one reference, and nothing else in the native heap holds any. -/
theorem Native.Heap.count_references (heap : Native.Heap) (ref : Ref) :
    heap.references.count ref = heap.proxies ref := by
  unfold references proxies
  induction heap.objects with
  | nil => rfl
  | cons object rest ih =>
    rw [List.flatMap_cons, List.count_append, ih, List.countP_cons, Nat.add_comm]
    congr 1
    cases hPayload : object.payload with
    | foreignSet backing => simp [Payload.references, List.count_singleton]
    | _ => simp [Payload.references]

namespace Session

variable {session : Session}

/-- The number of slots, native values and live proxies that name a host object. -/
def claimants (session : Session) (ref : Ref) : Nat :=
  (session.hosts.entries.countP fun slot => slot.2.ref = ref) +
    (session.values.entries.countP fun slot => slot.2 = .host ref) + session.world.native.proxies ref

/-- The number of references to a host object from inside the bridge: from iterators under way, from
converters and from host objects. -/
def insiders (session : Session) (ref : Ref) : Nat :=
  (session.world.cursors.toList.flatMap Cursor.references).count ref +
    session.world.registry.references.count ref + session.world.host.references.count ref

/-- Each slot and each native value claims one reference to the object that it names. -/
theorem count_claims (session : Session) (ref : Ref) :
    session.claims.count ref =
      (session.hosts.entries.countP fun slot => slot.2.ref = ref) +
        session.values.entries.countP fun slot => slot.2 = .host ref := by
  have hHost (slot : HostSlot) : slot.claims.count ref = if slot.ref = ref then 1 else 0 := by
    simp [HostSlot.claims, Multiset.count_singleton, eq_comm]
  have hValue (value : NativeValue) :
      value.claims.count ref = if value = .host ref then 1 else 0 := by
    cases value <;> simp [NativeValue.claims, Multiset.count_singleton, eq_comm]
  rw [claims, Multiset.count_add, Slots.count_total hHost, Slots.count_total hValue]

/-- What is held from outside is what the session claims. -/
theorem refCount_eq (hSettled : session.Settled) (ref : Ref) :
    session.world.refCount ref = session.claimants ref + session.insiders ref := by
  have hHeld : session.world.held.count ref = session.claims.count ref := by
    rw [← hSettled, Multiset.coe_count]
  rw [count_claims] at hHeld
  simp only [World.refCount, World.references, List.count_append, Native.Heap.count_references,
    hHeld, claimants, insiders]
  omega

/-- Custody of the references to host objects. -/
structure Custody (session : Session) : Prop where
  /-- Each slot, native value and live proxy holds one reference to the object that it names. -/
  counted : ∀ ref, session.world.refCount ref = session.claimants ref + session.insiders ref
  /-- A proxy in a slot gives the very object that it holds, -/
  ofSlot : ∀ name slot ref, session.objects.get? name = some slot →
    session.world.native.backing? slot.address = some ref →
      (backing name).run.run session = (.ok ref, session)
  /-- and so does one that a native value holds, -/
  ofValue : ∀ address ref, session.world.native.backing? address = some ref →
    (NativeValue.set address).toHost.run.run session.world = (.ok ref, session.world)
  /-- and one that the exported function is asked about. -/
  exported : ∀ thread address ref, session.world.native.backing? address = some ref →
    (Export.setHostObject thread (.native address)).run session.world =
      (some ref, session.world.clearLastError thread)

/-- What is held is what is claimed, so it can be counted slot by slot. -/
theorem custody_of_settled (hSettled : session.Settled) : Custody session where
  counted := refCount_eq hSettled
  ofSlot name slot ref hSlot hBacking := by
    rw [run_backing, hSlot]
    simp only [hBacking]
  ofValue address ref hBacking := by
    rw [NativeValue.toHost, run_get, hBacking]
    rfl
  exported thread address ref hBacking := by
    rw [Export.setHostObject, Export.run_guarded, run_bind, Export.run_setArgument_native]
    rw [show (session.world.clearLastError thread).native = session.world.native from rfl, hBacking]
    rfl

/-- How a proxy that has come to its end gives up the reference that it held: in a move of the command
that does nothing else to such references. -/
def GivesUp (command : Command) (before after : Session) (entry : End) : Prop :=
  ∃ middle next,
    Moves (command.May before) ⟨before.holdings, command.forget before.world⟩ middle ∧
      middle.Ends (command.May before) next entry ∧
        Moves (command.May before) next after.account ∧
          (middle.world.native.references : Multiset Ref) =
              entry.2.references + (next.world.native.references : Multiset Ref) ∧
            next.world.held = middle.world.held

/-- What becomes of the references of proxies: in a session, by a command that is run next, and by calls
that are handed references over. -/
structure Conserves (session : Session) (command : Command) : Prop where
  custody : Custody session
  /-- A proxy keeps what it holds, or comes to its end in the command and gives it up. -/
  passage : ∃ ends, Passage command session (perform command session).2 ends ∧
    ∀ entry ∈ ends, GivesUp command session (perform command session).2 entry
  /-- A call uses up the reference that it is handed over, once, whatever comes of it, -/
  used : ∀ (adoption : Adoption) (world : World) (rest : Multiset Ref),
    (world.held : Multiset Ref) = refClaims adoption.value? + rest →
      ((adoption.run world).2.held : Multiset Ref) = rest
  /-- and it uses up its storage, too, for a proxy that holds just this reference or for none. -/
  makes : ∀ (adoption : Adoption) (world : World), world.native.Reserved adoption.storage? →
    Native.Heap.Makes adoption.value? adoption.storage? world.native (adoption.run world).2.native
      (adoption.run world).1
  /-- A proxy that is made in two steps is like one that is made in one. -/
  steps : ∀ thread value (world : World),
    ((Export.setNewInSteps thread value).run world).1 = ((Export.setNew thread value).run world).1 ∧
      World.Alike ((Export.setNew thread value).run world).2
        ((Export.setNewInSteps thread value).run world).2

/-- In every session, after any commands and for whatever command is next, the references of proxies are
conserved. -/
theorem backings_conserved (commands : List Command)
    (hCommands : ∀ command ∈ commands, command.isNamed = true) (command : Command)
    (hCommand : command.isNamed = true) : Conserves (performAll commands {}).2 command where
  custody := custody_of_settled (settled_performAll commands settled_empty)
  passage := by
    have hBalanced := balanced_performAll hCommands balanced_empty
    obtain ⟨ends, hPassage⟩ := exists_passage hCommand hBalanced
    refine ⟨ends, hPassage, fun entry hEntry => ?_⟩
    obtain ⟨middle, next, hMiddle, hEnds, hNext⟩ := hPassage.last entry hEntry
    have hReferences := hEnds.references (hMiddle.balanced (balanced_forget command hBalanced))
    exact ⟨middle, next, hMiddle, hEnds, hNext, hReferences⟩
  used adoption _ _ := adoption.held_run
  makes adoption _ := adoption.makes_run
  steps := Export.setNewInSteps_alike

/-- A proxy under two names, one of which is given up. -/
def sharedProxy : List Command :=
  [.set (.create "s" (.set [])), .object (.retainAs "s" "t"), .exported ⟨some "s", .setRelease⟩]

/-- The other name is the last. -/
theorem backings_conserved_sharedProxy :
    (∀ command ∈ sharedProxy, command.isNamed = true) ∧
      Command.isNamed (.exported ⟨some "t", .objectRelease⟩) = true ∧
        Conserves (performAll sharedProxy {}).2 (.exported ⟨some "t", .objectRelease⟩) :=
  ⟨by decide, rfl, backings_conserved sharedProxy (by decide) _ rfl⟩

end Session

end HeapBridge
