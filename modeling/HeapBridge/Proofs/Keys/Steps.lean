import HeapBridge.Proofs.Keys.Calls
/-!
Steps with keys. In a step a key crosses as a new handle, a call is made on the set with it, and the handle is
dropped. Whoever makes the call, it is answered as one set of keys has it, and besides the handles of the keys
that are present nothing is left.
-/
namespace HeapBridge

open Host (Heap HostM Ref SetTable)
open World (HasKeys Keyed Stocks WrapsWithin)

variable {start world : World} {set place : Nat} {key : Key} {present : Finset Key} {table : SetTable}
  {stored : List (Nat × Key)} {fresh : List (Nat × Handle)} {refs : List Ref} {asked : SetOperation Key}

namespace SetOperation

def answerOn (present : Finset Key) : SetOperation Key → SetAnswer
  | .contains key => .truth (decide (key ∈ present))
  | .add _ | .remove _ | .removeAll => .done
  | .count => .count present.card

def keysAfter (present : Finset Key) : SetOperation Key → Finset Key
  | .contains _ | .count => present
  | .add key => insert key present
  | .remove key => present.erase key
  | .removeAll => ∅

/-- What a set of keys answers one operation after another, and the keys in the end. -/
def answersOn (present : Finset Key) : List (SetOperation Key) → List SetAnswer × Finset Key
  | [] => ([], present)
  | operation :: rest =>
    let (later, last) := answersOn (operation.keysAfter present) rest
    (operation.answerOn present :: later, last)

end SetOperation

def ExportedOperation.withItem (ref : Ref) : ExportedOperation → ExportedOperation
  | .contains _ => .contains ref
  | .add _ => .add ref
  | .remove _ => .remove ref
  | .count => .count

def SetCall.withItem (ref : Ref) : SetCall → SetCall
  | .native proxy operation => .native proxy (operation.map fun _ => .host ref)
  | .exported thread proxy operation => .exported thread proxy (operation.withItem ref)
  | .host operation => .host (operation.map fun _ => ref)

theorem SetCall.withItem_of_not_item {call : SetCall} {ref : Ref}
    (hItem : (call.operation.map fun _ => key).item? = none) : call.withItem ref = call := by
  cases call with
  | native _ operation | host operation => cases operation <;> first | rfl | cases hItem
  | exported _ _ operation => cases operation <;> first | rfl | cases hItem

/-- A call on a set in which a new handle for a key takes the place of the item, if the call takes one. -/
structure KeyStep where
  call : SetCall
  key : Key

namespace KeyStep

def operation (step : KeyStep) : SetOperation Key := step.call.operation.map fun _ => step.key

/-- The key crosses, the call is made with the handle, and the handle is dropped. After a call without one
what is left over is given up, since a single call does not let go of more than so many references. -/
def run (set : Ref) (step : KeyStep) (world : World) : SetReply × World :=
  match step.operation.item? with
  | some key =>
    match (toHost key.typeId (.native key.address)).run.run world with
    | (.ok ref, before) =>
      let (reply, after) := (step.call.withItem ref).run set before
      (reply, after.letGo ref)
    | (.error _, after) => (.failed, after)
  | none =>
    let (reply, after) := step.call.run set world
    (reply, after.settle)

end KeyStep

namespace World

theorem Stocks.of_held (hStocks : start.Stocks set table stored fresh world) (held : List Ref) :
    start.Stocks set table stored fresh { world with held } where
  __ := hStocks
  wraps := hStocks.wraps.of_held held

theorem Stocks.clearLastError (hStocks : start.Stocks set table stored fresh world) (thread : Thread) :
    start.Stocks set table stored fresh (world.clearLastError thread) where
  __ := hStocks
  wraps := { hStocks.wraps with }

/-- Nothing else is given up with a reference that is given back. -/
theorem HasKeys.letGo (hHas : start.HasKeys set present (.object place :: refs) world)
    (hAwaits : start.AwaitsKeys set) : start.HasKeys set present refs (world.letGo (.object place)) := by
  obtain ⟨⟨table, stored, fresh, hStocks, rfl⟩, hSwept, hHeld⟩ := hHas
  have hKept : (start.tabled set table).held ⊆ refs ++ start.held := List.subset_append_right _ _
  obtain ⟨hWithin, hLeft, hAfter⟩ := WrapsWithin.giveBack ⟨fresh, List.Subset.refl _, hStocks.wraps⟩
    (hAwaits.swept_tabled table) hSwept hHeld hKept
  obtain ⟨others, hLast⟩ := hStocks.within hAwaits hWithin
  exact ⟨hLast.keyed, hLeft, hAfter⟩

/-- What is left by a call on the set. Some handles may be left over when all keys are removed. -/
structure HasKeysAfter (start : World) (set : Nat) (asked : SetOperation Key) (present : Finset Key)
    (refs : List Ref) (world : World) : Prop where
  keyed : start.Keyed set (asked.keysAfter present) world
  held : world.held.Perm (refs ++ start.held)
  swept : ∀ key, asked.item? = some key → world.Swept

theorem HasKeys.after (hHas : start.HasKeys set (asked.keysAfter present) refs world) :
    start.HasKeysAfter set asked present refs world := ⟨hHas.keyed, hHas.held, fun _ _ => hHas.swept⟩

/-- Settling leaves just the handles of the keys that are present. -/
theorem Keyed.settle (hKeyed : start.Keyed set present world) (hAwaits : start.AwaitsKeys set)
    (hHeld : world.held.Perm start.held) : start.HasKeys set present [] world.settle := by
  obtain ⟨table, stored, fresh, hStocks, rfl⟩ := hKeyed
  obtain ⟨hSettled, left, hLeft, hWraps, _⟩ := WrapsWithin.settle
    ⟨fresh, List.Subset.refl _, hStocks.wraps⟩ (hAwaits.swept_tabled table) hHeld
  obtain ⟨others, hLast⟩ := hStocks.within hAwaits ⟨left, hLeft, hWraps⟩
  exact ⟨hLast.keyed, world.swept_settle, hSettled⟩

/-- Where nothing is left over there are no fresh handles but those of the keys that are present. -/
theorem Stocks.perm_handles (hStocks : start.Stocks set table stored fresh world)
    (hAwaits : start.AwaitsKeys set) (hSwept : world.Swept) (hHeld : world.held.Perm start.held) :
    fresh.Perm (start.registry.handles stored) := by
  have hOnly : fresh ⊆ start.registry.handles stored := by
    rintro ⟨address, handle⟩ hEntry
    have hLive : world.host.isLive (.object address) = true :=
      Option.isSome_iff_exists.mpr ⟨_, hStocks.wraps.object?_of_mem hEntry⟩
    have hReferenced : (start.tabled set table).isReferenced (.object address) = true := by
      have hThere := hStocks.wraps.isReferenced_iff.mp (hSwept address hLive)
      exact World.isReferenced_iff.mpr (hThere.imp_left fun hRef => hHeld.mem_iff.mp hRef)
    have hNew : start.host.cells.size ≤ address := by
      obtain ⟨object, old, hObject, hBody, _⟩ := hAwaits.empty
      rw [← size_tabled hObject hBody table]
      exact hStocks.wraps.beyond _ hEntry
    have hElement := hAwaits.mem_of_isReferenced hNew hReferenced
    obtain ⟨place, key, hStored, hSame⟩ := hStocks.mem_toList.mp hElement
    cases hSame
    have hThere : (address, start.registry.handle key) ∈ start.registry.handles stored :=
      Registry.mem_handles hStored
    rw [hStocks.wraps.eq_of_mem hEntry (hStocks.there hThere)]
    exact hThere
  have hFresh : fresh.Nodup := hStocks.wraps.nodup.of_map _
  have hStored : (start.registry.handles stored).Nodup :=
    start.registry.nodup_handles (hStocks.distinct.of_map _)
  exact (List.perm_ext_iff_of_nodup hFresh hStored).mpr fun entry =>
    ⟨fun hEntry => hOnly hEntry, fun hEntry => hStocks.there hEntry⟩

end World

section Asked

variable (hAwaits : start.AwaitsKeys set) (hStocks : start.Stocks set table stored fresh world)
  (hFresh : ∀ key, asked.item? = some key → (place, start.registry.handle key) ∈ fresh)
  (hSwept : world.Swept) (hHeld : world.held.Perm (refs ++ start.held))

include hAwaits hStocks hFresh hSwept hHeld

/-- Host code does with a handle what is done with its key. -/
theorem SetOperation.exists_runHost_key :
    ∃ after, HostM.runOn ((asked.map fun _ => Ref.object place).runHost (.object set)) world =
        (.ok (asked.answerOn (stored.map (·.2)).toFinset), after) ∧
      start.HasKeysAfter set asked (stored.map (·.2)).toFinset refs after := by
  cases asked with
  | contains key =>
    have hContains := Host.runOn_contains_handle hAwaits hStocks (hFresh key rfl)
    exact ⟨world, HostM.runOn_map _ hContains, hStocks.keyed, hHeld, fun _ _ => hSwept⟩
  | add key =>
    obtain ⟨after, hAdd, hHas⟩ :=
      Host.exists_runOn_add_handle hAwaits hStocks (hFresh key rfl) hSwept hHeld
    exact ⟨after, HostM.runOn_map _ hAdd, hHas.keyed, hHas.held, fun _ _ => hHas.swept⟩
  | remove key =>
    obtain ⟨after, hDiscard, hHas⟩ :=
      Host.exists_runOn_discard_handle hAwaits hStocks (hFresh key rfl) hSwept hHeld
    exact ⟨after, HostM.runOn_map _ hDiscard, hHas.keyed, hHas.held, fun _ _ => hHas.swept⟩
  | removeAll =>
    obtain ⟨after, hClear, hKeyed, hAfter⟩ := Host.exists_runOn_clear_handles hAwaits hStocks hHeld
    exact ⟨after, HostM.runOn_map _ hClear, hKeyed, hAfter, fun _ hItem => by cases hItem⟩
  | count =>
    have hLength := Host.runOn_length_handles hAwaits hStocks
    exact ⟨world, HostM.runOn_map _ hLength, hStocks.keyed, hHeld, fun _ _ => hSwept⟩

/-- So does an operation of the bridge, which refers to the handle meanwhile. -/
theorem SetOperation.exists_run_key :
    ∃ after, ((asked.map fun _ => NativeValue.host (.object place)).run (.object set)).run.run world =
        (.ok (asked.answerOn (stored.map (·.2)).toFinset), after) ∧
      start.HasKeysAfter set asked (stored.map (·.2)).toFinset refs after := by
  have hMeanwhile : start.Stocks set table stored fresh (world.holdAll [.object place]) := hStocks.of_held _
  have hLess : (world.holdAll [.object place]).Swept := fun address hLive =>
    World.isReferenced_holdAll (hSwept address hLive) _
  have hMore : (world.holdAll [.object place]).held.Perm (.object place :: refs ++ start.held) := hHeld.cons _
  cases asked with
  | contains key =>
    have hRun := ForeignSet.run_contains_host (Host.runOn_contains_handle hAwaits hMeanwhile (hFresh key rfl))
    have hHas : start.HasKeys set (stored.map (·.2)).toFinset (.object place :: refs) _ :=
      ⟨hMeanwhile.keyed, hLess, hMore⟩
    refine ⟨_, ?_, (hHas.letGo hAwaits).after⟩
    rw [SetOperation.map, SetOperation.run, ExceptT.run_map, StateT.run_map, hRun]
    rfl
  | add key =>
    obtain ⟨after, hAdd, hHas⟩ :=
      Host.exists_runOn_add_handle hAwaits hMeanwhile (hFresh key rfl) hLess hMore
    refine ⟨_, ?_, (hHas.letGo hAwaits).after⟩
    rw [SetOperation.map, SetOperation.run, run_bind, ForeignSet.run_add_host hAdd]
    rfl
  | remove key =>
    obtain ⟨after, hDiscard, hHas⟩ :=
      Host.exists_runOn_discard_handle hAwaits hMeanwhile (hFresh key rfl) hLess hMore
    refine ⟨_, ?_, (hHas.letGo hAwaits).after⟩
    rw [SetOperation.map, SetOperation.run, run_bind, ForeignSet.run_remove_host hDiscard]
    rfl
  | removeAll =>
    obtain ⟨after, hClear, hKeyed, hAfter⟩ := Host.exists_runOn_clear_handles hAwaits hStocks hHeld
    have hRun : (ForeignSet.removeAll (.object set)).run.run world = (.ok (), after) :=
      ForeignSet.run_command hClear
    refine ⟨after, ?_, hKeyed, hAfter, fun _ hItem => by cases hItem⟩
    rw [SetOperation.map, SetOperation.run, run_bind, hRun]
    rfl
  | count =>
    have hRun : (ForeignSet.count (.object set)).run.run world =
        (.ok (stored.map (·.2)).toFinset.card, world) := by
      rw [ForeignSet.count_eq, BridgeM.contract, BridgeM.run_host, Host.runOn_length_handles hAwaits hStocks]
    refine ⟨world, ?_, hStocks.keyed, hHeld, fun _ _ => hSwept⟩
    rw [SetOperation.map, SetOperation.run, ExceptT.run_map, StateT.run_map, hRun]
    rfl

/-- So does an exported function, or whoever else makes the call. -/
theorem SetCall.exists_run_key {call : SetCall}
    (hOperation : asked = call.operation.map fun _ => key)
    (hProxy : ∀ proxy, call.proxy? = some proxy → start.native.backing? proxy = some (.object set)) :
    ∃ after, (call.withItem (.object place)).run (.object set) world =
        (call.reply (asked.answerOn (stored.map (·.2)).toFinset), after) ∧
      start.HasKeysAfter set asked (stored.map (·.2)).toFinset refs after := by
  have hBacking (proxy : Nat) (hCall : call.proxy? = some proxy) :
      world.native.backing? proxy = some (.object set) :=
    (hStocks.wraps.backing? proxy).trans (hProxy proxy hCall)
  cases call with
  | native proxy called =>
    obtain ⟨after, hRun, hHas⟩ :=
      asked.exists_run_key hAwaits hStocks hFresh hSwept hHeld
    have hSame : (asked.map fun _ => NativeValue.host (.object place)) =
        called.map fun _ => NativeValue.host (.object place) := by
      rw [hOperation]
      cases called <;> rfl
    rw [hSame] at hRun
    refine ⟨after, ?_, hHas⟩
    simp only [withItem, run, hBacking proxy rfl, hRun]
    rfl
  | exported thread proxy called =>
    obtain ⟨after, hRun, hHas⟩ := asked.exists_run_key hAwaits (hStocks.clearLastError thread) hFresh
      hSwept hHeld
    have hSame : (asked.map fun _ => NativeValue.host (.object place)) =
        (called.withItem (.object place)).operation := by
      rw [hOperation]
      cases called <;> rfl
    rw [hSame] at hRun
    refine ⟨after, ?_, hHas⟩
    simp only [withItem, run, ExportedOperation.run_of_run (hBacking proxy rfl) hRun]
    rfl
  | host called =>
    obtain ⟨after, hRun, hHas⟩ :=
      asked.exists_runHost_key hAwaits hStocks hFresh hSwept hHeld
    have hSame : (asked.map fun _ => Ref.object place) = called.map fun _ => Ref.object place := by
      rw [hOperation]
      cases called <;> rfl
    rw [hSame] at hRun
    refine ⟨after, ?_, hHas⟩
    simp only [withItem, run, hRun]
    rfl

end Asked

/-- Whether a key crosses as a handle that owns a reference: its type is registered for handles that are
counted, and what it points to is a native object that is there and no foreign set. -/
structure Key.Crosses (key : Key) (world : World) : Prop where
  registered : ∃ name discipline wrapper, world.registry.lookup key.typeId = .ok wrapper ∧
    wrapper.Registers key.typeId name (some discipline) ∧
      (discipline = .nativeObject ∨ discipline = .frameworkObject)
  live : 0 < world.native.retainCount key.address
  plain : world.native.backing? key.address = none

namespace Key.Crosses

theorem retains (hCrosses : key.Crosses start) : (start.registry.handle key).Retains start.native := by
  obtain ⟨name, discipline, wrapper, hLookup, hRegisters, hCounted⟩ := hCrosses.registered
  rw [hRegisters.eq] at hLookup
  refine ⟨?_, key.address, start.registry.pointer_handle key, hCrosses.live⟩
  simpa only [Registry.handle, hLookup, PointerWrapper.handles, Option.some.injEq] using hCounted

/-- The key crosses as its handle. -/
theorem run_toHost (hCrosses : key.Crosses start) (hRegistry : world.registry = start.registry) :
    (toHost key.typeId (.native key.address)).run.run world =
      (.ok (.object world.host.cells.size), world.handed (start.registry.handle key)) := by
  obtain ⟨name, discipline, wrapper, hLookup, hRegisters, _⟩ := hCrosses.registered
  rw [hRegisters.eq] at hLookup
  have hHandle : start.registry.handle key =
      { typeId := key.typeId, typeName := name, pointer := .native key.address, ownership := discipline } := by
    simp only [Registry.handle, hLookup, PointerWrapper.handles]
  have hBound : world.registry.lookup key.typeId = _ := hRegistry ▸ hLookup
  rw [run_toHost_handles hBound, if_neg (Pointer.number_native_ne_zero _), hHandle, World.resolve]

end Key.Crosses

namespace World.Stocks

/-- A key crosses, and nothing else comes to be there. -/
theorem handed (hStocks : start.Stocks set table stored fresh world) (hCrosses : key.Crosses start) :
    start.Stocks set table stored ((world.host.cells.size, start.registry.handle key) :: fresh)
      (world.handed (start.registry.handle key)) where
  wraps := hStocks.wraps.handed hCrosses.retains
  sound := hStocks.sound
  entries := hStocks.entries
  distinct := hStocks.distinct
  there := List.subset_cons_of_subset _ hStocks.there

/-- Nothing is left to be swept after a key has crossed. -/
theorem swept_handed (hStocks : start.Stocks set table stored fresh world) (hAwaits : start.AwaitsKeys set)
    (hCrosses : key.Crosses start) (hSwept : world.Swept) :
    (world.handed (start.registry.handle key)).Swept := by
  intro address hLive
  rw [(hStocks.handed hCrosses).isReferenced_iff hAwaits, held_handed]
  by_cases hNew : address = world.host.cells.size
  · exact .inl (hNew ▸ List.mem_cons_self)
  · have hThere : world.host.isLive (.object address) = true := by
      have hMade : (world.host.allocate { body := .handle (start.registry.handle key) }).2.isLive
          (.object address) = true := hLive
      rwa [Heap.isLive, Heap.object?_allocate, if_neg hNew] at hMade
    have hReferenced := (hStocks.isReferenced_iff hAwaits).mp (hSwept address hThere)
    exact hReferenced.imp_left (List.mem_cons_of_mem _ ·)

end World.Stocks

namespace KeyStep

variable {step : KeyStep}

/-- Whether a step is one on the set, with a key that crosses if it takes any. -/
structure Fits (step : KeyStep) (start : World) (set : Nat) : Prop where
  proxy : ∀ proxy, step.call.proxy? = some proxy → start.native.backing? proxy = some (.object set)
  key : ∀ key, step.operation.item? = some key → key.Crosses start

/-- A step is answered as the keys have it, and leaves the handles of those that are present then. -/
theorem run_keys (hAwaits : start.AwaitsKeys set) (hFits : step.Fits start set)
    (hHas : start.HasKeys set present [] world) :
    (step.run (.object set) world).1 = step.call.reply (step.operation.answerOn present) ∧
      start.HasKeys set (step.operation.keysAfter present) [] (step.run (.object set) world).2 := by
  obtain ⟨⟨table, stored, fresh, hStocks, rfl⟩, hSwept, hHeld⟩ := hHas
  cases hItem : step.operation.item? with
  | none =>
    have hFresh : ∀ key, step.operation.item? = some key → (0, start.registry.handle key) ∈ fresh := by
      intro key hKey
      rw [hItem] at hKey
      cases hKey
    obtain ⟨after, hRun, hHas⟩ := SetCall.exists_run_key hAwaits hStocks hFresh hSwept hHeld rfl hFits.proxy
    rw [SetCall.withItem_of_not_item hItem] at hRun
    have hStep : step.run (.object set) world =
        (step.call.reply (step.operation.answerOn (stored.map (·.2)).toFinset), after.settle) := by
      simp only [run, hItem, hRun]
    rw [hStep]
    exact ⟨rfl, hHas.keyed.settle hAwaits hHas.held⟩
  | some key =>
    have hCrosses := hFits.key key hItem
    have hFresh : ∀ other, step.operation.item? = some other →
        (world.host.cells.size, start.registry.handle other) ∈
          (world.host.cells.size, start.registry.handle key) :: fresh := by
      intro other hOther
      rw [hItem] at hOther
      cases hOther
      exact List.mem_cons_self
    have hFlight : (world.handed (start.registry.handle key)).held.Perm
        ([.object world.host.cells.size] ++ start.held) := by
      rw [World.held_handed]
      exact hHeld.cons _
    obtain ⟨after, hRun, hHas⟩ := SetCall.exists_run_key hAwaits (hStocks.handed hCrosses) hFresh
      (hStocks.swept_handed hAwaits hCrosses hSwept) hFlight rfl hFits.proxy
    have hHandle : start.HasKeys set (step.operation.keysAfter (stored.map (·.2)).toFinset)
        [.object world.host.cells.size] after := ⟨hHas.keyed, hHas.swept key hItem, hHas.held⟩
    have hStep : step.run (.object set) world =
        (step.call.reply (step.operation.answerOn (stored.map (·.2)).toFinset),
          after.letGo (.object world.host.cells.size)) := by
      simp only [run, hItem, hCrosses.run_toHost hStocks.wraps.registry, hRun]
    rw [hStep]
    exact ⟨rfl, hHandle.letGo hAwaits⟩

def runAll (set : Ref) : List KeyStep → World → List SetReply × World
  | [], world => ([], world)
  | step :: rest, world =>
    let (replies, last) := runAll set rest (step.run set world).2
    ((step.run set world).1 :: replies, last)

/-- So is a run of steps. -/
theorem runAll_keys {steps : List KeyStep} (hAwaits : start.AwaitsKeys set)
    (hFits : ∀ step ∈ steps, step.Fits start set) (hHas : start.HasKeys set present [] world) :
    (runAll (.object set) steps world).1 = List.zipWith (fun step answer => step.call.reply answer) steps
        (SetOperation.answersOn present (steps.map operation)).1 ∧
      start.HasKeys set (SetOperation.answersOn present (steps.map operation)).2 []
        (runAll (.object set) steps world).2 := by
  induction steps generalizing present world with
  | nil => exact ⟨rfl, hHas⟩
  | cons step rest ih =>
    obtain ⟨hReply, hNext⟩ := run_keys hAwaits (hFits step List.mem_cons_self) hHas
    obtain ⟨hReplies, hLast⟩ := ih (fun later hLater => hFits later (List.mem_cons_of_mem _ hLater)) hNext
    exact ⟨congr (congrArg List.cons hReply) hReplies, hLast⟩

end KeyStep

/-- The handles of some keys own a reference for each key with the address. -/
theorem Registry.ownedBy_handles {registry : Registry} {native : Native.Heap} (address : Nat)
    (hRetains : ∀ entry ∈ registry.handles stored, entry.2.Retains native) :
    ownedBy (registry.handles stored) address = (stored.map (·.2)).countP (·.address = address) := by
  induction stored with
  | nil => rfl
  | cons entry rest ih =>
    have hFirst := hRetains _ List.mem_cons_self
    have hRest := ih fun other hOther => hRetains other (List.mem_cons_of_mem _ hOther)
    change ownedBy ((entry.1, registry.handle entry.2) :: registry.handles rest) address = _
    rw [ownedBy_cons, hRest, hFirst.owns_eq (registry.pointer_handle entry.2), List.map_cons,
      List.countP_cons, Nat.add_comm]
    simp only [decide_eq_true_eq, @eq_comm _ address]

/-- A native object has the references it had at first, and one for each key with its address. -/
theorem World.HasKeys.retainCount (hHas : start.HasKeys set present [] world) (hAwaits : start.AwaitsKeys set)
    (address : Nat) : world.native.retainCount address =
      start.native.retainCount address + (present.filter (·.address = address)).card := by
  obtain ⟨⟨table, stored, fresh, hStocks, rfl⟩, hSwept, hHeld⟩ := hHas
  have hWraps := hStocks.wraps.perm (hStocks.perm_handles hAwaits hSwept hHeld)
  have hOwned := Registry.ownedBy_handles address hWraps.retains
  have hCard : ((stored.map (·.2)).toFinset.filter (·.address = address)).card =
      (stored.map (·.2)).countP (·.address = address) := by
    rw [List.countP_eq_length_filter, ← List.toFinset_card_of_nodup (hStocks.distinct.filter _),
      List.toFinset_filter]
    simp only [decide_eq_true_eq]
  rw [hCard, ← hOwned]
  exact hWraps.retainCount address

end HeapBridge
