import HeapBridge.Proofs.Keys.Steps
/-!
The balance of keys. In a run of steps each native object has the references it had at first, and one for each
key with its address that is in the set. When the set comes to its end with its last owner, or gives up all its
keys, each native object has the references that it had at first.
-/
namespace HeapBridge

open Host (Heap Object Ref SetTable)
open World (HasKeys Stocks)

variable {start world base rest : World} {set address : Nat} {present : Finset Key} {fresh : List (Nat × Handle)}
  {steps : List KeyStep} {table : SetTable} {stored : List (Nat × Key)}

/-- Who owns a set: someone who holds a reference to it, or a proxy. -/
inductive SetOwner where
  | holder
  | proxy (address : Nat)

namespace SetOwner

def without (set : Nat) : SetOwner → World → World
  | .holder, world => world.unhold (.object set)
  | .proxy address, world => (world.dropNative address).2

def drop (set : Nat) : SetOwner → World → World
  | .holder, world => (world.letGo (.object set)).settle
  | .proxy address, world => (world.releaseNative address).settle

def Owns (set : Nat) : SetOwner → World → Prop
  | .holder, world => .object set ∈ world.held
  | .proxy address, world => world.native.object? address = some ⟨1, .foreignSet (.object set)⟩

/-- Whether an owner is the last one of a set that has no attributes and is not told of its end. -/
structure IsLast (owner : SetOwner) (set : Nat) (world : World) : Prop where
  owns : owner.Owns set world
  unreferenced : (owner.without set world).isReferenced (.object set) = false
  quiet : (world.host.view (.object set)).finalized = true ∨
    world.host.scripted? (.object set) "__del__" = none
  bare : (world.host.view (.object set)).attributes = []

end SetOwner

/-- What was given up with a proxy is what it was over. -/
theorem World.dropNative_proxy {ref : Ref}
    (hObject : world.native.object? address = some ⟨1, .foreignSet ref⟩) :
    world.dropNative address =
      ([ref], World.emit .setReleased { world with native := (world.native.release address).2 }) := by
  have hPayload : (world.native.release address).1 = some (.foreignSet ref) := by
    rw [Native.Heap.release_fst hObject]
    rfl
  rw [dropNative]
  dsimp only
  rw [hPayload]
  rfl

/-- When a set is given up, its last owner lets go of it. -/
theorem SetOwner.drop_eq {owner : SetOwner} (hOwns : owner.Owns set world) :
    owner.drop set world = ((owner.without set world).release [.object set]).settle := by
  cases owner with
  | holder => rfl
  | proxy address =>
    have hDrop := World.dropNative_proxy hOwns
    rw [drop, World.releaseNative, without, hDrop]

namespace World

/-- An object that has one reference left is no one that a fresh handle points to. -/
theorem Wraps.object?_of_one {payload : Native.Payload} (hWraps : base.Wraps fresh world)
    (hObject : world.native.object? address = some ⟨1, payload⟩) :
    base.native.object? address = some ⟨1, payload⟩ ∧ ∀ entry ∈ fresh, entry.2.pointer ≠ .native address := by
  rw [hWraps.native.object?] at hObject
  obtain ⟨⟨count, old⟩, hOld, hSame⟩ := Option.map_eq_some_iff.mp hObject
  obtain ⟨hCount, rfl⟩ := Native.Object.mk.inj hSame
  have hNone : ∀ entry ∈ fresh, entry.2.pointer ≠ .native address := by
    intro entry hEntry hPointer
    have hRetains := hWraps.retains entry hEntry
    have hPositive := hRetains.retainCount_pos hPointer
    have hFirst := ownedBy_perm (List.perm_cons_erase hEntry) address
    rw [ownedBy_cons, hRetains.owns_eq hPointer, if_pos rfl] at hFirst
    rw [Native.Heap.retainCount_of_object? hOld] at hPositive
    dsimp only at hCount hPositive
    omega
  dsimp only at hCount
  rw [hWraps.ownedBy_eq_zero hNone, Nat.add_zero] at hCount
  exact ⟨hCount ▸ hOld, hNone⟩

/-- It may be given up on both sides. -/
theorem Wraps.releaseNative {payload : Native.Payload} (hWraps : base.Wraps fresh world)
    (hObject : world.native.object? address = some ⟨1, payload⟩) (log : List Event) :
    ({ base with native := (base.native.release address).2 } : World).Wraps fresh
      { world with native := (world.native.release address).2, log } := by
  obtain ⟨hOld, hNone⟩ := hWraps.object?_of_one hObject
  exact { hWraps with
    retains := by
      intro entry hEntry
      have hRetains := hWraps.retains entry hEntry
      obtain ⟨owned, hPointer, hPositive⟩ := hRetains.pointer
      have hOther : owned ≠ address := by
        rintro rfl
        exact hNone entry hEntry hPointer
      refine ⟨hRetains.counted, owned, hPointer, ?_⟩
      rwa [Native.Heap.retainCount, Native.Heap.object?_release hOld, if_neg hOther]
    native := by
      intro other
      dsimp only
      rw [Native.Heap.cell?_release hObject, Native.Heap.cell?_release hOld]
      by_cases hSame : other = address
      · rw [if_pos hSame, if_pos hSame]
        rfl
      · rw [if_neg hSame, if_neg hSame]
        exact hWraps.native other
    mentioned := by
      intro other hNew hMentions
      exact hWraps.mentioned other hNew ((Shrinks.releaseNative address base).mentions hMentions) }

/-- Nothing else was referred to by a proxy than what it is over. -/
theorem Mentions.releaseNative {ref other : Ref}
    (hObject : world.native.object? address = some ⟨1, .foreignSet ref⟩) (hOther : other ≠ ref)
    (hMentions : world.Mentions other) :
    Mentions { world with native := (world.native.release address).2 } other := by
  cases hMentions with
  | @proxy place object hFound hRef =>
    have hPlace : place ≠ address := by
      rintro rfl
      cases hObject.symm.trans hFound
      exact hOther (List.mem_singleton.mp hRef)
    have hStill : (world.native.release address).2.object? place = some object := by
      rw [Native.Heap.object?_release hObject, if_neg hPlace, hFound]
    exact .proxy hStill hRef
  | cursor number hRef => exact .cursor number hRef
  | converter hRef => exact .converter hRef
  | object hFound hRef => exact .object hFound hRef
  | script hScript hRef => exact .script hScript hRef

/-- An object that refers to nothing may be given up. -/
theorem Mentions.free {object : Object} {ref : Ref} (hObject : world.host.object? address = some object)
    (hNothing : object.references = []) (hMentions : world.Mentions ref) :
    Mentions { world with host := world.host.free address } ref := by
  cases hMentions with
  | proxy hFound hRef => exact .proxy hFound hRef
  | cursor number hRef => exact .cursor number hRef
  | converter hRef => exact .converter hRef
  | @object place found hFound hRef =>
    have hPlace : address ≠ place := by
      rintro rfl
      cases hObject.symm.trans hFound
      rw [hNothing] at hRef
      cases hRef
    exact .object ((Heap.object?_free_of_ne hPlace).trans hFound) hRef
  | script hScript hRef => exact .script hScript hRef

namespace Stocks

/-- Without the set the handles are still there. -/
theorem freed (hStocks : start.Stocks set table stored fresh world) (hAwaits : start.AwaitsKeys set) :
    ({ start with host := start.host.free set } : World).Wraps fresh
      { world with host := world.host.free set } := by
  obtain ⟨object, old, hObject, hBody, _, _⟩ := hAwaits.empty
  have hIn := Heap.lt_size_of_object? hObject
  have hSize := size_tabled hObject hBody table
  have hFree (heap : Heap) : (heap.free set).cells.size = heap.cells.size := by simp [Heap.free]
  have hWraps := hStocks.wraps
  exact {
    cursors := hWraps.cursors
    registry := hWraps.registry
    scripts := hWraps.scripts.trans (scripts_tabled hObject hBody table)
    size := by
      rw [hFree, hFree, ← hSize]
      exact hWraps.size
    old := by
      intro address hOld
      rw [hFree, ← hSize] at hOld
      by_cases hSet : set = address
      · rw [← hSet, Heap.object?_free_self, Heap.object?_free_self]
      · rw [Heap.object?_free_of_ne hSet, Heap.object?_free_of_ne hSet, hWraps.old address hOld,
          object?_tabled hObject hBody, if_neg (Ne.symm hSet)]
    new := by
      intro address found hNew
      rw [hFree] at hNew
      rw [Heap.object?_free_of_ne (by omega)]
      exact hWraps.new address found (hSize ▸ hNew)
    nodup := hWraps.nodup
    beyond := by
      rw [hFree, ← hSize]
      exact hWraps.beyond
    retains := hWraps.retains
    native := hWraps.native
    mentioned := by
      intro address hNew hMentions
      rw [hFree] at hNew
      have hOld := (Shrinks.free set start).mentions hMentions
      have hMade := hAwaits.made address (World.isReferenced_iff.mpr (.inr hOld))
      omega }

/-- When the set comes to its end, no handle is left where nothing else refers to one. -/
theorem retainCount_settle_release (hStocks : start.Stocks set table stored fresh world)
    (hAwaits : start.AwaitsKeys set) (hHost : world.host = base.host)
    (hQuiet : (base.host.view (.object set)).finalized = true ∨
      base.host.scripted? (.object set) "__del__" = none)
    (hFree : base.isReferenced (.object set) = false)
    (hRest : rest.Wraps fresh { base with host := base.host.free set }) (hSwept : rest.Swept)
    (hHeld : base.held.Perm rest.held) (hLess : ∀ ref, rest.isReferenced ref = true → start.isReferenced ref = true)
    (address : Nat) :
    (base.release [.object set]).settle.native.retainCount address = rest.native.retainCount address := by
  have hSet := hStocks.hasHandles hAwaits
  obtain ⟨object, hObject⟩ := Option.isSome_iff_exists.mp hSet.live
  have hBody : object.body = .set table := by rw [← hSet.body, Heap.body, Heap.view_of_object? hObject]
  rw [hHost] at hObject
  rw [Heap.view_of_object? hObject] at hQuiet
  obtain ⟨left, hLeft, hWraps, hReferenced⟩ :=
    Wraps.settle_release hObject (by rw [hBody]; rfl) hQuiet hFree hRest hSwept hHeld
  -- What is left was referred to from the start, but was not made then.
  have hNone : left = [] := by
    apply List.eq_nil_iff_forall_not_mem.mpr
    intro entry hEntry
    have hMade := hAwaits.made entry.1 (hLess _ (hReferenced entry hEntry))
    have hNew := hStocks.wraps.beyond entry (hLeft hEntry)
    obtain ⟨first, old, hFirst, hEmpty, _⟩ := hAwaits.empty
    rw [size_tabled hFirst hEmpty] at hNew
    omega
  subst hNone
  exact hWraps.retainCount address

end Stocks

end World

/-- With the last owner of the set all references that the handles own are given back. -/
theorem SetOwner.IsLast.retainCount_drop {owner : SetOwner} (hLast : owner.IsLast set world)
    (hHas : start.HasKeys set present [] world) (hAwaits : start.AwaitsKeys set)
    (hOther : owner ≠ .proxy address) :
    (owner.drop set world).native.retainCount address = start.native.retainCount address := by
  obtain ⟨⟨table, stored, fresh, hStocks, rfl⟩, _, hHeld⟩ := hHas
  obtain ⟨object, old, hObject, hBody, _, hEmpty⟩ := hAwaits.empty
  have hNothing : object.references = [] := by
    have hIn : set < (start.tabled set table).host.cells.size := by
      rw [World.size_tabled hObject hBody]
      exact Heap.lt_size_of_object? hObject
    have hThere := hStocks.wraps.old set hIn
    rw [World.object?_tabled hObject hBody, if_pos rfl] at hThere
    have hBare := hLast.bare
    rw [Heap.view_of_object? hThere] at hBare
    rw [Object.references, hBody, hBare]
    simp [Host.Body.references, SetTable.toList, hEmpty]
  -- But for the set all that lives without the owner is still referred to.
  have hLess (live : Nat) (hLive : (start.host.free set).isLive (.object live) = true) :
      Ref.object live ≠ .object set ∧ (.object live ∈ start.held ∨
        World.Mentions { start with host := start.host.free set } (.object live)) := by
    have hSet : set ≠ live := by
      rintro rfl
      rw [Heap.isLive, Heap.object?_free_self] at hLive
      cases hLive
    rw [Heap.isLive, Heap.object?_free_of_ne hSet] at hLive
    refine ⟨fun hSame => hSet (Ref.object.inj hSame).symm, ?_⟩
    exact (World.isReferenced_iff.mp (hAwaits.swept live hLive)).imp_right (.free hObject hNothing)
  have hFreed := hStocks.freed hAwaits
  rw [drop_eq hLast.owns]
  cases owner with
  | holder =>
    let rest : World := { start with host := start.host.free set, held := start.held.erase (.object set) }
    have hSwept : rest.Swept := by
      intro live hLive
      obtain ⟨hSet, hReferenced⟩ := hLess live hLive
      refine World.isReferenced_iff.mpr (hReferenced.imp ?_ ?_)
      · exact (List.mem_erase_of_ne hSet).mpr
      · have hSame : rest.Shrinks { start with host := start.host.free set } := .aside rfl rfl rfl rfl
        exact hSame.mentions
    have hShrinks : start.Shrinks rest := (World.Shrinks.free set start).trans (.aside rfl rfl rfl rfl)
    have hHost : world.host = (without set .holder world).host := rfl
    have hRest := (hFreed.of_base_held (start.held.erase (.object set))).of_held (world.held.erase (.object set))
    apply hStocks.retainCount_settle_release hAwaits hHost hLast.quiet hLast.unreferenced hRest hSwept
      (hHeld.erase _)
    intro ref hReferenced
    exact World.isReferenced_iff.mpr ((World.isReferenced_iff.mp hReferenced).imp List.mem_of_mem_erase
      hShrinks.mentions)
  | proxy proxy =>
    have hOwns : world.native.object? proxy = some ⟨1, .foreignSet (.object set)⟩ := hLast.owns
    have hOld := (hFreed.object?_of_one hOwns).1
    let rest : World :=
      { start with host := start.host.free set, native := (start.native.release proxy).2 }
    have hSwept : rest.Swept := by
      intro live hLive
      obtain ⟨hSet, hReferenced⟩ := hLess live hLive
      exact World.isReferenced_iff.mpr (hReferenced.imp_right (.releaseNative hOld hSet))
    have hShrinks : start.Shrinks rest := (World.Shrinks.free set start).trans (.releaseNative proxy _)
    have hDrop := World.dropNative_proxy hOwns
    have hFree := hLast.unreferenced
    rw [without, hDrop] at hFree ⊢
    have hCount : rest.native.retainCount address = start.native.retainCount address := by
      have hPlace : address ≠ proxy := fun hSame => hOther (hSame ▸ rfl)
      rw [Native.Heap.retainCount, Native.Heap.object?_release hOld, if_neg hPlace]
      rfl
    rw [← hCount]
    have hHost : world.host =
        (World.emit .setReleased { world with native := (world.native.release proxy).2 }).host := rfl
    have hRest := hFreed.releaseNative hOwns (world.log ++ [.setReleased])
    apply hStocks.retainCount_settle_release hAwaits hHost hLast.quiet hFree hRest hSwept hHeld
    intro ref hReferenced
    exact World.isReferenced_iff.mpr ((World.isReferenced_iff.mp hReferenced).imp_right hShrinks.mentions)

namespace KeyStep

/-- The world that a run of steps comes to. -/
def ended (set : Nat) (steps : List KeyStep) (start : World) : World := (runAll (.object set) steps start).2

def keys (steps : List KeyStep) : Finset Key := (SetOperation.answersOn ∅ (steps.map operation)).2

/-- What a run of steps on a set comes to. -/
structure Balances (start : World) (set : Nat) (steps : List KeyStep) : Prop where
  /-- Each call is answered as one set of keys has it, -/
  answers : (runAll (.object set) steps start).1 = List.zipWith (fun step answer => step.call.reply answer)
    steps (SetOperation.answersOn ∅ (steps.map operation)).1
  /-- and each native object has the references it had at first, and one for each key with its address. -/
  counts : ∀ address, (ended set steps start).native.retainCount address =
    start.native.retainCount address + ((keys steps).filter (·.address = address)).card
  /-- A step that adds no key and removes none changes no reference count. -/
  idle : ∀ step : KeyStep, step.Fits start set →
    step.operation.keysAfter (keys steps) = keys steps → ∀ address,
      (step.run (.object set) (ended set steps start)).2.native.retainCount address =
        (ended set steps start).native.retainCount address
  /-- When all keys are removed all references are given back, -/
  emptied : ∀ step : KeyStep, step.Fits start set → step.operation = .removeAll → ∀ address,
    (step.run (.object set) (ended set steps start)).2.native.retainCount address =
      start.native.retainCount address
  /-- and so they are when the last owner of the set lets go of it. -/
  destroyed : ∀ owner : SetOwner, owner.IsLast set (ended set steps start) → ∀ address,
    owner ≠ .proxy address →
      (owner.drop set (ended set steps start)).native.retainCount address = start.native.retainCount address

/-- Handles are kept as keys without a reference too many or too few: whoever makes the calls, in whatever
order, a set that was empty at first holds one handle for each type and address that was added and not removed
since, and just these handles own references. -/
theorem balances_runAll (hAwaits : start.AwaitsKeys set) (hFits : ∀ step ∈ steps, step.Fits start set) :
    Balances start set steps := by
  obtain ⟨first, hFirst⟩ := hAwaits.exists_stocks
  have hNone : start.HasKeys set ∅ [] start := ⟨hFirst.keyed, hAwaits.swept, .refl _⟩
  obtain ⟨hAnswers, hLast⟩ := runAll_keys hAwaits hFits hNone
  have hEnded : start.HasKeys set (keys steps) [] (ended set steps start) := hLast
  have hCounts := hEnded.retainCount hAwaits
  refine ⟨hAnswers, hCounts, ?_, ?_, ?_⟩
  · intro step hStep hIdle address
    have hAfter := (run_keys hAwaits hStep hEnded).2.retainCount hAwaits address
    rw [hIdle] at hAfter
    exact hAfter.trans (hCounts address).symm
  · intro step hStep hAll address
    have hAfter := (run_keys hAwaits hStep hEnded).2.retainCount hAwaits address
    rw [hAll] at hAfter
    exact hAfter
  · intro owner hOwner address hOther
    exact hOwner.retainCount_drop hEnded hAwaits hOther

/-- An empty set with one proxy, a native object, and two types that it crosses as. -/
def oneObject : World where
  host := { cells := #[some { body := .set .empty }] }
  native := { cells := #[some (.live ⟨1, .foreignSet (.object 0)⟩), some (.live ⟨1, .tracked "a"⟩)] }
  registry := { wrappers := [.owning "T" "Counted" .nativeObject, .framework "CFDataRef"] }

/-- The object is added twice as one type and once as the other one, and removed as the first one. -/
def twoTypes : List KeyStep :=
  [⟨.native 0 (.add .nil), ⟨"T", 1⟩⟩, ⟨.exported 0 0 (.add .nil), ⟨"T", 1⟩⟩, ⟨.host (.add .nil), ⟨"CFDataRef", 1⟩⟩,
    ⟨.exported 0 0 .count, ⟨"", 0⟩⟩, ⟨.native 0 (.remove .nil), ⟨"T", 1⟩⟩, ⟨.host (.contains .nil), ⟨"T", 1⟩⟩]

theorem awaitsKeys_oneObject : oneObject.AwaitsKeys 0 where
  swept := by
    intro address hLive
    by_contra hFree
    have hNone : oneObject.unreferenced = [] := by decide +kernel
    have hThere : Ref.object address ∈ oneObject.unreferenced :=
      World.mem_unreferenced.mpr ⟨address, rfl, by simp [Host.isAbandoned, hLive, hFree]⟩
    rw [hNone] at hThere
    cases hThere
  made := by
    intro address hReferenced
    have hOnly : oneObject.references = [.object 0] := by decide +kernel
    rw [World.isReferenced_eq, List.contains_iff_mem, hOnly] at hReferenced
    cases List.mem_singleton.mp hReferenced
    decide
  leaves := by
    have hBuiltin : oneObject.host.IsBuiltin (.object 0) := ⟨rfl, rfl, rfl⟩
    exact hBuiltin.leavesToSets rfl
  empty := ⟨_, _, rfl, rfl, SetTable.sound_empty, SetTable.entries_empty⟩

/-- The proxy is the last owner of the set. -/
theorem balances_runAll_twoTypes : oneObject.AwaitsKeys 0 ∧ (∀ step ∈ twoTypes, step.Fits oneObject 0) ∧
    (SetOwner.proxy 0).IsLast 0 (ended 0 [] oneObject) ∧ Balances oneObject 0 twoTypes := by
  have hT : (Key.mk "T" 1).Crosses oneObject :=
    ⟨⟨_, _, _, rfl, .owning "Counted" .nativeObject, .inl rfl⟩, by decide, rfl⟩
  have hData : (Key.mk "CFDataRef" 1).Crosses oneObject :=
    ⟨⟨_, _, _, rfl, .framework, .inr rfl⟩, by decide, rfl⟩
  have hFits : ∀ step ∈ twoTypes, step.Fits oneObject 0 := by
    intro step hStep
    simp only [twoTypes, List.mem_cons, List.not_mem_nil, or_false] at hStep
    constructor
    · intro proxy hProxy
      rcases hStep with rfl | rfl | rfl | rfl | rfl | rfl <;> cases hProxy <;> rfl
    · intro key hKey
      rcases hStep with rfl | rfl | rfl | rfl | rfl | rfl <;> cases hKey <;> assumption
  exact ⟨awaitsKeys_oneObject, hFits, ⟨rfl, by decide +kernel, .inr rfl, rfl⟩,
    balances_runAll awaitsKeys_oneObject hFits⟩

end KeyStep

end HeapBridge
