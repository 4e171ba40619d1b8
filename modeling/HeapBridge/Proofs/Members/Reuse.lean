import HeapBridge.Proofs.Ownership.Operations
import HeapBridge.Proofs.Members.Agreement
import HeapBridge.Proofs.Members.Iterators
/-!
Elements as keys. What a set hands out is the native form of an element. Where that regains an element the set
contains it, and is smaller by one without it; where this is so of all elements, and each regains itself, a set is
empty after as many rounds as it has elements of a loop that takes some element and removes it.
-/
namespace HeapBridge

open Host (Body Fault Heap HostM Object Ref SetTable)

variable {scene : Scene} {world before middle later after : World} {proxy number : Nat} {set ref found : Ref}
  {table left : SetTable} {value : NativeValue} {values : List NativeValue} {hash : Int}
  {holdings others : Multiset Holding} {may : Deed → Prop}

namespace Scene

/-! What is regained stays the same. -/

/-- Whether an element is regained depends on where it comes from and on its scalar value. -/
theorem regained_congr (hOrigin : scene.origin after ref = scene.origin before ref)
    (hScalar : (after.host.body ref).scalar? = (before.host.body ref).scalar?) :
    scene.regained after ref = scene.regained before ref := by
  cases hValue : (before.host.body ref).scalar? with
  | none => rw [regained_of_not_scalar hValue, regained_of_not_scalar (hScalar.trans hValue), hOrigin]
  | some value =>
    have hBody : after.host.body ref = before.host.body ref := Option.some.inj
      ((NativeValue.body?_of_scalar? (hScalar.trans hValue)).symm.trans (NativeValue.body?_of_scalar? hValue))
    rw [regained_of_scalar hValue, regained_of_scalar (hScalar.trans hValue), hBody]

/-- An element that is regained is regained where the world has but grown. -/
theorem Regains.grows (hRegains : scene.Regains before table ref hash found) (hGrows : before.Grows after) :
    scene.Regains after table ref hash found := by
  have hOrigin : scene.origin after = scene.origin before := origin_grows hGrows
  have hSame : scene.regained after ref = scene.regained before ref :=
    regained_congr (congrFun hOrigin ref) (by rw [hGrows.body_eq])
  have hVerdict (other : Ref) : (scene.regained after ref).verdict scene after other =
      (scene.regained before ref).verdict scene before other := by
    rw [hSame, Regained.verdict, Regained.verdict, hOrigin]
  refine ⟨hSame ▸ hRegains.items, hSame ▸ hRegains.hashed, hRegains.entry, ?_, fun other hOther => ?_⟩
  · rw [hVerdict]
    exact hRegains.same
  · rw [hVerdict]
    exact hRegains.compared other hOther

/-- The elements that are left are regained when others were taken out. -/
theorem RegainsAll.retables (hAll : scene.RegainsAll before table) (hOpens : scene.Opens) (hSet : set ∈ scene.sets)
    (hBefore : scene.Contains before set table) (hAfter : scene.Contains after set left)
    (hKeeps : scene.Keeps {set} before after) (hLeft : left.entries ⊆ table.entries) : scene.RegainsAll after left := by
  have hOrigin {ref : Ref} (hRef : ref ∈ left.toList) : scene.origin after ref = scene.origin before ref := by
    obtain ⟨entry, hEntry, rfl⟩ := List.mem_map.mp hRef
    exact hKeeps.origin_eq hOpens hSet (hBefore.concerns _ (List.mem_map_of_mem (hLeft hEntry))).live
      (hAfter.concerns _ hRef).live
  have hScalar {ref : Ref} (hRef : ref ∈ left.toList) :
      (after.host.body ref).scalar? = (before.host.body ref).scalar? := by
    by_cases hSame : ref = set
    · obtain ⟨first, hFirst⟩ := hBefore.follows.exists_table hSet hBefore.live
      obtain ⟨second, hSecond⟩ := hAfter.follows.exists_table hSet hAfter.live
      rw [hSame, hFirst, hSecond]
      rfl
    · obtain ⟨entry, hEntry, rfl⟩ := List.mem_map.mp hRef
      have hView := hKeeps.leaves.view_eq hSame (hBefore.concerns _ (List.mem_map_of_mem (hLeft hEntry))).live
        (hAfter.concerns _ hRef).live
      rw [Heap.body, Heap.body, hView]
  intro hash ref hEntry
  have hRef {other : Ref} (hOther : (hash, other) ∈ left.entries) : other ∈ left.toList :=
    List.mem_map_of_mem (f := Prod.snd) hOther
  have hRegains := hAll hash ref (hLeft hEntry)
  have hSame := regained_congr (hOrigin (hRef hEntry)) (hScalar (hRef hEntry))
  have hVerdict {other : Ref} (hOther : (hash, other) ∈ left.entries) :
      (scene.regained after ref).verdict scene after other = (scene.regained before ref).verdict scene before other := by
    rw [hSame, Regained.verdict, Regained.verdict, hOrigin (hRef hOther)]
  refine ⟨hSame ▸ hRegains.items, hSame ▸ hRegains.hashed, hEntry, ?_, fun other hOther => ?_⟩
  · rw [hVerdict hEntry]
    exact hRegains.same
  · rw [hVerdict hOther]
    exact hRegains.compared other (hLeft hOther)

end Scene

namespace ForeignSet

/-- Whether a value is the native form of an element, and serves as a key wherever it regains one: the set contains
it, and has one element less when it is removed then. -/
def IsKey (scene : Scene) (set : Ref) (table : SetTable) (world : World) (value : NativeValue) : Prop :=
  ∃ ref ∈ table.toList, value.StandsFor world ref ∧
    ∀ hash found, scene.Regains world table ref hash found →
      ∃ asked removed, (contains set value).run.run world = (.ok true, asked) ∧
        (remove set value).run.run asked = (.ok (), removed) ∧ 0 < table.size ∧
          (count set).run.run removed = (.ok (table.size - 1), removed)

/-- The loop that takes some element and removes it until there is none, by the number of its rounds. -/
inductive Drains (set : Ref) : World → Nat → World → Prop where
  | done {before after : World} (hNone : (anyElement set).run.run before = (.ok none, after)) : Drains set before 0 after
  | round {before middle later after : World} {value : NativeValue} {rounds : Nat}
    (hSome : (anyElement set).run.run before = (.ok (some value), middle))
    (hRemove : (remove set value).run.run middle = (.ok (), later))
    (hRest : Drains set (value.drop later) rounds after) : Drains set before (rounds + 1) after

end ForeignSet

namespace Scene

namespace Uses

section Opens

variable (hOpens : scene.Opens) (hSet : set ∈ scene.sets) (hGoverns : scene.Governs)

include hOpens hSet hGoverns

/-- An element that is handed out is found again and can be taken out. -/
theorem isKey (hUses : scene.Uses holdings proxy set table world) (hSound : table.Sound) (hOwned : .reference proxy ∈ holdings)
    (hRef : ref ∈ table.toList) (hStands : value.StandsFor world ref) : ForeignSet.IsKey scene set table world value := by
  refine ⟨ref, hRef, hStands, fun hash found hRegains => ?_⟩
  obtain ⟨asked, hAsked⟩ := hUses.exists_contains hOpens hSet hGoverns hSound hRef hStands hRegains
  have hMoves := (ForeignSet.neutral_contains set value (fun _ => True) (.ofNative holdings) world).moves_of_run hAsked.run
  rw [onSuccess_zero, Prod.fst_zero, zero_add] at hMoves
  have hAfter := hUses.grows hAsked.grows hMoves
  obtain ⟨removed, entry, left, hRemoved, hPerm, _, _, hLeft⟩ := hAfter.exists_remove hOpens hSet hGoverns hSound hRef hOwned
    (hStands.grows hAsked.grows) (hRegains.grows hAsked.grows)
  have hSize := hPerm.length_eq
  rw [List.length_cons, SetTable.length_entries, SetTable.length_entries] at hSize
  refine ⟨asked, removed, hAsked.run, hRemoved, by omega, ?_⟩
  rw [hLeft.run_count hOpens hSet]
  congr 2
  omega

omit hGoverns in
/-- Some element is handed out if there is one. -/
theorem exists_anyElement (hUses : scene.Uses holdings proxy set table world) :
    ∃ told after, BridgeM.Yields (ForeignSet.anyElement set) world (.ok told) after ∧
      scene.Uses ((valueEstate told).1 + holdings) proxy set table after ∧
        match table.toList with
        | [] => told = none
        | ref :: _ => ∃ value, told = some value ∧ value.StandsFor after ref := by
  obtain ⟨told, after, hYields, hTold⟩ :=
    hUses.contains.exists_anyElement hOpens hUses.mentions (hUses.isPlain hOpens hSet)
  have hTransfers : Transfers (fun _ => True) (.ofNative holdings) world 0 (ForeignSet.anyElement set) valueEstate :=
    ForeignSet.transfers_anyElement set
  have hMoves := hTransfers.moves_of_run hYields.run
  exact ⟨told, after, hYields, hUses.grows hYields.grows hMoves, hTold⟩

omit hSet in
/-- A value that is given up leaves the set as it is. -/
theorem drop (hSet : set ∈ scene.sets) (hUses : scene.Uses (value.holdings + holdings) proxy set table world)
    (hOwned : .reference proxy ∈ holdings) (hLive : ∀ ref, value = .host ref → world.host.isLive ref = true) :
    scene.Uses holdings proxy set table (value.drop world) ∧ scene.Keeps {set} world (value.drop world) := by
  have hKeeps : scene.Keeps ∅ world (value.drop world) := by
    cases value with
    | set address => exact hUses.contains.follows.keeps_releaseNative hGoverns address
    | host ref => exact (hUses.contains.follows.keeps_giveBack hGoverns (hLive ref rfl)).1
    | _ => exact .refl hUses.contains.follows
  have hSame : scene.Retables set table world world := ⟨.refl hUses.contains.follows, fun _ => hUses.body⟩
  have hRetables := hSame.trans hOpens hSet hKeeps
  have hMoves : Moves (fun _ => True) ⟨value.holdings + holdings, world⟩ ⟨holdings, value.drop world⟩ :=
    (@NativeValue.steps_drop _ (.ofNative holdings) value world).moves
  exact ⟨hUses.retables hOpens hSet hRetables hMoves hOwned (List.Subset.refl _), hRetables.keeps⟩

/-- One round of the loop takes an element out. -/
theorem exists_round (hUses : scene.Uses holdings proxy set table world) (hSound : table.Sound)
    (hOwned : .reference proxy ∈ holdings) (hAll : scene.RegainsAll world table) (hSize : table.size ≠ 0) :
    ∃ value middle later left, (ForeignSet.anyElement set).run.run world = (.ok (some value), middle) ∧
      (ForeignSet.remove set value).run.run middle = (.ok (), later) ∧ left.size + 1 = table.size ∧ left.Sound ∧
        scene.Uses holdings proxy set left (value.drop later) ∧ scene.RegainsAll (value.drop later) left := by
  obtain ⟨told, middle, hYields, hMiddle, hTold⟩ := hUses.exists_anyElement hOpens hSet
  cases hList : table.toList with
  | nil =>
    rw [← SetTable.length_toList, hList] at hSize
    exact absurd rfl hSize
  | cons ref rest =>
    rw [hList] at hTold
    obtain ⟨value, rfl, hStands⟩ := hTold
    have hRef : ref ∈ table.toList := hList ▸ List.mem_cons_self
    obtain ⟨⟨hash, _⟩, hEntry, rfl⟩ := List.mem_map.mp hRef
    have hBoth : .reference proxy ∈ value.holdings + holdings := Multiset.mem_add.mpr (.inr hOwned)
    obtain ⟨later, entry, left, hRemove, hPerm, hLeftSound, hRetables, hLater⟩ := hMiddle.exists_remove hOpens hSet hGoverns
      hSound hRef hBoth hStands ((hAll hash _ hEntry).grows hYields.grows)
    have hHeld : ∀ other, value = .host other → later.host.isLive other = true := by
      rintro other rfl
      refine hLater.contains.follows.isLive_of_held ?_
      have hAny : Transfers (fun _ => True) (.ofHost world.held) world 0 (ForeignSet.anyElement set) valueEstate :=
        ForeignSet.transfers_anyElement set
      have hTaken := hAny.held (zero_add _).symm
      rw [hYields.run] at hTaken
      have hKept := (ForeignSet.neutral_remove set (.host other) (fun _ => True) (.ofHost middle.held) middle).held
        (zero_add _).symm
      rw [hRemove] at hKept
      have hThere : other ∈ (later.held : Multiset Ref) := by
        have hOther : other ∈ (middle.held : Multiset Ref) :=
          hTaken ▸ Multiset.mem_add.mpr (.inl (Multiset.mem_singleton_self other))
        exact hKept ▸ Multiset.mem_add.mpr (.inr hOther)
      exact hThere
    obtain ⟨hDropped, hKeeps⟩ := hLater.drop hOpens hGoverns hSet hOwned hHeld
    have hSizes := hPerm.length_eq
    rw [List.length_cons, SetTable.length_entries, SetTable.length_entries] at hSizes
    have hLeft : left.entries ⊆ table.entries := fun other hOther =>
      hPerm.mem_iff.mpr (List.mem_cons_of_mem _ hOther)
    have hMiddleAll : scene.RegainsAll middle table := fun hash ref hEntry => (hAll hash ref hEntry).grows hYields.grows
    exact ⟨value, middle, later, left, hYields.run, hRemove, hSizes.symm, hLeftSound, hDropped,
      hMiddleAll.retables hOpens hSet hMiddle.contains hDropped.contains (hRetables.keeps.trans hKeeps) hLeft⟩

/-- The loop ends after as many rounds as there are elements, and then there are none. -/
theorem exists_drains (hUses : scene.Uses holdings proxy set table world) (hSound : table.Sound)
    (hOwned : .reference proxy ∈ holdings) (hAll : scene.RegainsAll world table) :
    ∃ after, ForeignSet.Drains set world table.size after ∧ (ForeignSet.count set).run.run after = (.ok 0, after) := by
  induction hSize : table.size generalizing table world with
  | zero =>
    obtain ⟨told, after, hYields, hAfter, hTold⟩ := hUses.exists_anyElement hOpens hSet
    rw [List.length_eq_zero_iff.mp ((SetTable.length_toList table).trans hSize)] at hTold
    obtain rfl := hTold
    exact ⟨after, .done hYields.run, hSize ▸ hAfter.run_count hOpens hSet⟩
  | succ size ih =>
    obtain ⟨value, middle, later, left, hSome, hRemove, hLeft, hLeftSound, hLater, hRest⟩ :=
      hUses.exists_round hOpens hSet hGoverns hSound hOwned hAll (by omega)
    obtain ⟨after, hDrains, hCount⟩ := ih hLater hLeftSound hRest (by omega)
    exact ⟨after, .round hSome hRemove hDrains, hCount⟩

/-- What is told of a member is the native form of an element, too. -/
theorem exists_stands_of_member {item : NativeValue} (hUses : scene.Uses holdings proxy set table world)
    (hItem : scene.Presents world item ∨ scene.IsOdd item)
    (hRun : (ForeignSet.member set item).run.run world = (.ok (some value), after)) :
    scene.Uses (value.holdings + holdings) proxy set table after ∧ ∃ ref ∈ table.toList, value.StandsFor after ref := by
  have hContains := hUses.contains
  have hPlain := hUses.isPlain hOpens hSet
  have hTransfers : Transfers (fun _ => True) (.ofNative holdings) world 0 (ForeignSet.member set item) valueEstate :=
    ForeignSet.transfers_member set item
  have hMoves := hTransfers.moves_of_run hRun
  have hSilent {told : Except BridgeError (Option NativeValue)} {last : World}
      (hYields : BridgeM.Yields (ForeignSet.member set item) world told last) (hTold : told ≠ .ok (some value)) :
      False := hTold (Prod.ext_iff.mp (hYields.run.symm.trans hRun)).1
  rcases hItem with hPresents | hOdd
  · have hSees := hContains.sees hGoverns hOpens hPlain hPresents
    obtain ⟨hOwned, hLive, hItems⟩ := hPresents
    cases hLookup : scene.lookup world table item with
    | error fault =>
      rw [hLookup] at hSees
      obtain ⟨last, hYields⟩ := hContains.exists_member_error hOpens hOwned hLive hSees
      exact (hSilent hYields nofun).elim
    | ok answer =>
      rw [hLookup] at hSees
      cases answer with
      | false =>
        obtain ⟨last, hYields⟩ := hContains.exists_member_absent hOpens hOwned hLive hSees
        exact (hSilent hYields nofun).elim
      | true =>
        obtain ⟨told, last, hYields, hTells⟩ := hContains.exists_member_present hOpens hOwned hLive hGoverns hPlain
          hUses.mentions hItems hSees
        obtain ⟨rfl, rfl⟩ := Prod.mk.inj (hYields.run.symm.trans hRun)
        refine ⟨hUses.grows hYields.grows hMoves, ?_⟩
        generalize hFound : scene.firstEqual (item.crossed world).2 (item.crossed world).1 table.toList = found at hTells
        cases hTells with
        | found hStands => exact ⟨_, mem_of_firstEqual hFound, hStands⟩
  · have hSees := hContains.sees_odd hOpens hGoverns hPlain hOdd
    obtain ⟨body, hBody, _⟩ := hOdd
    have hOwned : item.IsOwned world := by
      constructor <;> rintro _ rfl <;> cases hBody
    obtain ⟨last, hYields⟩ := hContains.exists_member_absent hOpens hOwned
      (hContains.follows.makes_crossed hOpens hBody).live hSees
    exact (hSilent hYields nofun).elim

end Opens

end Uses

end Scene

namespace ForeignSet

/-- Elements that are handed out can be used as keys again. In a scene, where comparing changes nothing, a set is
used through a proxy that native code owns: some element is handed out unless there is none, and an iterator never
fails; what is handed out, or found as a member, is the native form of an element, and a key if it regains one. If
each element is regained by its own native form, the loop that takes some element and removes it ends after as many
rounds as there are elements. -/
theorem elements_reused {scene : Scene} {holdings : Multiset Holding} {proxy : Nat} {set : Ref} {table : SetTable}
    {world : World} (hGoverns : scene.Governs) (hOpens : scene.Opens) (hSet : set ∈ scene.sets)
    (hUses : scene.Uses holdings proxy set table world) (hSound : table.Sound) (hOwned : .reference proxy ∈ holdings) :
    (count set).run.run world = (.ok table.size, world) ∧
    (∃ told after, (anyElement set).run.run world = (.ok told, after) ∧ (told = none ↔ table.size = 0) ∧
      ∀ value ∈ told, IsKey scene set table after value) ∧
    (∀ item value after, scene.Presents world item ∨ scene.IsOdd item →
      (member set item).run.run world = (.ok (some value), after) → IsKey scene set table after value) ∧
    (∃ number started, (iterate set).run.run world = (.ok number, started) ∧
      ∀ values last, HandsOut number started values last → (∀ value ∈ values, IsKey scene set table last value) ∧
        ∃ told after, (nextValue number).run.run last = (.ok told, after) ∧
          (told = none ↔ values.length = table.size)) ∧
    (scene.RegainsAll world table →
      ∃ after, Drains set world table.size after ∧ (count set).run.run after = (.ok 0, after)) := by
  have hBoth (others : Multiset Holding) : .reference proxy ∈ others + holdings := Multiset.mem_add.mpr (.inr hOwned)
  refine ⟨hUses.run_count hOpens hSet, ?anyElement, ?member, ?iterate, hUses.exists_drains hOpens hSet hGoverns hSound hOwned⟩
  case anyElement =>
    obtain ⟨told, after, hYields, hAfter, hTold⟩ := hUses.exists_anyElement hOpens hSet
    refine ⟨told, after, hYields.run, ?_⟩
    rw [← SetTable.length_toList]
    cases hList : table.toList with
    | nil =>
      rw [hList] at hTold
      subst hTold
      exact ⟨iff_of_true rfl rfl, nofun⟩
    | cons ref rest =>
      rw [hList] at hTold
      obtain ⟨value, rfl, hStands⟩ := hTold
      refine ⟨iff_of_false nofun nofun, fun other hOther => ?_⟩
      cases hOther
      exact hAfter.isKey hOpens hSet hGoverns hSound (hBoth _) (hList ▸ List.mem_cons_self) hStands
  case member =>
    intro item value after hItem hRun
    obtain ⟨hAfter, ref, hRef, hStands⟩ := hUses.exists_stands_of_member hOpens hSet hGoverns hItem hRun
    exact hAfter.isKey hOpens hSet hGoverns hSound (hBoth _) hRef hStands
  case iterate =>
    obtain ⟨number, started, hRun, hPasses⟩ := hUses.exists_iterate hOpens hSet
    refine ⟨number, started, hRun, fun values last hHands => ?_⟩
    obtain ⟨others, rest, hLast, hLength, hValues, _⟩ := hPasses.handsOut hSet (List.Subset.refl _) hHands
    refine ⟨fun value hValue => ?_, ?_⟩
    · obtain ⟨ref, hRef, hStands⟩ := hValues value hValue
      exact hLast.uses.isKey hOpens hSet hGoverns hSound (hBoth others) hRef hStands
    · obtain ⟨told, after, hNext, hTold⟩ := hLast.exists_nextValue hSet
      refine ⟨told, after, hNext, ?_⟩
      rw [← SetTable.length_toList, ← hLength]
      cases rest with
      | nil => exact iff_of_true hTold rfl
      | cons ref rest =>
        obtain ⟨value, rfl, _⟩ := hTold
        exact iff_of_false nofun fun hSame => by rw [List.length_cons] at hSame; omega

/-- A proxy of a set with small and large numbers. -/
def numbers : List Command := [.set (.create "s" (.set [.int 2, .int 300, .float 0x3ff8000000000000]))]

/-- The loop takes out all three, of which two cross back as other objects. -/
theorem elements_reused_numbers :
    let session := (Session.performAll numbers {}).2
    let scene := Scene.scalars session.world {.object 2}
    ∃ table, (scene.Governs ∧ scene.Opens ∧ .object 2 ∈ scene.sets ∧
      scene.Uses session.holdings 0 (.object 2) table session.world ∧ table.Sound ∧ .reference 0 ∈ session.holdings) ∧
      table.size = 3 ∧ ∃ after, Drains (.object 2) session.world table.size after ∧
        (count (.object 2)).run.run after = (.ok 0, after) := by
  have hBalanced : (Session.performAll numbers {}).2.account.Balanced :=
    Session.balanced_performAll (by decide +kernel) Session.balanced_empty
  have hCollects : (Session.performAll numbers {}).2.world.CollectsScalars (.object 2) := by decide +kernel
  have hBacking : (Session.performAll numbers {}).2.world.native.backing? 0 = some (.object 2) := by decide +kernel
  have hCount : 0 < (Session.performAll numbers {}).2.holdings.count (.reference 0) := by decide +kernel
  have hTable : ∀ table ∈ ((Session.performAll numbers {}).2.world.host.body (.object 2)).elements?,
      table.size = 3 ∧ table.IsDirect 3 ∧ ∀ entry ∈ table.entries,
        ((Session.performAll numbers {}).2.world.host.body entry.2).scalarHash entry.2 = entry.1 ∧
          (entry.2.isObject = true → ((Session.performAll numbers {}).2.world.host.body entry.2).isValued = true) := by
    decide +kernel
  generalize (Session.performAll numbers {}).2 = session at hBalanced hCollects hBacking hCount hTable
  have hOwned : .reference 0 ∈ session.holdings := Multiset.count_pos.mp hCount
  obtain ⟨table, hBody⟩ := hCollects.exists_table
  obtain ⟨hSize, hDirect, hEntries⟩ := hTable table (by rw [hBody]; rfl)
  have hUses : (Scene.scalars session.world {.object 2}).Uses session.holdings 0 (.object 2) table session.world :=
    ⟨hCollects.contains hBody, hBody, hBalanced, hBacking⟩
  have hAll : (Scene.scalars session.world {.object 2}).RegainsAll session.world table := fun hash ref hEntry =>
    hCollects.regains hBody hEntry (hEntries _ hEntry).1 (hEntries _ hEntry).2
  obtain ⟨_, _, _, _, hDrains⟩ :=
    elements_reused hCollects.governs hCollects.opens (Set.mem_singleton _) hUses hDirect.sound hOwned
  exact ⟨table, ⟨hCollects.governs, hCollects.opens, Set.mem_singleton _, hUses, hDirect.sound, hOwned⟩, hSize,
    hDrains hAll⟩

/-- Sets of which what is handed out is not a key: one of a float that is no number, one of an integer that has a
hash of its own, one of a class that denies its elements, one of a class that denies how many it has, and one of
which an element takes all out when it is compared. -/
def unusable : List Command :=
  [.set (.create "p" (.set [.float 0x7ff8000000000000])),
    .set (.create "q" (.set [.scripted "I" .int (some (.int 5)) [("__hash__", .give (.int 9))]])),
    .set (.create "r" (.scripted "C" .set (some (.set [.int 1])) [("__contains__", .give (.bool false))])),
    .set (.create "s" (.scripted "L" .set (some (.set [.int 1])) [("__len__", .give (.int 0))])),
    .host (.bind "h" (.set [])),
    .host (.bind "b" (.scripted "B" .plain none
      [("__hash__", .give (.int 7)), ("__eq__", .call "h" "clear" [] (.bool false))])),
    .host (.bind "a" (.scripted "A" .plain none [("__hash__", .give (.int 7))])),
    .host (.bind "g" (.set [.slot "b", .slot "a"])),
    .host (.call "h" "update" [.slot "g"] none), .set (.create "t" (.slot "h"))]

/-- What some element is handed out as need not be contained, nor removed: not a float that is no number, of which
every crossing is another one, not an integer that hashes to what it likes, and not what a class or another element
decides about. Nor is a set that says that it has no elements one of which none is handed out. -/
theorem elements_lost :
    let world := (Session.performAll unusable {}).2.world
    let offers (set : Ref) := ((anyElement set).run.run world).1
    let has (set : Ref) (value : NativeValue) := ((contains set value).run.run world).1
    let leaves (set : Ref) (value : NativeValue) := ((count set).run.run ((remove set value).run.run world).2).1
    (offers (.object 1) = .ok (some (.float 0x7ff8000000000000)) ∧
      has (.object 1) (.float 0x7ff8000000000000) = .ok false ∧
        leaves (.object 1) (.float 0x7ff8000000000000) = .ok 1) ∧
    (offers (.object 3) = .ok (some (.int 5)) ∧ has (.object 3) (.int 5) = .ok false ∧
      leaves (.object 3) (.int 5) = .ok 1) ∧
    (offers (.object 5) = .ok (some (.int 1)) ∧ has (.object 5) (.int 1) = .ok false) ∧
    (offers (.object 7) = .ok (some (.int 1)) ∧ ((count (.object 7)).run.run world).1 = .ok 0) ∧
    (offers (.object 8) = .ok (some (.host (.object 10))) ∧ has (.object 8) (.host (.object 10)) = .ok false) := by
  decide +kernel

end ForeignSet

end HeapBridge
