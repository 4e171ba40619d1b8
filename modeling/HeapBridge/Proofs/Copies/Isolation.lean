import HeapBridge.Proofs.Copies.Twins
import HeapBridge.Proofs.Members.Copying
import HeapBridge.Proofs.Ownership.Sessions
import HeapBridge.Proofs.Scenes.Scalars
/-!
Copies are apart. A set and the copy that its proxy makes of it have the same elements, and nothing else in common.
Whatever is done with the one, the other goes on as if that had not been done, and it is there when the proxies of
the one are gone.
-/
namespace HeapBridge

open Host (Body Fault Heap Object Ref SetTable)

variable {scene : Scene} {world before after : World} {set other copy ref : Ref} {table : SetTable}
  {owned holdings rest : Multiset Holding} {state : Usage} {steps : List SetStep} {conduct : Conduct}
  {address proxy : Nat} {numbers : List Nat}

/-- Whether a set can be used through a proxy by whoever has these holdings: the class of the set leaves the use to
sets, what is referred to is there, and no storage is going to be refused. -/
structure ForeignSet.Serviceable (holdings : Multiset Holding) (proxy : Nat) (set : Ref) (world : World) : Prop where
  balanced : Account.Balanced ⟨holdings, world⟩
  owned : .reference proxy ∈ holdings
  backing : world.native.backing? proxy = some set
  leaves : world.host.LeavesToSets set
  iterates : world.host.scripted? set "__iter__" = none
  whole : world.IsWhole
  unrefused : true ∉ world.refusals

/-- Whether these are the numbers of iterators over a set that were started. -/
structure World.IteratesOver (world : World) (set : Ref) (numbers : List Nat) : Prop where
  started : ∀ number ∈ numbers, number < world.cursors.size ∧ (world.cursor number).IsOver set
  apart : numbers.Nodup

namespace SetStep

/-- The steps without those that change other sets. -/
def sparing (set : Ref) (steps : List SetStep) : List SetStep :=
  steps.filter fun step => step.set = set || !step.use.isChange

end SetStep

/-! Where the use of sets begins and ends. -/

namespace Scene

/-- The use of the sets begins, with iterators that were started before. -/
theorem Opens.serves (hOpens : scene.Opens) (hBalanced : Account.Balanced ⟨owned, scene.start⟩)
    (hSet : set ∈ scene.sets) (hNumbers : scene.start.IteratesOver set numbers) :
    scene.Serves owned ⟨scene.start, numbers.map fun number => (set, number)⟩ where
  follows := hOpens.follows
  balanced := ⟨0, by rwa [zero_add]⟩
  backing _ _ _ hBacking := hBacking
  held := List.Subset.refl _
  elements set hSet table hBody ref hRef := by
    refine ⟨hOpens.elements set hSet table hBody ref hRef, ?_⟩
    rw [origin_of_live (hOpens.follows.isLive_element (hOpens.live set hSet) hBody hRef).2]
    exact trivial
  started entry hEntry := by
    obtain ⟨number, hNumber, rfl⟩ := List.mem_map.mp hEntry
    exact ⟨hSet, hNumbers.started number hNumber⟩
  apart := by
    rw [List.map_map]
    exact (List.map_id' numbers).symm ▸ hNumbers.apart

/-- References to a native object are given back, one after the other. -/
theorem Follows.keeps_releaseNatives (hFollows : scene.Follows world) (hGoverns : scene.Governs) (address count : Nat) :
    scene.Keeps ∅ world (Nat.repeat (·.releaseNative address) count world) := by
  induction count with
  | zero => exact .refl hFollows
  | succ count ih => exact ih.trans (ih.follows.keeps_releaseNative hGoverns address)

/-- A set stays what it is, with its elements, when references to the proxies of another one are given back. -/
theorem Serves.outlasts (hServes : scene.Serves owned state) (hGoverns : scene.Governs) (hSet : set ∈ scene.sets)
    {count : Nat} (hProxy : .reference proxy ∈ owned) (hBacking : scene.start.native.backing? proxy = some set)
    (hNe : address ≠ proxy) (hCount : count ≤ owned.count (.reference address)) :
    (Nat.repeat (·.releaseNative address) count state.world).host.body set = state.world.host.body set ∧
      ∀ ref ∈ (state.world.host.body set).references,
        (Nat.repeat (·.releaseNative address) count state.world).host.view ref = state.world.host.view ref := by
  obtain ⟨extra, hBalanced⟩ := hServes.balanced
  obtain ⟨rest, rfl⟩ : ∃ rest, owned = count • {.reference address} + rest := by
    rw [Multiset.nsmul_singleton]
    exact Multiset.le_iff_exists_add.mp (Multiset.le_count_iff_replicate_le.mp hCount)
  have hMoves : Moves (fun _ => True) ⟨count • {.reference address} + (extra + rest), state.world⟩
      ⟨extra + rest, Nat.repeat (·.releaseNative address) count state.world⟩ :=
    (@Session.steps_releaseNatives _ (.ofNative (extra + rest)) address count state.world).moves
  have hOwned : .reference proxy ∈ extra + rest := by
    rcases Multiset.mem_add.mp hProxy with hGone | hThere
    · rw [Multiset.nsmul_singleton] at hGone
      exact absurd (Holding.reference.inj (Multiset.eq_of_mem_replicate hGone)).symm hNe
    · exact Multiset.mem_add.mpr (.inr hThere)
  rw [add_left_comm] at hBalanced
  have hLast := hMoves.backing? hBalanced hOwned (hServes.backing proxy set hProxy hBacking)
  have hKeeps := hServes.follows.keeps_releaseNatives hGoverns address count
  have hStays {ref : Ref} (hBefore : state.world.host.isLive ref = true)
      (hAfter : (Nat.repeat (·.releaseNative address) count state.world).host.isLive ref = true) :=
    hKeeps.leaves.view_eq (Set.notMem_empty ref) hBefore hAfter
  have hBefore := hServes.follows.isLive_of_backing (hServes.backing proxy set hProxy hBacking)
  have hAfter := hKeeps.follows.isLive_of_backing hLast
  have hBody := congrArg Object.body (hStays hBefore hAfter)
  refine ⟨hBody, fun ref hRef => ?_⟩
  obtain ⟨table, hTable⟩ := hServes.follows.exists_table hSet hBefore
  rw [hTable] at hRef
  exact hStays (hServes.follows.isLive_element hBefore hTable hRef).2
    (hKeeps.follows.isLive_element hAfter (hBody.trans hTable) hRef).2

end Scene

namespace ForeignSet

/-! What a copy is. -/

/-- Whether a copy was made of a set: a new set with the very elements, behind a proxy with one reference. -/
structure IsCopied (set : Ref) (before : World) (proxy : Nat) (copy : Ref) (after : World) : Prop where
  proxy : after.native.object? proxy = some ⟨1, .foreignSet copy⟩
  new : before.host.isLive copy = false
  apart : copy ≠ set
  elements : ∃ table copied, before.host.body set = .set table ∧ after.host.body copy = .set copied ∧
    copied.toList.Perm table.toList
  stays : ∀ ref, before.host.isLive ref = true → after.host.view ref = before.host.view ref

/-- A copy is made of a set, and nothing else becomes of any host object or iterator. -/
theorem exists_mutableCopy (hBody : world.host.body set = .set table) (hCopies : world.host.CopiesAsSets set)
    (hGranted : world.refusals.head? ≠ some true) :
    ∃ after, (mutableCopy set).run.run world = (.ok world.native.cells.size, after) ∧
      IsCopied set world world.native.cells.size (.object world.host.cells.size) after ∧
        after.host = (world.host.allocate { body := .set table.copied }).2 ∧ after.cursors = world.cursors := by
  have hElements : (world.host.body set).elements? = some table := congrArg Body.elements? hBody
  have hNew : world.host.isLive (.object world.host.cells.size) = false := by
    rw [← Bool.not_eq_true]
    intro hLive
    obtain ⟨object, hThere⟩ := Option.isSome_iff_exists.mp hLive
    exact absurd (Heap.lt_size_of_object? hThere) (Nat.lt_irrefl _)
  have hNe : Ref.object world.host.cells.size ≠ set := by
    rintro rfl
    rw [Heap.isLive_of_body hBody] at hNew
    cases hNew
  have hObject := Heap.object?_allocate_self world.host { body := .set table.copied }
  let stocked := World.hold (.object world.host.cells.size)
    { world with host := (world.host.allocate { body := .set table.copied }).2 }
  have hStorage : stocked.refusals.head? ≠ some true := hGranted
  obtain ⟨after, hCreate, hHost, _, hCursors, _, _, hNative⟩ := exists_create hStorage (.object world.host.cells.size)
  have hProxy := (hNative world.native.cells.size).trans (if_pos rfl)
  refine ⟨after, ?_, ⟨hProxy, hNew, hNe, ⟨table, table.copied, hBody, ?_, table.toList_copied⟩, fun ref hLive => ?_⟩,
    hHost, hCursors⟩
  · rw [mutableCopy_eq, run_bind, BridgeM.contract, BridgeM.run_host,
      Host.runOn_copy hCopies hElements (Host.SetObject.eval_copy_set hBody _)]
    exact hCreate
  · rw [hHost]
    exact congrArg Object.body (Heap.view_of_object? hObject)
  · rw [hHost]
    exact (world.extends_allocate _).stays ref hLive

section Serviceable

variable (hThere : Serviceable holdings proxy set world) (hBody : world.host.body set = .set table)
  (hItems : ∀ ref ∈ table.toList, conduct.items (.known ref))

include hThere hBody hItems

/-- The set can be used by itself. -/
theorem Serviceable.opens : Scene.Opens ⟨world, {set}, conduct⟩ := by
  refine Scene.opens_of (fun other hOther => ?_) (fun other hOther => ?_) hThere.whole hThere.unrefused <;>
    obtain rfl := Set.mem_singleton_iff.mp hOther
  · exact ⟨table, hBody, hItems⟩
  · exact ⟨hThere.leaves, hThere.iterates⟩

variable (hCopies : world.host.CopiesAsSets set) (hRun : (mutableCopy set).run.run world = (.ok address, after))

include hCopies hRun

/-- To make a copy of a set is one of its uses. -/
theorem Serviceable.follows_mutableCopy : Scene.Follows ⟨world, {set}, conduct⟩ after := by
  have hOpens := hThere.opens hBody hItems
  have hElements : (world.host.body set).elements? = some table := congrArg Body.elements? hBody
  have hRefs : ∀ ref ∈ (Body.set table.copied).references, world.host.isLive ref = true := by
    intro ref hRef
    have hOld := (SetTable.toList_copied table).subset hRef
    exact (hOpens.follows.isLive_element (hOpens.live set (Set.mem_singleton set)) hBody hOld).2
  have hMakes := hOpens.follows.makes_allocate hOpens hRefs rfl
  have hNew : ∀ ref ∈ [Ref.object world.host.cells.size],
      (world.host.allocate { body := .set table.copied }).2.isLive ref = true := fun ref hRef =>
    List.mem_singleton.mp hRef ▸ hMakes.live
  have hHeld := hMakes.keeps.follows.holdAll hNew
  obtain ⟨later, hCreate, hKeeps, _⟩ := hHeld.exists_create (List.mem_cons_self ..) ∅
  rw [mutableCopy_eq, run_bind, BridgeM.contract, BridgeM.run_host,
    Host.runOn_copy hCopies hElements (Host.SetObject.eval_copy_set hBody _)] at hRun
  obtain ⟨_, rfl⟩ := Prod.mk.inj (hCreate.symm.trans hRun)
  exact hKeeps.follows

/-- The set and its copy can be used in turn. -/
theorem Serviceable.opens_mutableCopy : Scene.Opens ⟨after, {set, .object world.host.cells.size}, conduct⟩ := by
  have hOpens := hThere.opens hBody hItems
  have hFollows := hThere.follows_mutableCopy hBody hItems hCopies hRun
  obtain ⟨later, hMade, hCopied, hHost, _⟩ :=
    exists_mutableCopy hBody hCopies (World.head?_refusals hThere.unrefused)
  obtain ⟨_, rfl⟩ := Prod.mk.inj (hMade.symm.trans hRun)
  have hSet : later.host.body set = .set table :=
    (congrArg Object.body (hCopied.stays set (Heap.isLive_of_body hBody))).trans hBody
  have hView := Heap.view_of_object? (Heap.object?_allocate_self world.host { body := .set table.copied })
  rw [← hHost] at hView
  have hCopy : later.host.body (.object world.host.cells.size) = .set table.copied := congrArg Object.body hView
  have hBuiltin : later.host.IsBuiltin (.object world.host.cells.size) :=
    ⟨Heap.isLive_of_body hCopy, by rw [hView], by rw [hView]⟩
  refine Scene.opens_of (fun other hOther => ?_) (fun other hOther => ?_) hFollows.whole hFollows.unrefused <;>
    rcases hOther with rfl | rfl
  · exact ⟨table, hSet, hItems⟩
  · exact ⟨table.copied, hCopy, fun ref hRef => hItems ref ((SetTable.toList_copied table).subset hRef)⟩
  · exact hFollows.leavesToSets hOpens (Set.mem_singleton other) (Heap.isLive_of_body hSet)
  · exact ⟨hBuiltin.leavesToSets hCopy, hBuiltin.scripted? _⟩

end Serviceable

end ForeignSet

/-- Whether what is done with other sets of a scene has no bearing on one of them: the same is told of it where the
steps that change others are left out, and it is there with its elements when references to the proxies of others are
given back. -/
structure Scene.Isolated (scene : Scene) (owned : Multiset Holding) (started : List (Ref × Nat)) (steps : List SetStep)
    (kept : Ref) : Prop where
  told : SetStep.toldOf kept (SetStep.sparing kept steps) ⟨scene.start, started⟩ =
    SetStep.toldOf kept steps ⟨scene.start, started⟩
  outlasts : ∀ lost ∈ scene.sets, lost ≠ kept → ∀ proxy, scene.start.native.backing? proxy = some lost →
    ∀ count ≤ owned.count (.reference proxy),
      let last := (SetStep.runAll steps ⟨scene.start, started⟩).world
      let left := Nat.repeat (·.releaseNative proxy) count last
      left.host.body kept = last.host.body kept ∧
        ∀ ref ∈ (last.host.body kept).references, left.host.view ref = last.host.view ref

/-- Sets that are used in turn are isolated from each other. -/
theorem Scene.Opens.isolated {started : List (Ref × Nat)} (hOpens : scene.Opens) (hGoverns : scene.Governs)
    (hProvides : scene.Provides owned) (hServes : scene.Serves owned ⟨scene.start, started⟩)
    (hSteps : ∀ step ∈ steps, step.Fits scene owned) (hSet : set ∈ scene.sets) :
    scene.Isolated owned started steps set := by
  have hTwins : scene.Twins owned set ⟨scene.start, started⟩ ⟨scene.start, started⟩ := .refl hServes hProvides hSet
  obtain ⟨hTold, hLast⟩ := hTwins.filter hOpens hGoverns hProvides hSet
    (fun step => step.set = set || !step.use.isChange) (fun step hSame => by rw [decide_eq_true hSame]; rfl) hSteps
  refine ⟨hTold, fun lost _ hNe proxy hLost count hCount => ?_⟩
  obtain ⟨keeper, hOwned, hKept⟩ := hProvides set hSet
  refine hLast.here.outlasts hGoverns hSet hOwned hKept ?_ hCount
  rintro rfl
  exact hNe (Option.some.inj (hLost.symm.trans hKept))

namespace ForeignSet

/-- A copy through a proxy of a set, of whatever class that leaves copying to sets, is isolated from it. The copy is a
new set with the same elements and a proxy with one reference. Where objects always hash and compare the same and
change nothing by it, and the class of the set leaves its use to sets, what is told of either one in any run, to native
code, native callers and host code and by iterators, those that were started before included, is what is told where all
that changes the other one is left out; and when the proxies of the one are gone, nothing has become of the other. -/
theorem mutableCopy_isolates {result : Except BridgeError Nat} (hBody : world.host.body set = .set table)
    (hCopies : world.host.CopiesAsSets set) (hGranted : world.refusals.head? ≠ some true)
    (hRun : (mutableCopy set).run.run world = (result, after)) :
    ∃ address copy, result = .ok address ∧ IsCopied set world address copy after ∧
      ∀ holdings proxy numbers conduct,
        let scene : Scene := ⟨after, {set, copy}, conduct⟩
        let owned := {.reference address} + holdings
        Serviceable holdings proxy set world → world.IteratesOver set numbers →
        (∀ ref ∈ table.toList, conduct.items (.known ref)) → scene.Governs →
        ∀ steps : List SetStep, (∀ step ∈ steps, step.Fits scene owned) →
          ∀ kept ∈ scene.sets, scene.Isolated owned (numbers.map fun number => (set, number)) steps kept := by
  obtain ⟨later, hMade, hCopied, _, hCursors⟩ := exists_mutableCopy hBody hCopies hGranted
  obtain ⟨rfl, rfl⟩ := Prod.mk.inj (hMade.symm.trans hRun)
  refine ⟨_, _, rfl, hCopied, ?_⟩
  intro holdings proxy numbers conduct scene owned hThere hNumbers hItems hGoverns steps hSteps kept hKept
  have hOpens : scene.Opens := hThere.opens_mutableCopy hBody hItems hCopies hRun
  have hMoves : Moves (fun _ => True) ⟨holdings, world⟩ ⟨owned, later⟩ :=
    (transfers_mutableCopy set).moves_of_run hRun
  have hOwned : .reference proxy ∈ owned := Multiset.mem_add.mpr (.inr hThere.owned)
  have hIterators : later.IteratesOver set numbers := by
    refine ⟨fun number hNumber => ?_, hNumbers.apart⟩
    rw [World.cursor_congr hCursors, hCursors]
    exact hNumbers.started number hNumber
  have hProvides : scene.Provides owned := by
    rintro other (rfl | rfl)
    · exact ⟨proxy, hOwned, hMoves.backing? hThere.balanced hOwned hThere.backing⟩
    · refine ⟨_, Multiset.mem_add.mpr (.inl (Multiset.mem_singleton_self _)), ?_⟩
      rw [Native.Heap.backing?, hCopied.proxy]
  have hServes := hOpens.serves (hMoves.balanced hThere.balanced) (.inl rfl) hIterators
  exact hOpens.isolated hGoverns hProvides hServes hSteps hKept

/-- Uses of a set and of its copy in turn. -/
def inTurn : List SetStep :=
  [⟨.object 0, .native 0 (.add (.int 300))⟩, ⟨.object 1, .iterateExported 0 1⟩,
    ⟨.object 1, .native 1 (.contains (.int 300))⟩, ⟨.object 0, .host .removeAll⟩, ⟨.object 1, .nextExported 0 0⟩,
    ⟨.object 0, .member 0 (.int 300)⟩]

/-- A number that is added to the set is not in the copy, and the copy is gone over still when the set has been
cleared. -/
theorem mutableCopy_isolates_setOne :
    let session := (Session.performAll setOne {}).2
    let made := (mutableCopy (.object 0)).run.run session.world
    let scene := Scene.scalars made.2 {.object 0, .object 1}
    let owned := {.reference 1} + session.holdings
    (session.world.host.CopiesAsSets (.object 0) ∧ session.world.refusals.head? ≠ some true ∧
      Serviceable session.holdings 0 (.object 0) session.world ∧ session.world.IteratesOver (.object 0) [] ∧
      scene.Governs ∧ ∀ step ∈ inTurn, step.Fits scene owned) ∧
    (SetStep.toldOf (.object 0) inTurn ⟨made.2, []⟩ =
        [.answer (.ok .done), .hosted (.ok .done), .element (.ok none)] ∧
      SetStep.toldOf (.object 1) inTurn ⟨made.2, []⟩ =
        [.iterator true, .answer (.ok (.truth false)), .output 1 (some (.value (.int 1)))]) ∧
    scene.Isolated owned [] inTurn (.object 0) ∧ scene.Isolated owned [] inTurn (.object 1) := by
  have hBalanced : (Session.performAll setOne {}).2.account.Balanced :=
    Session.balanced_performAll (by decide +kernel) Session.balanced_empty
  have hCount : 0 < (Session.performAll setOne {}).2.holdings.count (.reference 0) := by decide +kernel
  have hBacking : (Session.performAll setOne {}).2.world.native.backing? 0 = some (.object 0) := by decide +kernel
  have hBefore : (Session.performAll setOne {}).2.world.CollectsScalars (.object 0) := by decide +kernel
  have hCopies : (Session.performAll setOne {}).2.world.host.CopiesAsSets (.object 0) :=
    ⟨by decide +kernel, by decide +kernel, fun _ => by decide +kernel⟩
  have hMade : let made := (mutableCopy (.object 0)).run.run (Session.performAll setOne {}).2.world
      made.1 = .ok 1 ∧ made.2.native.backing? 0 = some (.object 0) ∧ made.2.native.backing? 1 = some (.object 1) ∧
        made.2.CollectsScalars (.object 0) ∧ made.2.CollectsScalars (.object 1) ∧
        ∀ ref ∈ ((Session.performAll setOne {}).2.world.host.body (.object 0)).references,
          made.2.host.IsScalar ref := by
    decide +kernel
  have hTold : let made := (mutableCopy (.object 0)).run.run (Session.performAll setOne {}).2.world
      SetStep.toldOf (.object 0) inTurn ⟨made.2, []⟩ =
          [.answer (.ok .done), .hosted (.ok .done), .element (.ok none)] ∧
        SetStep.toldOf (.object 1) inTurn ⟨made.2, []⟩ =
          [.iterator true, .answer (.ok (.truth false)), .output 1 (some (.value (.int 1)))] := by
    decide +kernel
  generalize (Session.performAll setOne {}).2 = session at *
  intro session made scene owned
  obtain ⟨hResult, hOriginal, hProxy, hSet, hCopy, hElements⟩ := hMade
  obtain ⟨table, hBody⟩ := hBefore.exists_table
  have hOwned : .reference 0 ∈ session.holdings := Multiset.count_pos.mp hCount
  have hThere : Serviceable session.holdings 0 (.object 0) session.world :=
    ⟨hBalanced, hOwned, hBacking, hBefore.builtin.leavesToSets hBody, hBefore.isPlain.iterates,
      hBefore.opens.follows.whole, hBefore.unrefused⟩
  have hGranted := World.head?_refusals hBefore.unrefused
  have hNone : session.world.IteratesOver (.object 0) [] := ⟨List.forall_mem_nil _, List.nodup_nil⟩
  have hItems : ∀ ref ∈ table.toList, scene.conduct.items (.known ref) := fun ref hRef =>
    hElements ref (by rw [hBody]; exact hRef)
  have hGoverns : scene.Governs := Scene.governs_scalars
    (fun other hOther => by rcases hOther with rfl | rfl; exacts [hSet.exists_table, hCopy.exists_table]) hSet.mute
  have hNumber : NativeValue.Lasts scene owned (.int 300) := by
    refine ⟨(by decide : isNativeInt 300 = true), nofun, nofun, ?_⟩
    have hScalar : (Body.int 300).isScalar = true := rfl
    exact Scene.items_originOf hScalar fun _ => rfl
  have hOne : .reference 0 ∈ owned := Multiset.mem_add.mpr (.inr hOwned)
  have hTwo : .reference 1 ∈ owned := Multiset.mem_add.mpr (.inl (Multiset.mem_singleton_self _))
  have hFits {set : Ref} {proxy : Nat} {use : SetUse} (hUsed : use.proxy? = some proxy)
      (hItem : ∀ item, use.item? = some item → item = .int 300) (hThere : .reference proxy ∈ owned)
      (hBacking : made.2.native.backing? proxy = some set) : use.Fits scene owned set := by
    refine ⟨fun other hOther => ?_, fun item hSome => hItem item hSome ▸ hNumber⟩
    cases hUsed.symm.trans hOther
    exact ⟨hThere, hBacking⟩
  have hSome (item : NativeValue) (hItem : some (NativeValue.int 300) = some item) : item = .int 300 :=
    (Option.some.inj hItem).symm
  have hSteps : ∀ step ∈ inTurn, step.Fits scene owned := by
    intro step hStep
    simp only [inTurn, List.mem_cons, List.not_mem_nil, or_false] at hStep
    rcases hStep with rfl | rfl | rfl | rfl | rfl | rfl
    · exact ⟨.inl rfl, hFits rfl hSome hOne hOriginal⟩
    · exact ⟨.inr rfl, hFits rfl nofun hTwo hProxy⟩
    · exact ⟨.inr rfl, hFits rfl hSome hTwo hProxy⟩
    · exact ⟨.inl rfl, nofun, nofun⟩
    · exact ⟨.inr rfl, nofun, nofun⟩
    · exact ⟨.inl rfl, hFits rfl hSome hOne hOriginal⟩
  refine ⟨⟨hCopies, hGranted, hThere, hNone, hGoverns, hSteps⟩, hTold, ?_⟩
  obtain ⟨address, copy, hAddress, hCopied, hIsolated⟩ :=
    mutableCopy_isolates hBody hCopies hGranted (Prod.eta made).symm
  obtain rfl : address = 1 := Except.ok.inj (hAddress.symm.trans hResult)
  obtain rfl : copy = .object 1 := by
    rw [Native.Heap.backing?, hCopied.proxy] at hProxy
    exact Option.some.inj hProxy
  have hBoth := hIsolated session.holdings 0 [] scene.conduct hThere hNone hItems hGoverns inTurn hSteps
  exact ⟨hBoth _ (.inl rfl), hBoth _ (.inr rfl)⟩

/-- A set with an empty frozen set in it. -/
def setNested : List Command := [.set (.create "s" (.set [.frozenset []]))]

/-- A copy that is not isolated: whether it has the set itself, which has no hash, hangs on what that holds, and so on
whether that has been cleared. -/
theorem mutableCopy_meets :
    let before := (Session.performAll setNested {}).2.world
    let made := (mutableCopy (.object 1)).run.run before
    let steps : List SetStep := [⟨.object 1, .native 0 .removeAll⟩, ⟨.object 2, .native 1 (.contains (.set 0))⟩]
    before.native.backing? 0 = some (.object 1) ∧ made.1 = .ok 1 ∧ made.2.native.backing? 1 = some (.object 2) ∧
      SetStep.toldOf (.object 2) steps ⟨made.2, []⟩ = [.answer (.ok (.truth true))] ∧
      SetStep.toldOf (.object 2) (SetStep.sparing (.object 2) steps) ⟨made.2, []⟩ = [.answer (.ok (.truth false))] := by
  decide +kernel

end ForeignSet

end HeapBridge
