import HeapBridge.Proofs.Copies.Serving
/-!
Turns. Each use of a set that is one with what is owned from the start comes to what the scene says: operations
through a proxy, exported functions and host code, the search for a member, some element, and iterators.
-/
namespace HeapBridge

open Host (Body Context Fault Heap HostM Object Ref SetTable)

variable {scene : Scene} {world before after : World} {set other ref : Ref} {table left : SetTable}
  {value : NativeValue} {owned : Multiset Holding} {state : Usage} {started : List (Ref × Nat)}
  {proxy number rank : Nat} {cursor : Cursor}

/-- Whether a use of a set is one with what is owned from the start. -/
structure SetUse.Fits (scene : Scene) (owned : Multiset Holding) (set : Ref) (use : SetUse) : Prop where
  proxy : ∀ proxy, use.proxy? = some proxy →
    .reference proxy ∈ owned ∧ scene.start.native.backing? proxy = some set
  item : ∀ item, use.item? = some item → item.Lasts scene owned

/-- Whether a step is such a use of one of the sets. -/
structure SetStep.Fits (scene : Scene) (owned : Multiset Holding) (step : SetStep) : Prop where
  set : step.set ∈ scene.sets
  use : step.use.Fits scene owned step.set

/-- An object is seen as what it has become. -/
theorem Host.Heap.glimpse_congr {heap later : Heap} (hBody : later.body ref = heap.body ref) :
    later.glimpse ref = heap.glimpse ref := by
  rw [glimpse, glimpse, hBody]

/-- What is handed out is seen as the element itself. -/
theorem Usage.handOut_eq {operation : BridgeM (Option NativeValue)} {result : Except BridgeError (Option NativeValue)}
    {told : Except BridgeError (Option Ref)} {heap : Heap} (hRun : operation.run.run state.world = (result, after))
    (hTold : result.map (fun value => value.map (·.glimpse after)) = told.map fun ref => ref.map heap.glimpse) :
    state.handOut operation = ((Telling.element .element told).seen heap, ⟨after, state.started⟩) := by
  rw [handOut, hRun]
  dsimp only
  rw [hTold]
  rfl

/-- An iterator that is moved to where it stands is not moved. -/
theorem World.moveCursor_cursor (number : Nat) (world : World) :
    world.moveCursor number (world.cursor number) = world := by
  have hSame : world.cursors.setIfInBounds number (world.cursors.getD number .finished) = world.cursors := by
    refine Array.ext_getElem? fun index => ?_
    rw [Array.getElem?_setIfInBounds]
    split
    next hIndex =>
      subst hIndex
      split
      next hBound => simp [hBound]
      next hBound => rw [Array.getElem?_eq_none (Nat.not_lt.mp hBound)]
    next => rfl
  rw [moveCursor, cursor, hSame]

namespace Scene

namespace Serves

variable (hServes : scene.Serves owned state) (hOpens : scene.Opens) (hProvides : scene.Provides owned)
  (hSet : set ∈ scene.sets) (hBody : state.world.host.body set = .set table)

include hServes hOpens hProvides hSet hBody

section Operations

variable (hGoverns : scene.Governs)

include hGoverns

/-- Native code does something through a proxy. -/
theorem performs_native {operation : SetOperation NativeValue}
    (hFits : (SetUse.native proxy operation).Fits scene owned set) :
    scene.Performs owned set (askedIn state.world operation.item?)
      (scene.effect state.world set table (state.cursors set) (.native proxy operation)) state
      ((SetUse.native proxy operation).run set state) := by
  obtain ⟨hOwned, hBacking⟩ := hFits.proxy proxy rfl
  obtain ⟨after, hRun, hRetables, hLater⟩ := (hServes.contains hBody hSet).exists_run hOpens hSet hBody hGoverns
    fun item hItem => hServes.presents hOpens (hFits.item item hItem)
  have hSaves := SetUse.saves_run set (.native proxy operation) state
  have hUse : (SetUse.native proxy operation).run set state = (.answer (scene.reported (operationOf operation)
      ((scene.outcomeFor state.world table operation).map Prod.fst)), ⟨after, state.started⟩) := by
    rw [SetUse.run, Usage.through, hServes.backing proxy set hOwned hBacking]
    dsimp only
    rw [hRun]
  rw [hUse] at hSaves ⊢
  exact hServes.performs_operated hOpens hProvides hSet hBody
    (fun result => .answer (scene.reported (operationOf operation) result)) hFits.item hSaves hRetables hLater

/-- A native caller does something through a proxy. -/
theorem performs_exported {thread : Thread} {operation : ExportedOperation}
    (hFits : (SetUse.exported thread proxy operation).Fits scene owned set) :
    scene.Performs owned set (askedIn state.world operation.operation.item?)
      (scene.effect state.world set table (state.cursors set) (.exported thread proxy operation)) state
      ((SetUse.exported thread proxy operation).run set state) := by
  obtain ⟨hOwned, hBacking⟩ := hFits.proxy proxy rfl
  obtain ⟨after, hRun, hRetables⟩ := (hServes.contains hBody hSet).exists_exported hOpens hSet hBody hGoverns thread
    (hServes.backing proxy set hOwned hBacking) fun item hItem => hServes.presents hOpens (hFits.item item hItem)
  have hSaves := SetUse.saves_run set (.exported thread proxy operation) state
  have hUse : (SetUse.exported thread proxy operation).run set state = (.code (SetAnswer.codeOf
      ((scene.outcomeFor state.world table operation.operation).map Prod.fst)), ⟨after, state.started⟩) := by
    rw [SetUse.run, hRun]
  rw [hUse] at hSaves ⊢
  refine hServes.performs_operated hOpens hProvides hSet hBody (fun result => .code (SetAnswer.codeOf result))
    hFits.item hSaves hRetables fun item hItem _ => ?_
  cases operation <;> cases hItem <;> exact hRetables.keeps

/-- Host code does something with the set. -/
theorem performs_host {operation : SetOperation Ref} (hFits : (SetUse.host operation).Fits scene owned set) :
    scene.Performs owned set (askedIn state.world (operation.map NativeValue.host).item?)
      (scene.effect state.world set table (state.cursors set) (.host operation)) state
      ((SetUse.host operation).run set state) := by
  have hSame : scene.outcomeFor state.world table (operation.map .host) =
      scene.outcome state.world table operation := by
    cases operation <;> rfl
  obtain ⟨after, hRun, hRetables⟩ := (hServes.contains hBody hSet).exists_runHost hOpens hSet hBody hGoverns
    operation fun key hKey => by
      have hItem : (operation.map NativeValue.host).item? = some (.host key) := by
        cases operation <;> cases hKey <;> rfl
      exact (hServes.presents hOpens (hFits.item _ hItem)).concerns
  rw [← hSame] at hRun hRetables
  have hSaves := SetUse.saves_run set (.host operation) state
  have hUse : (SetUse.host operation).run set state = (.hosted
      ((scene.outcomeFor state.world table (operation.map .host)).map Prod.fst), ⟨after, state.started⟩) := by
    rw [SetUse.run, hRun]
  rw [hUse] at hSaves ⊢
  refine hServes.performs_operated hOpens hProvides hSet hBody .hosted hFits.item hSaves hRetables
    fun item hItem _ => ?_
  cases operation <;> cases hItem <;> exact hRetables.keeps

/-- A member is looked for. -/
theorem performs_member {item : NativeValue} (hFits : (SetUse.member proxy item).Fits scene owned set) :
    scene.Performs owned set (askedIn state.world (some item))
      (scene.effect state.world set table (state.cursors set) (.member proxy item)) state
      ((SetUse.member proxy item).run set state) := by
  obtain ⟨hOwned, hBacking⟩ := hFits.proxy proxy rfl
  have hPresents := hServes.presents hOpens (hFits.item item rfl)
  have hContains := hServes.contains hBody hSet
  obtain ⟨_, _, hUses⟩ := hServes.exists_uses hProvides hBody hSet
  have hPlain := hUses.isPlain hOpens hSet
  have hSees := hContains.sees hGoverns hOpens hPlain hPresents
  have hDone {result : Except BridgeError (Option NativeValue)} {after : World}
      (hYields : BridgeM.Yields (ForeignSet.member set item) state.world result after)
      (hTold : result.map (fun value => value.map (·.glimpse after)) =
        (scene.memberOf state.world table item).map fun ref => ref.map (item.crossed state.world).2.host.glimpse) :
      scene.Performs owned set (askedIn state.world (some item))
        (scene.effect state.world set table (state.cursors set) (.member proxy item)) state
        ((SetUse.member proxy item).run set state) := by
    have hSaves := SetUse.saves_run set (.member proxy item) state
    have hUse : (SetUse.member proxy item).run set state =
        ((Telling.element .element (scene.memberOf state.world table item)).seen (item.crossed state.world).2.host,
          ⟨after, state.started⟩) := by
      rw [SetUse.run, Usage.through, hServes.backing proxy set hOwned hBacking]
      exact Usage.handOut_eq hYields.run hTold
    rw [hUse] at hSaves ⊢
    exact hServes.performs_grows hOpens hProvides hSet hBody hSaves hYields.grows (some item) _
  cases hLookup : scene.lookup state.world table item with
  | error fault =>
    rw [hLookup] at hSees
    obtain ⟨after, hYields⟩ := hContains.exists_member_error hOpens hPresents.owned hPresents.concerns.live hSees
    exact hDone hYields (by rw [memberOf, hLookup]; rfl)
  | ok found =>
    rw [hLookup] at hSees
    cases found with
    | false =>
      obtain ⟨after, hYields⟩ := hContains.exists_member_absent hOpens hPresents.owned hPresents.concerns.live hSees
      exact hDone hYields (by rw [memberOf, hLookup]; rfl)
    | true =>
      obtain ⟨told, after, hYields, hTells⟩ := hContains.exists_member_present hOpens hPresents.owned
        hPresents.concerns.live hGoverns hPlain hUses.mentions hPresents.concerns.items hSees
      refine hDone hYields ?_
      rw [memberOf, hLookup]
      dsimp only
      generalize hFound :
        scene.firstEqual (item.crossed state.world).2 (item.crossed state.world).1 table.toList = found at hTells
      cases hTells with
      | failed fault => rfl
      | absent => rfl
      | @found ref value hStands =>
        obtain ⟨_, hExtends⟩ := hServes.follows.crossed hOpens item
        have hLive := (hContains.concerns ref (mem_of_firstEqual hFound)).live
        change Except.ok (some (value.glimpse after)) = Except.ok (some ((item.crossed state.world).2.host.glimpse ref))
        rw [hStands.glimpse_eq, Heap.glimpse_congr (hYields.grows.body_eq ref),
          Heap.glimpse_congr (hExtends.body_eq hLive)]

end Operations

/-- Some element is handed out. -/
theorem performs_anyElement (hFits : (SetUse.anyElement proxy).Fits scene owned set) :
    scene.Performs owned set (askedIn state.world none)
      (scene.effect state.world set table (state.cursors set) (.anyElement proxy)) state
      ((SetUse.anyElement proxy).run set state) := by
  obtain ⟨hOwned, hBacking⟩ := hFits.proxy proxy rfl
  obtain ⟨_, _, hUses⟩ := hServes.exists_uses hProvides hBody hSet
  obtain ⟨told, after, hYields, hTold⟩ :=
    (hServes.contains hBody hSet).exists_anyElement hOpens hUses.mentions (hUses.isPlain hOpens hSet)
  have hSaves := SetUse.saves_run set (.anyElement proxy) state
  have hUse : (SetUse.anyElement proxy).run set state =
      ((Telling.element .element (.ok table.toList.head?)).seen state.world.host, ⟨after, state.started⟩) := by
    rw [SetUse.run, Usage.through, hServes.backing proxy set hOwned hBacking]
    refine Usage.handOut_eq hYields.run ?_
    generalize table.toList = elements at hTold
    cases elements with
    | nil =>
      subst hTold
      rfl
    | cons ref rest =>
      obtain ⟨value, rfl, hStands⟩ := hTold
      change Except.ok (some (value.glimpse after)) = Except.ok (some (state.world.host.glimpse ref))
      rw [hStands.glimpse_eq, Heap.glimpse_congr (hYields.grows.body_eq ref)]
  rw [hUse] at hSaves ⊢
  exact hServes.performs_grows hOpens hProvides hSet hBody hSaves hYields.grows none _

/-! Iterators. -/

omit hOpens hBody in
/-- Where nothing becomes of any object but that some go, the sets are what they were. -/
theorem stays_of_views (hSaves : state.world.Saves after) (hFollows : scene.Follows after)
    (hViews : ∀ ref, state.world.host.isLive ref = true → after.host.isLive ref = true →
      after.host.view ref = state.world.host.view ref) :
    after.host.body set = state.world.host.body set ∧ ∀ table, state.world.host.body set = .set table →
      ∀ ref ∈ table.toList, scene.origin after ref = scene.origin state.world ref := by
  have hLive := hServes.live_of_saves hProvides hSaves hFollows hSet
  have hSame : after.host.body set = state.world.host.body set :=
    congrArg Object.body (hViews set (hServes.live hProvides hSet) hLive)
  refine ⟨hSame, fun table hBody ref hRef => origin_eq (congrArg Object.body (hViews ref ?_ ?_))⟩
  · exact ((hServes.contains hBody hSet).concerns ref hRef).live
  · exact (hFollows.isLive_element hLive (hSame.trans hBody) hRef).2

end Serves

/-- The iterators over other sets are others. -/
theorem Serves.ne_of_number (hServes : scene.Serves owned state) {first second : Nat}
    (hFirst : (set, first) ∈ state.started) (hSecond : (other, second) ∈ state.started) (hNe : other ≠ set) :
    second ≠ first := by
  rintro rfl
  have hSame := List.inj_on_of_nodup_map hServes.apart hSecond hFirst rfl
  exact hNe (Prod.mk.inj hSame).1

theorem mem_started_of_number (hNumber : number ∈ state.numbers set) : (set, number) ∈ state.started := by
  obtain ⟨entry, hEntry, rfl⟩ := List.mem_map.mp hNumber
  obtain ⟨hThere, hSame⟩ := List.mem_filter.mp hEntry
  rwa [← of_decide_eq_true hSame]

section Iterators

variable (hServes : scene.Serves owned state) (hOpens : scene.Opens) (hProvides : scene.Provides owned)
  (hSet : set ∈ scene.sets) (hBody : state.world.host.body set = .set table)

include hServes hProvides hSet hBody

/-- Only iterators over the set are started or moved. -/
theorem Serves.performs_cursors {cursors : List Cursor} (told : Telling) (hSaves : state.world.Saves after)
    (hFollows : scene.Follows after)
    (hViews : ∀ ref, state.world.host.isLive ref = true → after.host.isLive ref = true →
      after.host.view ref = state.world.host.view ref)
    (hStarted : ∀ entry ∈ started, entry.1 ∈ scene.sets ∧ entry.2 < after.cursors.size ∧
      (after.cursor entry.2).IsOver entry.1)
    (hApart : (started.map Prod.snd).Nodup) (hCursors : Usage.cursors set ⟨after, started⟩ = cursors)
    (hOthers : ∀ other ∈ scene.sets, other ≠ set → Usage.cursors other ⟨after, started⟩ = state.cursors other) :
    scene.Performs owned set (askedIn state.world none) ⟨told, table, cursors⟩ state
      (told.seen state.world.host, ⟨after, started⟩) := by
  have hStays {other : Ref} (hOther : other ∈ scene.sets) :=
    hServes.stays_of_views hProvides hOther hSaves hFollows hViews
  refine ⟨rfl, hServes.next hSaves hFollows (fun other hOther table hTable ref hRef => ?_) hStarted hApart,
    (hStays hSet).1.trans hBody, hCursors, (hStays hSet).2 table hBody, fun other hOther hNe =>
      ⟨(hStays hOther).1, hOthers other hOther hNe, (hStays hOther).2⟩⟩
  have hBefore := (hStays hOther).1.symm.trans hTable
  rw [(hStays hOther).2 table hBefore ref hRef]
  exact hServes.elements other hOther table hBefore ref hRef

include hOpens

/-- An iterator is started, and otherwise the world only grows. -/
theorem Serves.performs_started (told : UseReply) (hSaves : state.world.Saves after)
    (hGrows : (state.world.startCursor (.elements set 0 table.size false)).2.Grows after) :
    scene.Performs owned set (askedIn state.world none)
      ⟨.reply told, table, state.cursors set ++ [.elements set 0 table.size false]⟩ state
      (told, ⟨after, state.started ++ [(set, state.world.cursors.size)]⟩) := by
  obtain ⟨_, _, hUses⟩ := hServes.exists_uses hProvides hBody hSet
  have hPasses := hUses.passes_iterate hOpens hSet
  have hSize : after.cursors.size = (state.world.startCursor (.elements set 0 table.size false)).2.cursors.size :=
    congrArg Array.size hGrows.cursors
  have hSelf : after.cursor state.world.cursors.size = .elements set 0 table.size false :=
    (World.cursor_congr hGrows.cursors _).trans (World.cursor_startCursor_self _ _)
  have hKept {entry : Ref × Nat} (hEntry : entry ∈ state.started) :
      after.cursor entry.2 = state.world.cursor entry.2 :=
    (World.cursor_congr hGrows.cursors _).trans
      (World.cursor_startCursor_of_lt (hServes.started entry hEntry).2.1 _)
  have hNumbers (other : Ref) : (state.numbers other).map (fun number => after.cursor number) =
      state.cursors other :=
    List.map_congr_left fun number hNumber => hKept (mem_started_of_number hNumber)
  refine hServes.performs_cursors hProvides hSet hBody (.reply told) hSaves
    (hPasses.uses.contains.follows.grows hGrows) (fun ref _ _ => hGrows.view_eq ref) (fun entry hEntry => ?_) ?_ ?_
    fun other _ hNe => ?_
  · rw [hSize]
    rcases List.mem_append.mp hEntry with hOld | hNew
    · obtain ⟨hThere, hBound, hOver⟩ := hServes.started entry hOld
      rw [hKept hOld]
      exact ⟨hThere, hBound.trans hPasses.started, hOver⟩
    · rw [List.mem_singleton.mp hNew, hSelf]
      exact ⟨hSet, hPasses.started, rfl⟩
  · rw [List.map_append, List.nodup_append]
    refine ⟨hServes.apart, List.nodup_singleton _, fun number hNumber other hOther => ?_⟩
    obtain ⟨entry, hEntry, rfl⟩ := List.mem_map.mp hNumber
    rw [List.mem_singleton.mp hOther]
    exact Nat.ne_of_lt (hServes.started entry hEntry).2.1
  · rw [Usage.cursors, Usage.numbers, List.filter_append, List.map_append, List.map_append]
    refine congrArg₂ List.append (hNumbers set) ?_
    simp [hSelf]
  · rw [Usage.cursors, Usage.numbers, List.filter_append, List.map_append, List.map_append]
    refine (congrArg₂ List.append (hNumbers other) ?_).trans (List.append_nil _)
    simp [Ne.symm hNe]

/-- Native code starts an iterator. -/
theorem Serves.performs_iterate (hFits : (SetUse.iterate proxy).Fits scene owned set) :
    scene.Performs owned set (askedIn state.world none)
      (scene.effect state.world set table (state.cursors set) (.iterate proxy)) state
      ((SetUse.iterate proxy).run set state) := by
  obtain ⟨hOwned, hBacking⟩ := hFits.proxy proxy rfl
  obtain ⟨_, _, hUses⟩ := hServes.exists_uses hProvides hBody hSet
  have hSaves := SetUse.saves_run set (.iterate proxy) state
  have hUse : (SetUse.iterate proxy).run set state = (.started (.ok ()),
      ⟨(state.world.startCursor (.elements set 0 table.size false)).2,
        state.started ++ [(set, state.world.cursors.size)]⟩) := by
    rw [SetUse.run, Usage.through, hServes.backing proxy set hOwned hBacking]
    dsimp only
    rw [hUses.run_iterate hOpens hSet]
  rw [hUse] at hSaves ⊢
  exact hServes.performs_started hOpens hProvides hSet hBody (.started (.ok ())) hSaves (.refl _)

/-- A native caller starts an iterator. -/
theorem Serves.performs_iterateExported {thread : Thread}
    (hFits : (SetUse.iterateExported thread proxy).Fits scene owned set) :
    scene.Performs owned set (askedIn state.world none)
      (scene.effect state.world set table (state.cursors set) (.iterateExported thread proxy)) state
      ((SetUse.iterateExported thread proxy).run set state) := by
  obtain ⟨hOwned, hBacking⟩ := hFits.proxy proxy rfl
  obtain ⟨_, _, hUses⟩ := hServes.exists_uses hProvides hBody hSet
  have hSaves := SetUse.saves_run set (.iterateExported thread proxy) state
  have hUse : (SetUse.iterateExported thread proxy).run set state = (.iterator true,
      ⟨(state.world.startCursor (.elements set 0 table.size false)).2.clearLastError thread,
        state.started ++ [(set, state.world.cursors.size)]⟩) := by
    rw [SetUse.run, Export.run_setIterate_native (hServes.backing proxy set hOwned hBacking),
      hUses.run_iterate hOpens hSet]
  rw [hUse] at hSaves ⊢
  exact hServes.performs_started hOpens hProvides hSet hBody (.iterator true) hSaves
    (World.grows_clearLastError thread _)

omit hOpens in
/-- The scene is followed on where an iterator is moved. -/
theorem Serves.follows_moveCursor (hNumber : number ∈ state.numbers set) (hCursor : cursor.IsOver set) :
    scene.Follows (state.world.moveCursor number cursor) := by
  obtain ⟨holdings, _, hUses⟩ := hServes.exists_uses hProvides hBody hSet
  obtain ⟨_, hStarted, hOver⟩ := hServes.started _ (mem_started_of_number hNumber)
  have hMove : Move (fun _ => True) ⟨holdings, state.world⟩ ⟨holdings, state.world.moveCursor number cursor⟩ :=
    .moveCursor number cursor trivial
  refine (hUses.of_cursors hSet (fun other => ?_) hMove.toMoves).contains.follows
  by_cases hSame : number = other
  · subst hSame
    refine .inr ⟨?_, hOver.references⟩
    have hSelf : (state.world.moveCursor number cursor).cursor number = cursor :=
      World.cursor_moveCursor_self hStarted cursor
    exact hSelf.symm ▸ hCursor.references
  · exact .inl (World.cursor_moveCursor_of_ne hSame _)

omit hOpens in
/-- An iterator over the set is moved, and nothing else becomes of any object. -/
theorem Serves.performs_moved (told : Telling) (hRank : (state.numbers set)[rank]? = some number)
    (hCursor : cursor.IsOver set) (hSaves : state.world.Saves after)
    (hKeeps : scene.Keeps ∅ (state.world.moveCursor number cursor) after) :
    scene.Performs owned set (askedIn state.world none) ⟨told, table, (state.cursors set).set rank cursor⟩ state
      (told.seen state.world.host, ⟨after, state.started⟩) := by
  have hNumber := List.mem_of_getElem? hRank
  have hEntry := mem_started_of_number hNumber
  obtain ⟨_, hStarted, _⟩ := hServes.started _ hEntry
  have hSelf : after.cursor number = cursor :=
    (World.cursor_congr hKeeps.cursors number).trans (World.cursor_moveCursor_self hStarted cursor)
  have hKept {other : Nat} (hOther : other ≠ number) : after.cursor other = state.world.cursor other :=
    (World.cursor_congr hKeeps.cursors other).trans (World.cursor_moveCursor_of_ne hOther.symm cursor)
  have hSize : after.cursors.size = state.world.cursors.size := by
    rw [hKeeps.cursors]
    exact World.size_moveCursor _ _ _
  refine hServes.performs_cursors hProvides hSet hBody told hSaves hKeeps.follows
    (fun ref hBefore hAfter => hKeeps.leaves.view_eq (Set.notMem_empty ref) hBefore hAfter) (fun entry hThere => ?_)
    hServes.apart ?_ fun other _ hNe => ?_
  · obtain ⟨hIn, hBound, hOver⟩ := hServes.started entry hThere
    refine ⟨hIn, hSize ▸ hBound, ?_⟩
    by_cases hSame : entry.2 = number
    · have hSource : entry = (set, number) := List.inj_on_of_nodup_map hServes.apart hThere hEntry hSame
      rw [hSource, hSelf]
      exact hCursor
    · rw [hKept hSame]
      exact hOver
  · have hApart : (state.numbers set).Nodup := (List.filter_sublist.map Prod.snd).nodup hServes.apart
    refine List.ext_getElem? fun index => ?_
    change ((state.numbers set).map fun number => after.cursor number)[index]? = _
    rw [List.getElem?_set, Usage.cursors, List.getElem?_map, List.getElem?_map]
    split
    next hSame =>
      subst hSame
      have hBound : rank < (state.numbers set).length := (List.getElem?_eq_some_iff.mp hRank).1
      rw [hRank, if_pos (by rwa [List.length_map])]
      exact congrArg some hSelf
    next hOther =>
      cases hThere : (state.numbers set)[index]? with
      | none => rfl
      | some second =>
        refine congrArg some (hKept ?_)
        rintro rfl
        have hBound : rank < (state.numbers set).length := (List.getElem?_eq_some_iff.mp hRank).1
        exact hOther ((List.getElem?_inj hBound hApart).mp (hRank.trans hThere.symm))
  · exact List.map_congr_left fun second hSecond =>
      hKept (hServes.ne_of_number hEntry (mem_started_of_number hSecond) hNe)

omit hOpens in
/-- What the next step of an iterator comes to, and that the world has only the iterator moved then. -/
theorem Serves.steps (hGoverns : scene.Governs) (hNumber : number ∈ state.numbers set) :
    state.world.told number = ((state.world.cursor number).advance table).1 ∧
      scene.Keeps ∅ (state.world.moveCursor number ((state.world.cursor number).advance table).2)
        (state.world.stepped number) ∧
      ∀ ref, state.world.told number = .ok (some ref) → (state.world.stepped number).Mentions ref ∧
        (state.world.stepped number).host.body ref = state.world.host.body ref := by
  obtain ⟨_, _, hOver⟩ := hServes.started _ (mem_started_of_number hNumber)
  have hFollows := hServes.follows_moveCursor hProvides hSet hBody hNumber (hOver.advance table)
  unfold World.told World.stepped
  cases hCursor : state.world.cursor number with
  | object iterator =>
    rw [hCursor] at hOver
    exact hOver.elim
  | finished =>
    have hSame : state.world.moveCursor number .finished = state.world := by
      rw [← hCursor]
      exact state.world.moveCursor_cursor number
    rw [ForeignSet.run_next_finished hCursor]
    refine ⟨rfl, ?_, fun _ hTold => by cases hTold⟩
    change scene.Keeps ∅ (state.world.moveCursor number .finished) state.world
    rw [hSame]
    exact .refl hServes.follows
  | elements source position size broken =>
    obtain rfl : source = set := by rwa [hCursor] at hOver
    have hContains := hServes.contains hBody hSet
    rw [hCursor, Cursor.advance] at hFollows
    rw [ForeignSet.run_next_elements hCursor hContains.elements, Cursor.advance]
    cases hStep : table.step position size broken with
    | changed =>
      rw [hStep] at hFollows
      exact ⟨rfl, .refl hFollows, fun _ hTold => by cases hTold⟩
    | exhausted =>
      rw [hStep] at hFollows
      have hLive : ∀ ref ∈ [source], (state.world.moveCursor number .finished).host.isLive ref = true :=
        fun ref hRef => List.mem_singleton.mp hRef ▸ hServes.live hProvides hSet
      exact ⟨rfl, (hFollows.keeps_worldRelease hGoverns hLive).1, fun _ hTold => by cases hTold⟩
    | element next ref =>
      rw [hStep] at hFollows
      refine ⟨rfl, .refl hFollows, fun _ hTold => ?_⟩
      cases hTold
      have hMoved :
          scene.Contains (state.world.moveCursor number (.elements source next size false)) source table := by
        refine ⟨hFollows, hContains.live, hContains.elements, fun ref hRef =>
          ⟨(hContains.concerns ref hRef).live, ?_⟩⟩
        rw [origin_eq rfl]
        exact (hContains.concerns ref hRef).items
      exact ⟨hMoved.mentions (SetTable.mem_of_step hStep), rfl⟩

/-- A step of an iterator is told in some form, and otherwise the world only grows. -/
theorem Serves.performs_stepped (hGoverns : scene.Governs) {form : Except BridgeError (Option Glimpse) → UseReply}
    {next : Nat → UseReply × Usage} (hSaves : state.world.Saves (state.along set rank next).2.world)
    (hNext : ∀ number ∈ state.numbers set, ∃ after,
      next number = ((Telling.element form (state.world.told number)).seen state.world.host, ⟨after, state.started⟩) ∧
        (state.world.stepped number).Grows after) :
    scene.Performs owned set (askedIn state.world none) (passed table (state.cursors set) rank form) state
      (state.along set rank next) := by
  have hRank : (state.cursors set)[rank]? = (state.numbers set)[rank]?.map fun number => state.world.cursor number :=
    List.getElem?_map
  rw [Usage.along] at hSaves ⊢
  rw [passed, hRank]
  cases hNumber : (state.numbers set)[rank]? with
  | none => exact hServes.performs_grows hOpens hProvides hSet hBody (.refl _) (.refl _) none (.reply .nothing)
  | some number =>
    rw [hNumber] at hSaves
    dsimp only [Option.map_some] at hSaves ⊢
    have hThere := List.mem_of_getElem? hNumber
    obtain ⟨after, hRun, hGrows⟩ := hNext number hThere
    obtain ⟨hTold, hKeeps, _⟩ := hServes.steps hProvides hSet hBody hGoverns hThere
    obtain ⟨_, _, hOver⟩ := hServes.started _ (mem_started_of_number hThere)
    rw [hRun] at hSaves ⊢
    rw [hTold]
    exact hServes.performs_moved hProvides hSet hBody _ hNumber (hOver.advance table) hSaves
      (hKeeps.trans (hKeeps.follows.keeps_grows hGrows))

/-- The next element is handed out to native code. -/
theorem Serves.performs_next (hGoverns : scene.Governs) :
    scene.Performs owned set (askedIn state.world none)
      (scene.effect state.world set table (state.cursors set) (.next rank)) state
      ((SetUse.next rank).run set state) := by
  refine hServes.performs_stepped hOpens hProvides hSet hBody hGoverns (SetUse.saves_run set (.next rank) state)
    fun number hNumber => ?_
  obtain ⟨_, hKeeps, hElement⟩ := hServes.steps hProvides hSet hBody hGoverns hNumber
  have hRun := ForeignSet.run_nextValue number state.world
  cases hTold : state.world.told number with
  | error error =>
    rw [hTold] at hRun
    exact ⟨_, Usage.handOut_eq hRun rfl, .refl _⟩
  | ok told =>
    rw [hTold] at hRun
    cases told with
    | none => exact ⟨_, Usage.handOut_eq hRun rfl, .refl _⟩
    | some ref =>
      obtain ⟨hMentions, hSame⟩ := hElement ref hTold
      obtain ⟨value, after, hYields, hStands⟩ := ForeignSet.exists_elementValue hKeeps.follows.unrefused hMentions
      refine ⟨after, Usage.handOut_eq (hRun.trans hYields.run) ?_, hYields.grows⟩
      change Except.ok (some (value.glimpse after)) = Except.ok (some (state.world.host.glimpse ref))
      rw [hStands.glimpse_eq, Heap.glimpse_congr ((hYields.grows.body_eq ref).trans hSame)]

/-- The next element is stored for a native caller. -/
theorem Serves.performs_nextExported (hGoverns : scene.Governs) {thread : Thread} :
    scene.Performs owned set (askedIn state.world none)
      (scene.effect state.world set table (state.cursors set) (.nextExported thread rank)) state
      ((SetUse.nextExported thread rank).run set state) := by
  refine hServes.performs_stepped hOpens hProvides hSet hBody hGoverns
    (SetUse.saves_run set (.nextExported thread rank) state) fun number hNumber => ?_
  obtain ⟨_, _, hElement⟩ := hServes.steps hProvides hSet hBody hGoverns hNumber
  rw [Export.run_iteratorNext]
  cases hTold : state.world.told number with
  | error error => exact ⟨_, rfl, World.grows_setLastError thread _ _⟩
  | ok told =>
    cases told with
    | none => exact ⟨_, rfl, World.grows_clearLastError thread _⟩
    | some ref =>
      obtain ⟨hMentions, hSame⟩ := hElement ref hTold
      have hCleared := World.grows_clearLastError thread (state.world.stepped number)
      refine ⟨_, ?_, hCleared.trans (World.grows_hold (hCleared.mentions_iff.mpr hMentions))⟩
      exact congrArg (fun seen => (UseReply.output 1 (some seen), _)) (Heap.glimpse_congr hSame)

/-- Each use of a set comes to what the scene says. -/
theorem Serves.performs (hGoverns : scene.Governs) {use : SetUse} (hFits : use.Fits scene owned set) :
    scene.Performs owned set (askedIn state.world use.item?)
      (scene.effect state.world set table (state.cursors set) use) state (use.run set state) := by
  cases use with
  | native proxy operation => exact hServes.performs_native hOpens hProvides hSet hBody hGoverns hFits
  | exported thread proxy operation => exact hServes.performs_exported hOpens hProvides hSet hBody hGoverns hFits
  | host operation => exact hServes.performs_host hOpens hProvides hSet hBody hGoverns hFits
  | member proxy item => exact hServes.performs_member hOpens hProvides hSet hBody hGoverns hFits
  | anyElement proxy => exact hServes.performs_anyElement hOpens hProvides hSet hBody hFits
  | iterate proxy => exact hServes.performs_iterate hOpens hProvides hSet hBody hFits
  | iterateExported thread proxy => exact hServes.performs_iterateExported hOpens hProvides hSet hBody hFits
  | next rank => exact hServes.performs_next hOpens hProvides hSet hBody hGoverns
  | nextExported thread rank => exact hServes.performs_nextExported hOpens hProvides hSet hBody hGoverns

end Iterators

end Scene

end HeapBridge
