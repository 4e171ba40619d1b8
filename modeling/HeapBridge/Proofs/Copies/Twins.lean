import HeapBridge.Proofs.Copies.Turns
/-!
Twins. In two runs a set is a twin of itself if its tables correspond, with elements that are known by the same, and
if the iterators over it stand alike. What is done with other sets in only one of the runs leaves it so, and what is
done with the set in both is told alike in both and leaves it so, too.
-/
namespace HeapBridge

open Host (Body Fault Heap Object Ref SetTable)

variable {scene : Scene} {world left right : World} {set other ref copied : Ref} {table copy : SetTable}
  {value item : NativeValue} {owned : Multiset Holding} {first second state : Usage} {use : SetUse}
  {steps : List SetStep}

namespace Scene

/-- An object that is known from the start is the very one that it is known as. -/
theorem origin_eq_known {known : Ref} (hOrigin : scene.origin world ref = .known known) : ref = known := by
  cases ref with
  | atom value => exact Origin.known.inj hOrigin
  | object address =>
    rw [origin] at hOrigin
    split at hOrigin
    · exact Origin.known.inj hOrigin
    · cases hOrigin

/-- Whether an object in one world and one in another are seen as the same. -/
structure Alike (scene : Scene) (left right : World) (ref copied : Ref) : Prop where
  origin : scene.origin left ref = scene.origin right copied
  told : (scene.origin left ref).IsTold
  live : left.host.isLive ref = true
  present : right.host.isLive copied = true

/-- They are. -/
theorem Alike.glimpse_eq (hAlike : scene.Alike left right ref copied) (hLeft : scene.Follows left)
    (hRight : scene.Follows right) : right.host.glimpse copied = left.host.glimpse ref := by
  obtain ⟨hOrigin, hTold, hLive, hPresent⟩ := hAlike
  cases hSame : scene.origin left ref with
  | made body =>
    rw [hSame] at hOrigin hTold
    have hBody : left.host.body ref = body := by
      rw [hLeft.body_eq hLive (fun _ _ hKnown => by rw [hSame] at hKnown; cases hKnown), hSame]
      rfl
    have hCopy : right.host.body copied = body := by
      rw [hRight.body_eq hPresent (fun _ _ hKnown => by rw [← hOrigin] at hKnown; cases hKnown), ← hOrigin]
      rfl
    obtain ⟨value, hScalar⟩ := Option.isSome_iff_exists.mp hTold
    rw [Heap.glimpse, Heap.glimpse, hBody, hCopy, hScalar]
  | known known =>
    obtain rfl : ref = known := origin_eq_known hSame
    obtain rfl : copied = ref := origin_eq_known (hOrigin.symm.trans hSame)
    by_cases hSet : copied ∈ scene.sets
    · obtain ⟨table, hTable⟩ := hLeft.exists_table hSet hLive
      obtain ⟨copy, hCopy⟩ := hRight.exists_table hSet hPresent
      rw [Heap.glimpse, Heap.glimpse, hTable, hCopy]
      rfl
    · have hOther {world : World} (hKnown : scene.origin world copied = .known copied) :
          ∀ set ∈ scene.sets, scene.origin world copied ≠ .known set := fun set hThere hNot => by
        rw [hKnown] at hNot
        cases hNot
        exact hSet hThere
      have hKnown := hOrigin.symm.trans hSame
      refine Heap.glimpse_congr ?_
      rw [hRight.body_eq hPresent (hOther hKnown), hLeft.body_eq hLive (hOther hSame), hKnown, hSame]

/-- Whether a set is a twin of itself in two runs. -/
structure Twins (scene : Scene) (owned : Multiset Holding) (set : Ref) (first second : Usage) : Prop where
  here : scene.Serves owned first
  there : scene.Serves owned second
  table : ∃ table copy, first.world.host.body set = .set table ∧ second.world.host.body set = .set copy ∧
    table.Corresponds (fun ref copied => scene.origin first.world ref = scene.origin second.world copied) copy
  cursors : second.cursors set = first.cursors set

theorem Spares.refl (state : Usage) : scene.Spares set state state := ⟨rfl, rfl, fun _ _ _ _ => rfl⟩

/-- The use of another set spares the set. -/
theorem Serves.elsewhere (hServes : scene.Serves owned state) (hOpens : scene.Opens) (hGoverns : scene.Governs)
    (hProvides : scene.Provides owned) (hSet : set ∈ scene.sets) (hOther : other ∈ scene.sets) (hNe : set ≠ other)
    (hFits : use.Fits scene owned other) :
    scene.Serves owned (use.run other state).2 ∧ scene.Spares set state (use.run other state).2 := by
  obtain ⟨_, hTheirs⟩ := hServes.follows.exists_table hOther (hServes.live hProvides hOther)
  have hPerforms := hServes.performs hOpens hProvides hOther hTheirs hGoverns hFits
  exact ⟨hPerforms.serves, hPerforms.spares set hSet hNe⟩

namespace Twins

theorem refl (hServes : scene.Serves owned first) (hProvides : scene.Provides owned) (hSet : set ∈ scene.sets) :
    scene.Twins owned set first first := by
  obtain ⟨table, hBody⟩ := hServes.follows.exists_table hSet (hServes.live hProvides hSet)
  exact ⟨hServes, hServes, ⟨table, table, hBody, hBody, .refl fun _ _ => rfl⟩, rfl⟩

/-- What spares the set in either run does not matter. -/
theorem spared {left right : Usage} (hTwins : scene.Twins owned set first second) (hLeft : scene.Serves owned left)
    (hRight : scene.Serves owned right) (hFirst : scene.Spares set first left)
    (hSecond : scene.Spares set second right) : scene.Twins owned set left right := by
  obtain ⟨_, _, ⟨table, copy, hBody, hCopy, hTable⟩, hCursors⟩ := hTwins
  refine ⟨hLeft, hRight, ⟨table, copy, hFirst.body.trans hBody, hSecond.body.trans hCopy, ?_⟩, ?_⟩
  · refine hTable.mono fun ref hRef copied hCopied hRelated => ?_
    rw [hFirst.origins table hBody ref hRef, hSecond.origins copy hCopy copied hCopied, hRelated]
  · rw [hFirst.cursors, hSecond.cursors, hCursors]

end Twins

/-- An object that is there is the one that a value crosses as in one run just if its twin is in the other. -/
theorem Serves.eq_crossed_iff (hFirst : scene.Serves owned first) (hSecond : scene.Serves owned second)
    (hOpens : scene.Opens) (hLasts : item.Lasts scene owned) (hLive : first.world.host.isLive ref = true)
    (hPresent : second.world.host.isLive copied = true)
    (hOrigin : scene.origin first.world ref = scene.origin second.world copied) :
    ref = (item.crossed first.world).1 ↔ copied = (item.crossed second.world).1 := by
  have hKey := hFirst.origin_crossed hOpens hLasts
  have hTwin := hSecond.origin_crossed hOpens hLasts
  -- What is there is known by the same where the value has crossed, and is not what has been made for it.
  have hOld {state : Usage} {ref : Ref} (hServes : scene.Serves owned state)
      (hLive : state.world.host.isLive ref = true) :
      scene.origin (item.crossed state.world).2 ref = scene.origin state.world ref :=
    origin_eq ((hServes.follows.crossed hOpens item).2.body_eq hLive)
  have hNew {state : Usage} {ref : Ref} {body : Body} (hServes : scene.Serves owned state)
      (hLive : state.world.host.isLive ref = true) (hMade : scene.originFor item = .made body) :
      ref ≠ (item.crossed state.world).1 := by
    intro hSame
    rw [← hServes.origin_crossed hOpens hLasts] at hMade
    cases hBody : item.body? with
    | none =>
      rw [hServes.origin_crossed hOpens hLasts, originFor, hBody] at hMade
      cases hMade
    | some other =>
      obtain ⟨atom, hAtom⟩ := (hServes.follows.makes_crossed hOpens hBody).apart ref hLive hSame
      rw [hAtom] at hMade
      cases hMade
  cases hItem : scene.originFor item with
  | made body => exact iff_of_false (hNew hFirst hLive hItem) (hNew hSecond hPresent hItem)
  | known known =>
    have hHere : (item.crossed first.world).1 = known := origin_eq_known (hKey.trans hItem)
    have hThere : (item.crossed second.world).1 = known := origin_eq_known (hTwin.trans hItem)
    rw [hItem, hHere] at hKey
    rw [hItem, hThere] at hTwin
    rw [hHere, hThere]
    constructor
    · rintro rfl
      exact origin_eq_known (hOrigin.symm.trans ((hOld hFirst hLive).symm.trans hKey))
    · rintro rfl
      exact origin_eq_known (hOrigin.trans ((hOld hSecond hPresent).symm.trans hTwin))

/-- A set that has no hash is not one of the sets, so it has the same elements in both runs. -/
theorem Contains.frozen_iff (hContains : scene.Contains left set table) (hOpens : scene.Opens)
    (hGoverns : scene.Governs) (hRight : scene.Follows right) (hKey : scene.Concerns left ref)
    (hTwin : right.host.isLive copied = true) (hOrigin : scene.origin left ref = scene.origin right copied)
    {fault : Fault} (hAsked : scene.asked left table ref = .error fault) (hType : fault.exception = "TypeError")
    (elements : SetTable) :
    left.host.body ref = .set elements ↔ right.host.body copied = .set elements := by
  have hFails := hContains.fails_of_asked hAsked
  by_cases hSets : ∃ set ∈ scene.sets, scene.origin left ref = .known set
  · obtain ⟨set, hSet, hKnown⟩ := hSets
    obtain ⟨old, hOld⟩ := hOpens.follows.exists_table hSet (hOpens.live set hSet)
    have hBody : scene.bodyOf (scene.origin left ref) = .set old := by
      rw [hKnown]
      exact hOld
    exact absurd hKnown ((hGoverns.frozen _ hKey.items old hBody fault hFails hType).1 set hSet)
  · have hNone : ∀ set ∈ scene.sets, scene.origin left ref ≠ .known set := fun set hSet hKnown =>
      hSets ⟨set, hSet, hKnown⟩
    rw [hContains.follows.body_eq hKey.live hNone, hRight.body_eq hTwin (by rwa [← hOrigin]), hOrigin]

/-- Whether an object in one run and one in another are seen as the same where an item has crossed, and are both the
item or both not. -/
structure Paired (scene : Scene) (first second : Usage) (item? : Option NativeValue) (ref copied : Ref) : Prop where
  alike : scene.Alike (askedIn first.world item?) (askedIn second.world item?) ref copied
  same : ∀ item, item? = some item → (ref = (item.crossed first.world).1 ↔ copied = (item.crossed second.world).1)

/-- A scene is followed on where an item has crossed. -/
theorem Follows.asked (hFollows : scene.Follows world) (hOpens : scene.Opens) (item? : Option NativeValue) :
    scene.Follows (askedIn world item?) ∧ world.Extends (askedIn world item?) := by
  cases item? with
  | none => exact ⟨hFollows, .refl world⟩
  | some item => exact hFollows.crossed hOpens item

namespace Serves

variable (hFirst : scene.Serves owned first) (hSecond : scene.Serves owned second) (hOpens : scene.Opens)
  (hSet : set ∈ scene.sets) (hBody : first.world.host.body set = .set table)

include hFirst hSecond hOpens hSet hBody

/-- Tables with elements that are known by the same correspond where an item has crossed. -/
theorem paired_table {item? : Option NativeValue} (hItem : ∀ item, item? = some item → item.Lasts scene owned)
    (hCopy : second.world.host.body set = .set copy)
    (hTable : table.Corresponds (fun ref copied => scene.origin first.world ref = scene.origin second.world copied)
      copy) :
    table.Corresponds (scene.Paired first second item?) copy := by
  refine hTable.mono fun ref hRef copied hCopied hOrigin => ?_
  have hLive := ((hFirst.contains hBody hSet).concerns ref hRef).live
  have hPresent := ((hSecond.contains hCopy hSet).concerns copied hCopied).live
  have hHere := hFirst.origin_asked hOpens hSet hBody item? hRef
  have hThere := hSecond.origin_asked hOpens hSet hCopy item? hCopied
  refine ⟨⟨?_, ?_, ?_, ?_⟩, fun item hSome =>
    hFirst.eq_crossed_iff hSecond hOpens (hItem item hSome) hLive hPresent hOrigin⟩
  · rw [hHere, hThere, hOrigin]
  · rw [hHere]
    exact (hFirst.elements set hSet table hBody ref hRef).2
  · exact (hFirst.follows.asked hOpens item?).2.remains ref hLive
  · exact (hSecond.follows.asked hOpens item?).2.remains copied hPresent

/-- An item is the same for what is done with it in both runs. -/
theorem suits (hGoverns : scene.Governs) (hLasts : item.Lasts scene owned) :
    scene.Suits (scene.Paired first second (some item)) first.world second.world table item := by
  have hHere := hFirst.presents hOpens hLasts
  have hThere := hSecond.presents hOpens hLasts
  have hOrigin : scene.origin (item.crossed first.world).2 (item.crossed first.world).1 =
      scene.origin (item.crossed second.world).2 (item.crossed second.world).1 := by
    rw [hFirst.origin_crossed hOpens hLasts, hSecond.origin_crossed hOpens hLasts]
  have hTold : (scene.origin (item.crossed first.world).2 (item.crossed first.world).1).IsTold := by
    rw [hFirst.origin_crossed hOpens hLasts]
    exact hLasts.isTold
  obtain ⟨hLeft, hExtends⟩ := hFirst.follows.crossed hOpens item
  have hContains := (hFirst.contains hBody hSet).extends hExtends hLeft
  refine ⟨⟨fun ref copied hPaired => hPaired.alike.origin, hOrigin, fun ref copied hPaired => hPaired.same item rfl,
    fun fault hAsked hType => ?_⟩, ⟨hOrigin, hTold, hHere.concerns.live, hThere.concerns.live⟩, fun other hSome => ?_⟩
  · exact hContains.frozen_iff hOpens hGoverns (hSecond.follows.crossed hOpens item).1 hHere.concerns
      hThere.concerns.live hOrigin hAsked hType
  · cases hSome
    exact iff_of_true rfl rfl

end Serves

/-- What is told of objects that are seen as the same is the same. -/
theorem seen_eq {told other : Telling} (hLeft : scene.Follows left) (hRight : scene.Follows right)
    (hTold : told.Corresponds (scene.Alike left right) other) : told.seen left.host = other.seen right.host := by
  cases hTold with
  | @found form _ _ hAlike =>
    have hGlimpse := hAlike.glimpse_eq hLeft hRight
    exact congrArg (fun glimpse => form (.ok (some glimpse))) hGlimpse.symm
  | _ => rfl

namespace Twins

variable (hTwins : scene.Twins owned set first second) (hOpens : scene.Opens) (hGoverns : scene.Governs)
  (hProvides : scene.Provides owned)

include hTwins hOpens hGoverns hProvides

/-- What is done with the set in both runs is told alike, and leaves the set a twin of itself. -/
theorem together (hSet : set ∈ scene.sets) (hFits : use.Fits scene owned set) :
    (use.run set first).1 = (use.run set second).1 ∧
      scene.Twins owned set (use.run set first).2 (use.run set second).2 := by
  obtain ⟨hFirst, hSecond, ⟨table, copy, hBody, hCopy, hTable⟩, hCursors⟩ := hTwins
  have hHere := hFirst.performs hOpens hProvides hSet hBody hGoverns hFits
  have hThere := hSecond.performs hOpens hProvides hSet hCopy hGoverns hFits
  rw [hCursors] at hThere
  have hPaired := hFirst.paired_table hSecond hOpens hSet hBody hFits.item hCopy hTable
  have hEffect := effect_corresponds hPaired set (first.cursors set) use fun item hItem => by
    rw [hItem]
    exact hFirst.suits hSecond hOpens hSet hBody hGoverns (hFits.item item hItem)
  refine ⟨?_, hHere.serves, hThere.serves, ⟨_, _, hHere.body, hThere.body, ?_⟩, ?_⟩
  · rw [hHere.told, hThere.told]
    exact seen_eq (hFirst.follows.asked hOpens use.item?).1 (hSecond.follows.asked hOpens use.item?).1
      (hEffect.told.mono fun _ _ hPaired => hPaired.alike)
  · refine hEffect.table.mono fun ref hRef copied hCopied hPaired => ?_
    rw [hHere.origins ref hRef, hThere.origins copied hCopied]
    exact hPaired.alike.origin
  · rw [hHere.cursors, hThere.cursors, hEffect.cursors]

/-- So it is in a run and in one that leaves out some of what is done with other sets. -/
theorem filter (hSet : set ∈ scene.sets) (stays : SetStep → Bool)
    (hStays : ∀ step : SetStep, step.set = set → stays step = true) (hSteps : ∀ step ∈ steps, step.Fits scene owned) :
    SetStep.toldOf set (steps.filter stays) second = SetStep.toldOf set steps first ∧
      scene.Twins owned set (SetStep.runAll steps first) (SetStep.runAll (steps.filter stays) second) := by
  induction steps generalizing first second with
  | nil => exact ⟨rfl, hTwins⟩
  | cons step rest ih =>
    obtain ⟨⟨hThere, hFits⟩, hRest⟩ := List.forall_mem_cons.mp hSteps
    by_cases hSame : step.set = set
    · subst hSame
      obtain ⟨hTold, hAfter⟩ := hTwins.together hOpens hGoverns hProvides hSet hFits
      obtain ⟨hLater, hLast⟩ := ih hAfter hRest
      rw [List.filter_cons_of_pos (hStays step rfl), SetStep.toldOf_cons_self, SetStep.toldOf_cons_self, hLater, hTold]
      exact ⟨rfl, hLast⟩
    · have hHere := hTwins.here.elsewhere hOpens hGoverns hProvides hSet hThere (Ne.symm hSame) hFits
      rw [SetStep.toldOf_cons_other hSame]
      cases hStay : stays step with
      | true =>
        have hCopied := hTwins.there.elsewhere hOpens hGoverns hProvides hSet hThere (Ne.symm hSame) hFits
        rw [List.filter_cons_of_pos hStay, SetStep.toldOf_cons_other hSame]
        exact ih (hTwins.spared hHere.1 hCopied.1 hHere.2 hCopied.2) hRest
      | false =>
        rw [List.filter_cons_of_neg (by rw [hStay]; exact Bool.false_ne_true)]
        exact ih (hTwins.spared hHere.1 hTwins.there hHere.2 (.refl second)) hRest

end Twins

end Scene

end HeapBridge
