import HeapBridge.Proofs.Teardown.Reachability
/-!
Confluence of teardowns. In every session, after any commands, everything that there is to drop can be
dropped in any order and in any of the ways that there are. As long as no object owns itself, and none
wants to be told before it is given up, it all comes to the same: just those objects are left that are
kept by what no owner drops, every other native object has come to its end once, and both heaps are what
they are after any other order.
-/
namespace HeapBridge

open Host (Ref)

variable {before after other : Session} {address : Nat} {ends : List End}

/-- Two heaps are the same if each address has the same object in both. -/
theorem Host.Heap.ext_object? {heap other : Host.Heap} (hSize : heap.cells.size = other.cells.size)
    (hScripts : heap.scripts = other.scripts)
    (hObjects : ∀ address, heap.object? address = other.object? address) : heap = other := by
  obtain ⟨cells, scripts⟩ := heap
  obtain ⟨otherCells, otherScripts⟩ := other
  obtain rfl : scripts = otherScripts := hScripts
  have hCells : cells = otherCells := by
    refine Array.ext hSize fun address hIn hOther => ?_
    have hObject := hObjects address
    simpa only [object?, Array.getElem?_eq_getElem hIn, Array.getElem?_eq_getElem hOther,
      Option.join_some] using hObject
  rw [hCells]

/-- Two native heaps are the same if each address has the same cell in both. -/
theorem Native.Heap.ext_cell? {heap other : Native.Heap} (hSize : heap.cells.size = other.cells.size)
    (hCells : ∀ address, heap.cell? address = other.cell? address) : heap = other := by
  obtain ⟨cells⟩ := heap
  obtain ⟨otherCells⟩ := other
  refine congrArg Native.Heap.mk (Array.ext hSize fun address hIn hOther => ?_)
  have hCell := hCells address
  simpa only [cell?, Array.getElem?_eq_getElem hIn, Array.getElem?_eq_getElem hOther,
    Option.join_some] using hCell

namespace Session

namespace Drains

/-- A native object that is left has as many references as the handles that are left own. -/
theorem retainCount_eq (hDrains : Drains before after) (hBalanced : before.account.Balanced)
    (address : Nat) : after.world.native.retainCount address =
      (after.world.host.cells.toList.map fun cell => cell.elim 0 (·.owns address)).sum := by
  have hCount := (hDrains.fades.balanced hBalanced).retainCount_eq address
  change after.world.native.retainCount address =
    (after.holdings + after.world.host.holdings).count (.reference address) at hCount
  rw [hCount, hDrains.holdings_eq_zero, zero_add, Host.Heap.count_holdings]

/-- Host objects that are left are the same after all teardowns after which the same are left. -/
theorem host_eq (hDrains : Drains before after) (hOther : Drains before other)
    (hSame : ∀ node, after.world.Has node ↔ other.world.Has node) :
    after.world.host = other.world.host := by
  have hShrinks := hDrains.fades.shrinks
  have hOthers := hOther.fades.shrinks
  refine Host.Heap.ext_object? (hShrinks.sizes.1.trans hOthers.sizes.1.symm)
    (hShrinks.scripts.trans hOthers.scripts.symm) fun address => ?_
  by_cases hHas : after.world.Has (.host address)
  · exact (hShrinks.object?_eq hHas).trans (hOthers.object?_eq ((hSame _).mp hHas)).symm
  · have hNone : ¬ other.world.Has (.host address) := fun hLeft => hHas ((hSame _).mpr hLeft)
    rw [World.not_has_host.mp hHas, World.not_has_host.mp hNone]

/-- So are the cells of the native heap. -/
theorem cell?_of_cell? (hDrains : Drains before after) (hOther : Drains before other)
    (hBalanced : before.account.Balanced) (hSame : ∀ node, after.world.Has node ↔ other.world.Has node)
    {cell : Native.Cell} (hCell : after.world.native.cell? address = some cell) :
    other.world.native.cell? address = some cell := by
  cases cell with
  | live object =>
    have hObject := Native.Heap.object?_eq_some_iff.mpr hCell
    obtain ⟨left, hLeft⟩ := (hSame (.native address)).mp ⟨object, hObject⟩
    obtain ⟨old, hOld, hPayload⟩ := hDrains.fades.shrinks.native hObject
    obtain ⟨found, hFound, hLeftPayload⟩ := hOther.fades.shrinks.native hLeft
    obtain rfl := Option.some.inj (hOld.symm.trans hFound)
    have hCount := hDrains.retainCount_eq hBalanced address
    have hLeftCount := hOther.retainCount_eq hBalanced address
    rw [hDrains.host_eq hOther hSame, ← hLeftCount, Native.Heap.retainCount_of_object? hObject,
      Native.Heap.retainCount_of_object? hLeft] at hCount
    rw [← Native.Heap.object?_eq_some_iff, hLeft]
    obtain ⟨retainCount, payload⟩ := object
    obtain ⟨leftCount, leftPayload⟩ := left
    obtain rfl : retainCount = leftCount := hCount
    obtain rfl : payload = leftPayload := hPayload.symm.trans hLeftPayload
    rfl
  | reserved nativeClass =>
    obtain ⟨old, hOld, hContent⟩ := hDrains.fades.shrinks.cell address _ hCell
    obtain rfl : old = .reserved nativeClass := by
      cases old with
      | reserved _ => exact congrArg Native.Cell.reserved (Sum.inl.inj hContent)
      | live _ => cases hContent
    refine hOther.fades.clears.stray address nativeClass hOld fun hStorage => ?_
    rcases hDrains.fades.clears.owned address hStorage with hOwned | hNone
    · change _ ∈ after.holdings at hOwned
      rw [hDrains.holdings_eq_zero] at hOwned
      exact Multiset.notMem_zero _ hOwned
    · change after.world.native.cell? address = none at hNone
      rw [hCell] at hNone
      cases hNone

/-- The same objects are left, so the native heaps are the same. -/
theorem native_eq (hDrains : Drains before after) (hOther : Drains before other)
    (hBalanced : before.account.Balanced)
    (hSame : ∀ node, after.world.Has node ↔ other.world.Has node) :
    after.world.native = other.world.native := by
  refine Native.Heap.ext_cell? ?_ fun address => ?_
  · exact hDrains.fades.shrinks.sizes.2.trans hOther.fades.shrinks.sizes.2.symm
  · refine Option.ext fun cell => ⟨hDrains.cell?_of_cell? hOther hBalanced hSame, ?_⟩
    exact hOther.cell?_of_cell? hDrains hBalanced fun node => (hSame node).symm

end Drains

/-- What a teardown comes to, from the session before it to the one after it: the ends that native objects
come to. -/
structure TornDown (before after : Session) (ends : List End) : Prop where
  /-- Nothing is left to be dropped, and nothing is held from outside. -/
  drained : after.remaining = [] ∧ after.world.held = []
  /-- Each step on the way takes references only from native objects that are there, -/
  fades : Fades before.account after.account
  /-- and a host object is there as long as anything refers to it. -/
  there : ∀ middle, Fades before.account middle → ∀ ref, before.world.host.isLive ref = true →
    middle.world.isReferenced ref = true → middle.world.host.isLive ref = true
  /-- No native object ends twice. -/
  once : (ends.map (·.1)).Nodup
  /-- Just those end that are not kept by what no owner drops. -/
  ended : ∀ entry, entry ∈ ends ↔ ¬ before.Keeps (.native entry.1) ∧
    ∃ object, before.world.native.object? entry.1 = some object ∧ object.payload = entry.2
  /-- Each ends in a step that takes its last reference, and a proxy gives up its host value just then. -/
  last : ∀ entry ∈ ends, ∃ middle next, Fades before.account middle ∧ Fade.Ends middle next entry ∧
    Fades next after.account
  /-- The record tells of these ends and of no other. -/
  records : before.world.Records after.world ends
  /-- A native object that is kept is owned by the handles that are kept. -/
  native : ∀ address object, before.world.native.object? address = some object →
    before.Keeps (.native address) → after.world.native.object? address = some { object with
      retainCount := (after.world.host.cells.toList.map fun cell => cell.elim 0 (·.owns address)).sum }
  /-- A host object that is kept is as it was, -/
  host : ∀ address, before.Keeps (.host address) →
    after.world.host.object? address = before.world.host.object? address
  /-- and the others are gone. -/
  gone : ∀ address, ¬ before.Keeps (.host address) → after.world.host.object? address = none

/-- A native object that is kept is left, with its payload. -/
theorem Drains.exists_left (hDrains : Drains before after) (hAcyclic : before.world.Acyclic)
    (hBalanced : before.account.Balanced) (hSettled : after.Settled) (hSwept : after.world.Swept)
    {object : Native.Object} (hObject : before.world.native.object? address = some object)
    (hKeeps : before.Keeps (.native address)) :
    ∃ left, after.world.native.object? address = some left ∧ left.payload = object.payload := by
  have hHas : after.world.Has (.native address) ↔ _ :=
    hDrains.has_iff hAcyclic hBalanced hSettled hSwept
  obtain ⟨left, hLeft⟩ := hHas.mpr ⟨⟨object, hObject⟩, hKeeps⟩
  obtain ⟨old, hOld, hPayload⟩ := hDrains.fades.shrinks.native hLeft
  obtain rfl := Option.some.inj (hObject.symm.trans hOld)
  exact ⟨left, hLeft, hPayload.symm⟩

/-- Native objects that are not kept come to their ends, and no others. -/
theorem Drains.mem_ends_iff (hDrains : Drains before after) (hAcyclic : before.world.Acyclic)
    (hBalanced : before.account.Balanced) (hSettled : after.Settled) (hSwept : after.world.Swept)
    (hOutlives : before.world.Outlives after.world ends) (hEnded : ∀ entry ∈ ends, ∃ middle next,
      Fades before.account middle ∧ Fade.Ends middle next entry ∧ Fades next after.account)
    (entry : End) : entry ∈ ends ↔ ¬ before.Keeps (.native entry.1) ∧
      ∃ object, before.world.native.object? entry.1 = some object ∧ object.payload = entry.2 := by
  constructor
  · intro hEntry
    obtain ⟨middle, next, hMiddle, hEnds, _⟩ := hEnded entry hEntry
    obtain ⟨old, hOld, hPayload⟩ := hMiddle.shrinks.native hEnds.last
    refine ⟨fun hKeeps => ?_, old, hOld, hPayload⟩
    obtain ⟨left, hLeft, _⟩ := hDrains.exists_left hAcyclic hBalanced hSettled hSwept hOld hKeeps
    have hVacant := Native.Heap.object?_of_vacant (hOutlives.gone entry hEntry).1
    rw [hLeft] at hVacant
    cases hVacant
  · rintro ⟨hUnkept, object, hObject, hPayload⟩
    have hHas : after.world.Has (.native entry.1) ↔ _ :=
      hDrains.has_iff hAcyclic hBalanced hSettled hSwept
    have hEnd := (hOutlives.kept entry.1 object hObject).resolve_right fun ⟨left, hLeft, _⟩ =>
      hUnkept (hHas.mp ⟨left, hLeft⟩).2
    rwa [hPayload] at hEnd

/-- When everything has been dropped, whatever is not kept has come to its end. -/
theorem Drains.exists_tornDown (hDrains : Drains before after) (hAcyclic : before.world.Acyclic)
    (hBalanced : before.account.Balanced) (hSettled : after.Settled) (hSwept : after.world.Swept) :
    ∃ ends, TornDown before after ends := by
  obtain ⟨ends, hOutlives, hEnded⟩ := hDrains.fades.exists_ends hBalanced
  have hHas (node : Node) : after.world.Has node ↔ before.world.Has node ∧ before.Keeps node :=
    hDrains.has_iff hAcyclic hBalanced hSettled hSwept
  refine ⟨ends, ?_⟩
  exact {
    drained := ⟨hDrains.remaining_eq_nil, hDrains.held_eq_nil hSettled⟩
    fades := hDrains.fades
    there := fun middle hFades ref => hFades.isLive
    once := hOutlives.once
    ended := hDrains.mem_ends_iff hAcyclic hBalanced hSettled hSwept hOutlives hEnded
    last := hEnded
    records := hOutlives.records
    native := by
      intro address object hObject hKeeps
      obtain ⟨⟨retainCount, payload⟩, hLeft, rfl⟩ :=
        hDrains.exists_left hAcyclic hBalanced hSettled hSwept hObject hKeeps
      have hCount := hDrains.retainCount_eq hBalanced address
      rw [Native.Heap.retainCount_of_object? hLeft] at hCount
      rw [hLeft, ← hCount]
    host := by
      intro address hKeeps
      by_cases hLive : before.world.Has (.host address)
      · exact hDrains.fades.shrinks.object?_eq ((hHas (.host address)).mpr ⟨hLive, hKeeps⟩)
      · have hNone : ¬ after.world.Has (.host address) := fun hLeft => hLive ((hHas _).mp hLeft).1
        rw [World.not_has_host.mp hLive, World.not_has_host.mp hNone]
    gone := fun address hUnkept => World.not_has_host.mp fun hLeft => hUnkept ((hHas _).mp hLeft).2 }

/-- Whether releases drop everything that a session has to drop, each in a way that suits. -/
structure Discharges (session : Session) (releases : List Release) : Prop where
  complete : (releases.map Release.owner).Perm session.remaining
  suited : ∀ release ∈ releases, release.suits session = true

instance (session : Session) (releases : List Release) : Decidable (session.Discharges releases) :=
  decidable_of_iff ((releases.map Release.owner).Perm session.remaining ∧
    ∀ release ∈ releases, release.suits session = true)
    ⟨fun ⟨hComplete, hSuited⟩ => ⟨hComplete, hSuited⟩, fun h => ⟨h.complete, h.suited⟩⟩

def tearDown (releases : List Release) (session : Session) : Session :=
  (performAll (releases.map Release.command) session).2

/-- What all ways to tear a session down have in common. -/
structure Confluent (session : Session) : Prop where
  /-- Everything can be dropped. -/
  possible : ∃ releases, session.Discharges releases
  /-- In whichever order and in whichever ways it is dropped, just what is kept is left, -/
  complete : ∀ releases, session.Discharges releases →
    ∃ ends, TornDown session (session.tearDown releases) ends
  /-- the same native objects come to their ends, -/
  ends : ∀ releases others ends otherEnds, TornDown session (session.tearDown releases) ends →
    TornDown session (session.tearDown others) otherEnds → ends.Perm otherEnds
  /-- and the record tells of the same ends, -/
  records : ∀ releases others, session.Discharges releases → session.Discharges others →
    (session.tearDown releases).world.destroyed.Perm (session.tearDown others).world.destroyed ∧
      (session.tearDown releases).world.log.count .setReleased =
        (session.tearDown others).world.log.count .setReleased
  /-- and both heaps are the same. -/
  heaps : ∀ releases others, session.Discharges releases → session.Discharges others →
    (session.tearDown releases).world.host = (session.tearDown others).world.host ∧
      (session.tearDown releases).world.native = (session.tearDown others).world.native

theorem exists_discharges (session : Session) : ∃ releases, session.Discharges releases := by
  refine ⟨session.remaining.map Owner.release, ?_, fun release hRelease => ?_⟩
  · simp [Function.comp_def]
  · obtain ⟨owner, _, rfl⟩ := List.mem_map.mp hRelease
    exact owner.suits_release session

/-- The same native objects come to their ends in all teardowns. -/
theorem TornDown.perm_ends {otherEnds : List End} (hTorn : TornDown before after ends)
    (hOther : TornDown before other otherEnds) : ends.Perm otherEnds := by
  refine (List.perm_ext_iff_of_nodup hTorn.once.of_map hOther.once.of_map).mpr fun entry => ?_
  rw [hTorn.ended, hOther.ended]

/-- A session in which no object owns itself, and none has to be told before it is given up, is torn down
to the same in all ways. -/
theorem confluent_of_acyclic {session : Session} (hAcyclic : session.world.Acyclic)
    (hMute : session.world.host.Mute) (hBalanced : session.account.Balanced)
    (hSettled : session.Settled) (hSwept : session.world.Swept) : Confluent session := by
  have hDrains (releases : List Release) (hDischarges : session.Discharges releases) :
      Drains session (session.tearDown releases) := by
    refine drains_performAll (fun owner => ?_) hDischarges.suited hBalanced hSettled hMute
    rw [hDischarges.complete.count_eq, count_remaining]
  have hLeft (releases : List Release) : (session.tearDown releases).Settled ∧
      (session.tearDown releases).world.Swept :=
    ⟨settled_performAll _ hSettled, swept_performAll hSwept _⟩
  have hTorn (releases : List Release) (hDischarges : session.Discharges releases) :
      ∃ ends, TornDown session (session.tearDown releases) ends :=
    (hDrains releases hDischarges).exists_tornDown hAcyclic hBalanced (hLeft releases).1
      (hLeft releases).2
  refine ⟨exists_discharges session, hTorn, fun _ _ _ _ => TornDown.perm_ends,
    fun releases others hReleases hOthers => ?_, fun releases others hReleases hOthers => ?_⟩
  · obtain ⟨ends, hFirst⟩ := hTorn releases hReleases
    obtain ⟨otherEnds, hSecond⟩ := hTorn others hOthers
    have hPerm := hFirst.perm_ends hSecond
    constructor
    · rw [hFirst.records.destroyed, hSecond.records.destroyed]
      exact (hPerm.flatMap_right _).append_left _
    · rw [hFirst.records.released, hSecond.records.released, hPerm.countP_eq]
  · have hSame (node : Node) : (session.tearDown releases).world.Has node ↔
        (session.tearDown others).world.Has node := by
      rw [(hDrains releases hReleases).has_iff hAcyclic hBalanced (hLeft releases).1 (hLeft releases).2,
        (hDrains others hOthers).has_iff hAcyclic hBalanced (hLeft others).1 (hLeft others).2]
    exact ⟨(hDrains releases hReleases).host_eq (hDrains others hOthers) hSame,
      (hDrains releases hReleases).native_eq (hDrains others hOthers) hBalanced hSame⟩

/-- After any commands in which everything has a name, a session in which no object owns itself, and none
has to be told before it is given up, is torn down completely and to the same in all ways. -/
theorem teardown_confluent (commands : List Command)
    (hCommands : ∀ command ∈ commands, command.isNamed = true)
    (hAcyclic : (performAll commands {}).2.world.Acyclic)
    (hMute : (performAll commands {}).2.world.host.Mute) : Confluent (performAll commands {}).2 :=
  confluent_of_acyclic hAcyclic hMute (balanced_performAll hCommands balanced_empty)
    (settled_performAll commands settled_empty) (swept_performAll World.swept_empty commands)

/-- A proxy of a list with a handle for a native object, which an iterator goes over. -/
def nested : List Command :=
  [.object (.create "a" .tracked), .wrapper (.registerOwning "T" "T" .nativeObject),
    .wrapper (.toHost "T" (.native "a") (some "h")), .host (.bind "l" (.list [.slot "h"])),
    .set (.create "p" (.slot "l")), .set (.cursor "p" "i")]

/-- How far an object of these is from whatever owns it. -/
def nestedRank : Node → Nat
  | .native address => 4 - 4 * address
  | .host address => 3 - address

/-- The object is destroyed with the last of its owners, through both heaps. -/
theorem teardown_confluent_nested :
    (∀ command ∈ nested, command.isNamed = true) ∧ (performAll nested {}).2.world.Acyclic ∧
      (performAll nested {}).2.world.host.Mute ∧ Confluent (performAll nested {}).2 := by
  have hNamed : ∀ command ∈ nested, command.isNamed = true := by decide
  have hAscends : (performAll nested {}).2.world.ascends nestedRank = true := by decide +kernel
  have hMute : (performAll nested {}).2.world.host.Mute := by decide +kernel
  have hAcyclic := World.acyclic_of_ascends hAscends
  exact ⟨hNamed, hAcyclic, hMute, teardown_confluent nested hNamed hAcyclic hMute⟩

/-- A handle for a native object. -/
def handled : List Command :=
  [.object (.create "a" .tracked), .wrapper (.registerOwning "T" "T" .nativeObject),
    .wrapper (.toHost "T" (.native "a") (some "h"))]

/-- A converter that always answers the same handle. -/
def answered : List Command := handled ++ [.wrapper (.register "U" "U" (.constant (.slot "h")) .number)]

/-- A class of which a method always gives the same handle. -/
def given : List Command :=
  handled ++ [.host (.bind "x" (.scripted "X" .plain none [("m", .give (.slot "h"))]))]

/-- Whether a native object is left after everything was dropped. -/
structure Outlasts (commands : List Command) (releases : List Release) : Prop where
  named : ∀ command ∈ commands, command.isNamed = true
  acyclic : (performAll commands {}).2.world.Acyclic
  mute : (performAll commands {}).2.world.host.Mute
  discharges : (performAll commands {}).2.Discharges releases
  drained : ((performAll commands {}).2.tearDown releases).remaining = []
  left : ((performAll commands {}).2.tearDown releases).world.native.object? 0 =
    some { retainCount := 1, payload := .tracked "a" }
  destroyed : ((performAll commands {}).2.tearDown releases).world.destroyed = []

/-- Two objects that want to be told before they are given up, and then put an item into a list. -/
def told : List Command :=
  [.host (.bind "l" (.list [])),
    .host (.bind "x" (.scripted "X" .plain none [("__del__", .call "l" "append" [.int 1] .nil)])),
    .host (.bind "y" (.scripted "Y" .plain none [("__del__", .call "l" "append" [.int 2] .nil)]))]

/-- What a converter answers or a class gives outlives all owners, together with the native object that it
owns; and objects that are told before they are given up tell the order in which they are. No object owns
itself in any of the cases. -/
theorem teardown_incomplete_and_ordered :
    Outlasts answered [.object "a", .host "h"] ∧ Outlasts given [.object "a", .host "h", .host "x"] ∧
    (∀ command ∈ told, command.isNamed = true) ∧ (performAll told {}).2.world.Acyclic ∧
      (performAll told {}).2.Discharges [.host "l", .host "x", .host "y"] ∧
      (performAll told {}).2.Discharges [.host "l", .host "y", .host "x"] ∧
      ((performAll told {}).2.tearDown [.host "l", .host "x", .host "y"]).world.host ≠
        ((performAll told {}).2.tearDown [.host "l", .host "y", .host "x"]).world.host := by
  have hAnswered : (performAll answered {}).2.world.ascends nestedRank = true := by decide +kernel
  have hGiven : (performAll given {}).2.world.ascends nestedRank = true := by decide +kernel
  have hTold : (performAll told {}).2.world.ascends nestedRank = true := by decide +kernel
  have hList : ((performAll told {}).2.tearDown [.host "l", .host "x", .host "y"]).world.host.body
      (.object 0) ≠ ((performAll told {}).2.tearDown [.host "l", .host "y", .host "x"]).world.host.body
        (.object 0) := by decide +kernel
  refine ⟨⟨by decide, World.acyclic_of_ascends hAnswered, by decide +kernel, by decide +kernel,
    by decide +kernel, by decide +kernel, by decide +kernel⟩, ⟨by decide, World.acyclic_of_ascends hGiven,
    by decide +kernel, by decide +kernel, by decide +kernel, by decide +kernel, by decide +kernel⟩,
    by decide, World.acyclic_of_ascends hTold, by decide +kernel, by decide +kernel, fun hSame => hList ?_⟩
  rw [hSame]

end Session

end HeapBridge
