import HeapBridge.Proofs.Scenes.Scalars
import HeapBridge.Proofs.Scenes.Walking
import HeapBridge.Session.Run
/-!
Members. Whether a set has a value is for the set to say, which looks among the elements under one hash and is
content with the very object. Which element it is is found out by going over all elements and comparing each
with the value. The two agree where the set has no such value; where it has, the first element that is equal is
the member, unless a comparison fails before.
-/
namespace HeapBridge

open Host (Body Fault Ref SetTable)

variable {scene : Scene} {world before after : World} {set needle ref : Ref} {table : SetTable}
  {value : NativeValue} {left : List Ref} {fault : Fault}

namespace Scene

/-- What a search comes to that goes over elements and compares each with what it looks for. -/
structure Finds (scene : Scene) (world : World) (needle : Ref) (elements : List Ref) (after : World)
    (told : Except BridgeError (Option NativeValue)) : Prop where
  /-- The first element that is equal is told, if no comparison fails before, -/
  found : ∀ front ref rest, elements = front ++ ref :: rest →
    (∀ other ∈ front, scene.conduct.equal (scene.origin world other) (scene.origin world needle) = .ok false) →
      scene.conduct.equal (scene.origin world ref) (scene.origin world needle) = .ok true →
        ∃ value, told = .ok (some value) ∧ value.StandsFor after ref
  /-- the first comparison that fails is reported, if no element before is equal, -/
  failed : ∀ front ref rest fault, elements = front ++ ref :: rest →
    (∀ other ∈ front, scene.conduct.equal (scene.origin world other) (scene.origin world needle) = .ok false) →
      scene.conduct.equal (scene.origin world ref) (scene.origin world needle) = .error fault →
        told = .error (.contractViolation .member (scene.conduct.text fault))
  /-- and nothing is told if no element is equal. -/
  absent : (∀ other ∈ elements,
    scene.conduct.equal (scene.origin world other) (scene.origin world needle) = .ok false) → told = .ok none

/-- Elements that are not equal are passed over. -/
theorem firstEqual_append (front rest : List Ref) (hFront : ∀ other ∈ front,
    scene.conduct.equal (scene.origin world other) (scene.origin world needle) = .ok false) :
    scene.firstEqual world needle (front ++ rest) = scene.firstEqual world needle rest := by
  induction front with
  | nil => rfl
  | cons other front ih =>
    rw [List.cons_append, firstEqual, hFront other List.mem_cons_self]
    exact ih fun ref hRef => hFront ref (List.mem_cons_of_mem other hRef)

/-- What a member search tells is what the elements in order come to. -/
theorem Tells.finds {told : Except BridgeError (Option NativeValue)}
    (hTells : scene.Tells after (scene.firstEqual world needle left) told) :
    scene.Finds world needle left after told where
  found front ref rest hLeft hFront hEqual := by
    rw [hLeft, firstEqual_append front _ hFront, firstEqual, hEqual] at hTells
    cases hTells with
    | found hStands => exact ⟨_, rfl, hStands⟩
  failed front ref rest fault hLeft hFront hEqual := by
    rw [hLeft, firstEqual_append front _ hFront, firstEqual, hEqual] at hTells
    cases hTells
    rfl
  absent hNone := by
    rw [← List.append_nil left, firstEqual_append left [] hNone] at hTells
    cases hTells
    rfl

/-- What a search for a member does once the value has crossed. -/
def searching (set : Ref) (value : NativeValue) (needle : Ref) : BridgeM (Option NativeValue) := do
  if ← ForeignSet.contains set value then
    let limit ← ForeignSet.searchLimit set
    let iterator ← BridgeM.contract .iterate (Host.iterate Host.ops set)
    BridgeM.keeping [iterator] (ForeignSet.findEqual iterator needle limit)
  else return none

section Member

variable (hContains : scene.Contains world set table) (hOpens : scene.Opens) (hOwned : value.IsOwned world)
  (hLive : (value.crossed world).2.host.isLive (value.crossed world).1 = true)

include hContains hOpens hOwned hLive

omit hOwned in
/-- A value that has crossed can be held within the scene. -/
theorem Contains.held_crossed :
    scene.Follows ((value.crossed world).2.holdAll [(value.crossed world).1]) ∧
      world.Extends ((value.crossed world).2.holdAll [(value.crossed world).1]) := by
  obtain ⟨hFollows, hExtends⟩ := hContains.follows.crossed hOpens value
  refine ⟨hFollows.holdAll fun ref hRef => ?_, hExtends.trans (World.extends_holdAll _ _)⟩
  rw [List.mem_singleton.mp hRef]
  exact hLive

/-- A set that fails to answer has no member to tell. -/
theorem Contains.exists_member_error (hSees : scene.Sees world set value (.error fault)) :
    ∃ after, BridgeM.Yields (ForeignSet.member set value) world (scene.reported .contains (.error fault)) after := by
  obtain ⟨hFollows, hExtends⟩ := hContains.held_crossed hOpens hLive
  obtain ⟨middle, hAsked⟩ := hSees _ hExtends hFollows
  have hSearch : (searching set value (value.crossed world).1).Yields _ _ middle := hAsked.bind_error
  obtain ⟨after, hYields, _⟩ := hContains.follows.exists_crossing hOwned (searching set value) hSearch
  exact ⟨after, hYields⟩

/-- A set that has no such value has no such member. -/
theorem Contains.exists_member_absent (hSees : scene.Sees world set value (.ok false)) :
    ∃ after, BridgeM.Yields (ForeignSet.member set value) world (.ok none) after := by
  obtain ⟨hFollows, hExtends⟩ := hContains.held_crossed hOpens hLive
  obtain ⟨middle, hAsked⟩ := hSees _ hExtends hFollows
  have hSearch : (searching set value (value.crossed world).1).Yields _ _ middle := hAsked.bind .pure
  obtain ⟨after, hYields, _⟩ := hContains.follows.exists_crossing hOwned (searching set value) hSearch
  exact ⟨after, hYields⟩

/-- Where a set has the value its elements are gone over. -/
theorem Contains.exists_member_present (hGoverns : scene.Governs) (hPlain : world.IsPlain set)
    (hSet : world.Mentions set)
    (hItems : scene.conduct.items (scene.origin (value.crossed world).2 (value.crossed world).1))
    (hSees : scene.Sees world set value (.ok true)) :
    ∃ told after, BridgeM.Yields (ForeignSet.member set value) world told after ∧
      scene.Tells after (scene.firstEqual (value.crossed world).2 (value.crossed world).1 table.toList) told := by
  obtain ⟨hFollows, hExtends⟩ := hContains.held_crossed hOpens hLive
  obtain ⟨middle, hAsked⟩ := hSees _ hExtends hFollows
  have hBoth := hExtends.trans hAsked.grows.extends
  have hMiddle := hContains.extends hBoth (hFollows.grows hAsked.grows)
  have hHeld : scene.Concerns ((value.crossed world).2.holdAll [(value.crossed world).1]) (value.crossed world).1 :=
    ⟨hLive, hItems⟩
  obtain ⟨told, last, hSearch, hTells⟩ := hMiddle.exists_search hGoverns hOpens (hBoth.mentions set hSet)
    (hPlain.extends hBoth hContains.live) (hHeld.grows hAsked.grows)
  have hBothSearch : (searching set value (value.crossed world).1).Yields _ told last := hAsked.bind hSearch
  obtain ⟨after, hYields, hNative⟩ :=
    hContains.follows.exists_crossing hOwned (searching set value) hBothSearch
  refine ⟨told, after, hYields, ?_⟩
  have hOrigin : scene.firstEqual middle = scene.firstEqual (value.crossed world).2 := by
    have hSame : scene.origin middle =
        scene.origin ((value.crossed world).2.holdAll [(value.crossed world).1]) := origin_grows hAsked.grows
    funext needle elements
    induction elements with
    | nil => rfl
    | cons element rest ih =>
      rw [firstEqual, firstEqual, hSame, ih]
      rfl
  rw [hOrigin] at hTells
  refine hTells.given fun ref value hFound hStands => hStands.given ?_ hNative
  have hElement := (hContains.concerns ref (mem_of_firstEqual hFound)).live
  rw [hYields.grows.body_eq, hSearch.grows.body_eq, hBoth.body_eq hElement]

end Member

end Scene

namespace ForeignSet

/-- A member is what the set says that it has. In a scene, where comparing changes nothing: an error of the set is
an error here, a value that the set does not have is no member, and if the set has the value its elements are gone
over in order. A value of which every crossing is another number that is no number is one that no set has. -/
theorem member_agrees {scene : Scene} {world : World} {set : Ref} {table : SetTable} {value : NativeValue}
    (hGoverns : scene.Governs) (hOpens : scene.Opens) (hContains : scene.Contains world set table)
    (hSet : world.Mentions set) (hPlain : world.IsPlain set)
    (hValue : scene.Presents world value ∨ scene.IsOdd value) :
    ∃ asked after told last, (contains set value).run.run world = (asked, after) ∧
      (member set value).run.run world = (told, last) ∧
        match asked with
        | .error error => told = .error error
        | .ok false => told = .ok none
        | .ok true => scene.Finds (value.crossed world).2 (value.crossed world).1 table.toList last told := by
  rcases hValue with hPresents | hOdd
  · have hSees := hContains.sees hGoverns hOpens hPlain hPresents
    obtain ⟨after, hAsked⟩ := hContains.exists_contains hGoverns hOpens hPlain hPresents
    obtain ⟨hOwned, hLive, hItems⟩ := hPresents
    cases hLookup : scene.lookup world table value with
    | error fault =>
      rw [hLookup] at hSees hAsked
      obtain ⟨last, hMember⟩ := hContains.exists_member_error hOpens hOwned hLive hSees
      exact ⟨_, after, _, last, hAsked.run, hMember.run, rfl⟩
    | ok answer =>
      rw [hLookup] at hSees hAsked
      cases answer with
      | false =>
        obtain ⟨last, hMember⟩ := hContains.exists_member_absent hOpens hOwned hLive hSees
        exact ⟨_, after, _, last, hAsked.run, hMember.run, rfl⟩
      | true =>
        obtain ⟨told, last, hMember, hTells⟩ :=
          hContains.exists_member_present hOpens hOwned hLive hGoverns hPlain hSet hItems hSees
        exact ⟨_, after, told, last, hAsked.run, hMember.run, hTells.finds⟩
  · have hSees := hContains.sees_odd hOpens hGoverns hPlain hOdd
    obtain ⟨body, hBody, _⟩ := hOdd
    have hOwned : value.IsOwned world := by
      constructor <;> rintro _ rfl <;> cases hBody
    have hLive := (hContains.follows.makes_crossed hOpens hBody).live
    obtain ⟨after, hAsked⟩ := hSees world (.refl world) hContains.follows
    obtain ⟨last, hMember⟩ := hContains.exists_member_absent hOpens hOwned hLive hSees
    exact ⟨_, after, _, last, hAsked.run, hMember.run, rfl⟩

/-- A proxy of a set with a float that is no number and an integer. -/
def twoNumbers : List Command := [.set (.create "s" (.set [.float 0x7ff8000000000000, .int 2]))]

/-- It can be used as sets of scalars can. -/
theorem twoNumbers_collects : (Session.performAll twoNumbers {}).2.world.CollectsScalars (.object 1) ∧
    (Session.performAll twoNumbers {}).2.world.Mentions (.object 1) := by
  have hReferenced : (Session.performAll twoNumbers {}).2.world.isReferenced (.object 1) = true := by decide +kernel
  have hNothing : (Session.performAll twoNumbers {}).2.world.held = [] := by decide +kernel
  refine ⟨by decide +kernel, (World.isReferenced_iff.mp hReferenced).resolve_left ?_⟩
  rw [hNothing]
  exact List.not_mem_nil

/-- The integer is found, behind the float. -/
theorem member_agrees_twoNumbers :
    let world := (Session.performAll twoNumbers {}).2.world
    let scene := Scene.scalars world {.object 1}
    ∃ table, (scene.Governs ∧ scene.Opens ∧ scene.Contains world (.object 1) table ∧ world.Mentions (.object 1) ∧
      world.IsPlain (.object 1) ∧ (scene.Presents world (.int 2) ∨ scene.IsOdd (.int 2))) ∧
      ∃ asked after told last, (contains (.object 1) (.int 2)).run.run world = (asked, after) ∧
        (member (.object 1) (.int 2)).run.run world = (told, last) ∧
          match asked with
          | .error error => told = .error error
          | .ok false => told = .ok none
          | .ok true => scene.Finds ((NativeValue.int 2).crossed world).2 ((NativeValue.int 2).crossed world).1
              table.toList last told := by
  obtain ⟨hCollects, hMentions⟩ := twoNumbers_collects
  generalize (Session.performAll twoNumbers {}).2.world = world at hCollects hMentions
  obtain ⟨table, hBody⟩ := hCollects.exists_table
  have hContains := hCollects.contains hBody
  have hCrosses : (NativeValue.int 2).body? = some (.int 2) := rfl
  have hValue := Scene.presents_or_isOdd (fun _ hSet => Set.mem_singleton_iff.mp hSet ▸ ⟨table, hBody⟩)
    hCollects.opens hCollects.opens.follows hCrosses
  exact ⟨table, ⟨hCollects.governs, hCollects.opens, hContains, hMentions, hCollects.isPlain, hValue⟩,
    member_agrees hCollects.governs hCollects.opens hContains hMentions hCollects.isPlain hValue⟩

/-- Sets for which the search for a member differs from that of the set: one that holds a float that is no number,
one with an element that cannot be compared, one that claims to have everything, and one of which an element
gives up another one when it is compared. -/
def disagreeing : List Command :=
  [.host (.bind "n" (.float 0x7ff8000000000000)), .set (.create "p" (.set [.slot "n"])),
    .host (.bind "e" (.scripted "E" .plain none [("__hash__", .give (.int 0)), ("__eq__", .raise "ValueError" "no")])),
    .set (.create "q" (.set [.slot "e", .int 1])),
    .set (.create "r" (.scripted "S" .set none [("__contains__", .give (.bool true))])),
    .host (.bind "h" (.set [])),
    .host (.bind "a" (.scripted "A" .plain none [("__hash__", .give (.int 2))])),
    .host (.bind "b" (.scripted "B" .plain none
      [("__hash__", .give (.int 1)), ("__eq__", .call "h" "discard" [.slot "a"] (.bool false))])),
    .host (.call "h" "add" [.slot "a"] none), .host (.call "h" "add" [.slot "b"] none), .set (.create "t" (.slot "h"))]

/-- What a set contains need not be a member that is told: not the very object that is not equal to itself, none at
all if an element before it fails to be compared, none that the class of the set makes up, and none that goes while
elements are compared. -/
theorem member_disagrees :
    let world := (Session.performAll disagreeing {}).2.world
    let asks (set : Ref) (value : NativeValue) := ((contains set value).run.run world).1
    let tells (set : Ref) (value : NativeValue) := ((member set value).run.run world).1
    asks (.object 1) (.host (.object 0)) = .ok true ∧ tells (.object 1) (.host (.object 0)) = .ok none ∧
      asks (.object 3) (.int 1) = .ok true ∧ (tells (.object 3) (.int 1)).isOk = false ∧
      asks (.object 4) (.int 1) = .ok true ∧ tells (.object 4) (.int 1) = .ok none ∧
      asks (.object 5) (.host (.object 6)) = .ok true ∧ (tells (.object 5) (.host (.object 6))).isOk = false := by
  decide +kernel

end ForeignSet

end HeapBridge
