import HeapBridge.Proofs.Scenes.Leaving
import HeapBridge.Proofs.Sets.Classes
/-!
Sets in use. A scene says with which world the use of some sets begins, which objects are elements or may become
elements, and how these behave: what they hash to and compare to, which is always the same and changes nothing.
A world follows the scene if nothing has become of the objects that were there, but that some are gone and that
the sets have other elements.
-/
namespace HeapBridge

open Host (Body Context Fault Heap HostM Object Ref SetTable)

/-- By what an object is known while sets are used: which it is, if it was there when that began, and
otherwise what it was made with. -/
inductive Origin where
  | known (ref : Ref)
  | made (body : Body)

/-- How elements behave. -/
structure Conduct where
  /-- Which objects are concerned. -/
  items : Origin → Prop
  hash : Origin → Except Fault Int
  /-- What comparing an element with an object answers. -/
  equal : Origin → Origin → Except Fault Bool
  /-- The report of a fault. -/
  text : Fault → String

/-- Whether an object fails in a way when it is looked for. -/
inductive Conduct.Fails (conduct : Conduct) (origin : Origin) (fault : Fault) : Prop where
  | hash (hFault : conduct.hash origin = .error fault)
  | equal {element : Origin} (hElement : conduct.items element)
    (hFault : conduct.equal element origin = .error fault)

/-- A world in which there are sets. -/
structure Scene where
  start : World
  sets : Set Ref
  conduct : Conduct

namespace Scene

variable {scene : Scene} {world before after : World} {ref set : Ref} {refs : List Ref} {touched : Set Ref}

def origin (scene : Scene) (world : World) (ref : Ref) : Origin :=
  match ref with
  | .atom value => .known (.atom value)
  | .object address =>
    if address < scene.start.host.cells.size then .known (.object address)
    else .made (world.host.body (.object address))

/-- The body of an object of that origin, unless it is one of the sets. -/
def bodyOf (scene : Scene) : Origin → Body
  | .known ref => scene.start.host.body ref
  | .made body => body

/-- Whether a world is one to which the use of the sets leads. -/
structure Follows (scene : Scene) (world : World) : Prop where
  leaves : World.Leaves scene.sets scene.start world
  /-- Each of the sets is a set still, unless it is gone. -/
  table : ∀ set ∈ scene.sets, world.host.isLive set = true →
    ∃ table, world.host.view set = { scene.start.host.view set with body := .set table }
  /-- What was made meanwhile is of a built-in type. -/
  made : ∀ address object, scene.start.host.cells.size ≤ address →
    world.host.object? address = some object → object = { body := object.body }
  /-- What is referred to is there. -/
  whole : ∀ ref, world.isReferenced ref = true → world.host.isLive ref = true
  /-- No storage is going to be refused. -/
  unrefused : true ∉ world.refusals

/-- Whether the objects concerned behave as the scene says wherever the use of the sets leads, whatever
these hold there, and change nothing. -/
structure Governs (scene : Scene) : Prop where
  hash : ∀ world, scene.Follows world → ∀ ref, world.host.isLive ref = true →
    scene.conduct.items (scene.origin world ref) → ∀ context : Context, context.nesting ≤ 1 →
      ∃ after, (Host.ops.hash ref).eval context world =
        (scene.conduct.hash (scene.origin world ref), after) ∧ world.Undisturbed after
  equal : ∀ world, scene.Follows world → ∀ element ref, world.host.isLive element = true →
    world.host.isLive ref = true → scene.conduct.items (scene.origin world element) →
      scene.conduct.items (scene.origin world ref) → ∀ context : Context, context.nesting ≤ 1 →
        ∃ after, (Host.equal Host.ops element ref).eval context world =
          (scene.conduct.equal (scene.origin world element) (scene.origin world ref), after) ∧
            world.Undisturbed after
  /-- A set that has no hash is none of the sets, and what is looked for instead is concerned, too. -/
  frozen : ∀ origin, scene.conduct.items origin → ∀ table, scene.bodyOf origin = .set table →
    ∀ fault, scene.conduct.Fails origin fault → fault.exception = "TypeError" →
      (∀ set ∈ scene.sets, origin ≠ .known set) ∧ scene.conduct.items (.made (.frozenset table.copied))
  report : ∀ world, scene.Follows world → ∀ origin, scene.conduct.items origin →
    ∀ fault, scene.conduct.Fails origin fault →
      (world.textFrom (Host.report Host.ops fault)).1 = scene.conduct.text fault ∧
        world.Undisturbed (world.textFrom (Host.report Host.ops fault)).2
  /-- To be told that it is about to be given up makes no difference to an object. -/
  ends : ∀ world, scene.Follows world → ∀ address, Host.isAbandoned address world = true →
    ∀ (level : Nat) (context : Context),
      (Host.giveUp address ((Host.finalize (.ofDepth level) address).eval context world).2).1 =
          (Host.giveUp address world).1 ∧
        (Host.giveUp address world).2.Undisturbed
          (Host.giveUp address ((Host.finalize (.ofDepth level) address).eval context world).2).2

/-- Whether the use of the sets can begin: they are there, leave it to sets what is done with them, and
hold objects that are concerned. -/
structure Opens (scene : Scene) : Prop where
  follows : scene.Follows scene.start
  live : ∀ set ∈ scene.sets, scene.start.host.isLive set = true
  leaves : ∀ set ∈ scene.sets, scene.start.host.LeavesToSets set ∧
    scene.start.host.scripted? set "__iter__" = none
  elements : ∀ set ∈ scene.sets, ∀ table, scene.start.host.body set = .set table →
    ∀ ref ∈ table.toList, scene.conduct.items (scene.origin scene.start ref)

/-! What objects are known by. -/

theorem origin_eq (hBody : after.host.body ref = before.host.body ref) :
    scene.origin after ref = scene.origin before ref := by
  cases ref with
  | atom value => rfl
  | object address => rw [origin, origin, hBody]

/-- Objects that were there are known by which they are. -/
theorem origin_of_old {address : Nat} (hOld : address < scene.start.host.cells.size) (world : World) :
    scene.origin world (.object address) = .known (.object address) := if_pos hOld

theorem origin_of_new {address : Nat} (hNew : scene.start.host.cells.size ≤ address) (world : World) :
    scene.origin world (.object address) = .made (world.host.body (.object address)) :=
  if_neg (Nat.not_lt.mpr hNew)

/-- What lives from the start is known as itself. -/
theorem origin_of_live (hLive : scene.start.host.isLive ref = true) (world : World) :
    scene.origin world ref = .known ref := by
  cases ref with
  | atom value => rfl
  | object address =>
    obtain ⟨object, hObject⟩ := Option.isSome_iff_exists.mp hLive
    exact origin_of_old (Heap.lt_size_of_object? hObject) world

section Sets

variable (hOpens : scene.Opens) (hSet : set ∈ scene.sets)

include hOpens hSet

/-- The sets were there from the start. -/
theorem Opens.exists_address : ∃ address < scene.start.host.cells.size, set = .object address := by
  obtain ⟨table, hView⟩ := hOpens.follows.table set hSet (hOpens.live set hSet)
  cases set with
  | atom value =>
    have hBody : Body.set table = _ := (congrArg Object.body hView).symm
    cases value <;> cases hBody
  | object address =>
    obtain ⟨object, hObject⟩ := Option.isSome_iff_exists.mp (hOpens.live _ hSet)
    exact ⟨address, Heap.lt_size_of_object? hObject, rfl⟩

theorem Opens.origin_set (world : World) : scene.origin world set = .known set := by
  obtain ⟨address, hOld, rfl⟩ := hOpens.exists_address hSet
  exact origin_of_old hOld world

end Sets

namespace Follows

theorem exists_table (hFollows : scene.Follows world) (hSet : set ∈ scene.sets)
    (hLive : world.host.isLive set = true) : ∃ table, world.host.body set = .set table := by
  obtain ⟨table, hView⟩ := hFollows.table set hSet hLive
  exact ⟨table, congrArg Object.body hView⟩

/-- The classes of the sets leave to sets what they left to sets at the start. -/
theorem leavesToSets (hFollows : scene.Follows world) (hOpens : scene.Opens) (hSet : set ∈ scene.sets)
    (hLive : world.host.isLive set = true) :
    world.host.LeavesToSets set ∧ world.host.scripted? set "__iter__" = none := by
  obtain ⟨table, hView⟩ := hFollows.table set hSet hLive
  obtain ⟨old, hOld⟩ := hOpens.follows.exists_table hSet (hOpens.live set hSet)
  obtain ⟨hLeaves, hIterates⟩ := hOpens.leaves set hSet
  have hScript : world.host.script? set = scene.start.host.script? set := by
    rw [Heap.script?, Heap.script?, hView, hFollows.leaves.scripts]
  refine ⟨hLeaves.update hScript hView (by rw [hOld]; rfl), ?_⟩
  rwa [Heap.scripted?, hScript]

/-- An element of a set is there as long as the set is. -/
theorem isLive_element {table : SetTable} (hFollows : scene.Follows world)
    (hLive : world.host.isLive set = true) (hBody : world.host.body set = .set table)
    (hElement : ref ∈ table.toList) : world.isReferenced ref = true ∧ world.host.isLive ref = true := by
  have hReferenced : world.isReferenced ref = true := by
    apply World.isReferenced_of_refersTo
    apply Host.refersTo_of_element hLive _ hElement
    rw [hBody]
    rfl
  exact ⟨hReferenced, hFollows.whole ref hReferenced⟩

/-- A world follows as well if it does not differ in more than that, and what is referred to is there. -/
theorem next (hFollows : scene.Follows before) (hLeaves : World.Leaves scene.sets scene.start after)
    (hTable : ∀ set ∈ scene.sets, after.host.isLive set = true → before.host.isLive set = true ∧
      (after.host.view set = before.host.view set ∨
        ∃ table, after.host.view set = { before.host.view set with body := .set table }))
    (hMade : ∀ address object, scene.start.host.cells.size ≤ address →
      after.host.object? address = some object →
        before.host.object? address = some object ∨ object = { body := object.body })
    (hWhole : ∀ ref, after.isReferenced ref = true → after.host.isLive ref = true)
    (hRefusals : after.refusals ⊆ before.refusals) : scene.Follows after where
  leaves := hLeaves
  table set hSet hLive := by
    obtain ⟨hBefore, hView⟩ := hTable set hSet hLive
    obtain ⟨old, hOld⟩ := hFollows.table set hSet hBefore
    rcases hView with hSame | ⟨table, hNew⟩
    · exact ⟨old, hSame.trans hOld⟩
    · exact ⟨table, by rw [hNew, hOld]⟩
  made address object hNew hObject := by
    rcases hMade address object hNew hObject with hBefore | hFresh
    · exact hFollows.made address object hNew hBefore
    · exact hFresh
  whole := hWhole
  unrefused hRefused := hFollows.unrefused (hRefusals hRefused)

/-- Other things may be held that are there. -/
theorem of_held (hFollows : scene.Follows world) {held : List Ref}
    (hHeld : ∀ ref ∈ held, world.host.isLive ref = true) : scene.Follows { world with held } where
  leaves := hFollows.leaves.trans (.aside rfl rfl)
  table := hFollows.table
  made := hFollows.made
  whole ref hReferenced := by
    rcases World.isReferenced_iff.mp hReferenced with hThere | hMentions
    · exact hHeld ref hThere
    · have hShrinks : world.Shrinks { world with held } := .aside rfl rfl rfl rfl
      exact hFollows.whole ref (World.isReferenced_iff.mpr (.inr (hShrinks.mentions hMentions)))
  unrefused := hFollows.unrefused

theorem isLive_of_held (hFollows : scene.Follows world) (hHeld : ref ∈ world.held) :
    world.host.isLive ref = true := hFollows.whole ref (World.isReferenced_iff.mpr (.inl hHeld))

theorem holdAll (hFollows : scene.Follows world) (hRefs : ∀ ref ∈ refs, world.host.isLive ref = true) :
    scene.Follows (world.holdAll refs) := by
  apply hFollows.of_held
  intro ref hRef
  rcases List.mem_append.mp hRef with hNew | hOld
  · exact hRefs ref hNew
  · exact hFollows.isLive_of_held hOld

theorem unhold (hFollows : scene.Follows world) (ref : Ref) : scene.Follows (world.unhold ref) :=
  hFollows.of_held fun _ hRef => hFollows.isLive_of_held (List.mem_of_mem_erase hRef)

/-- Scenes go on as long as nothing in them is disturbed. -/
theorem undisturbed (hFollows : scene.Follows before) (hCalm : before.Undisturbed after) :
    scene.Follows after := by
  apply hFollows.next (hFollows.leaves.trans hCalm.leaves)
  · intro set _ hLive
    exact ⟨hCalm.isLive_eq set ▸ hLive, .inl (hCalm.view_eq set)⟩
  · intro address object _ hObject
    exact .inl (hCalm.object address ▸ hObject)
  · intro ref hReferenced
    rw [hCalm.isLive_eq]
    exact hFollows.whole ref (hCalm.isReferenced_iff.mp hReferenced)
  · rw [hCalm.aside]
    exact List.Subset.refl _

end Follows

/-- The use of sets can begin that leave it to sets, in a world in which what is referred to is there. -/
theorem opens_of {start : World} {sets : Set Ref} {conduct : Conduct}
    (hSets : ∀ set ∈ sets, ∃ table, start.host.body set = .set table ∧ ∀ ref ∈ table.toList, conduct.items (.known ref))
    (hLeaves : ∀ set ∈ sets, start.host.LeavesToSets set ∧ start.host.scripted? set "__iter__" = none)
    (hWhole : start.IsWhole) (hUnrefused : true ∉ start.refusals) : Scene.Opens ⟨start, sets, conduct⟩ := by
  have hFollows : Scene.Follows ⟨start, sets, conduct⟩ start := by
    refine ⟨.refl start, fun set hSet _ => ?_, fun address object hNew hObject => ?_, hWhole, hUnrefused⟩
    · obtain ⟨table, hBody, _⟩ := hSets set hSet
      exact ⟨table, by rw [← hBody]; rfl⟩
    · exact absurd (Heap.lt_size_of_object? hObject) (Nat.not_lt.mpr hNew)
  refine ⟨hFollows, fun set hSet => ?_, hLeaves, fun set hSet table hBody ref hRef => ?_⟩
  · obtain ⟨table, hBody, _⟩ := hSets set hSet
    exact Heap.isLive_of_body hBody
  · obtain ⟨other, hSame, hItems⟩ := hSets set hSet
    obtain rfl : other = table := by
      rw [hSame] at hBody
      cases hBody
      rfl
    rw [origin_of_live (hFollows.isLive_element (Heap.isLive_of_body hBody) hBody hRef).2]
    exact hItems ref hRef

end Scene

end HeapBridge
