import HeapBridge.Proofs.Scenes.Removing
import HeapBridge.Proofs.Sets.Correspondence
/-!
Changing sets. Wherever a scene is followed, an object is added to a set or discarded from it as the table of the set
has it: where the search for it ends decides what becomes of the table, and a fault leaves it as it was.
-/
namespace HeapBridge

open Host (Body Context Fault Heap HostM Object Ref SetTable)
open Host.SetObject (Place)

variable {scene : Scene} {world before middle after : World} {ref set key : Ref} {refs : List Ref}
  {table left elements : SetTable} {context : Context} {hash : Int} {α β : Type}

namespace Host.SetTable

/-- An element that was put in is the only new one. -/
theorem mem_of_mem_put {index : Nat} {reusable : Option Nat} (hRef : ref ∈ (table.put hash key index reusable).toList) :
    ref = key ∨ ref ∈ table.toList := by
  have hSelf : table.Corresponds (fun ref _ => ref = key ∨ ref ∈ table.toList) table :=
    .refl fun _ hThere => .inr hThere
  have hPut : (table.put hash key index reusable).Corresponds (fun ref _ => ref = key ∨ ref ∈ table.toList)
      (table.put hash key index reusable) := hSelf.put (.inl rfl) hash index reusable
  exact List.forall₂_same.mp hPut.toList ref hRef

theorem mem_of_mem_eraseAt {index : Nat} (hRef : ref ∈ (table.eraseAt index).toList) : ref ∈ table.toList := by
  have hSelf : table.Corresponds (fun ref _ => ref ∈ table.toList) table := .refl fun _ hThere => hThere
  exact List.forall₂_same.mp (hSelf.eraseAt index).toList ref hRef

/-- What stands in some place of a table is an element of it. -/
theorem mem_of_mem_at? {index : Nat} (hRef : ref ∈ (table.at? index).toList) : ref ∈ table.toList := by
  rw [at?, Option.mem_toList] at hRef
  cases hSlot : table.slot index with
  | element hash other =>
    rw [hSlot] at hRef
    cases hRef
    exact List.mem_map_of_mem (f := Prod.snd) (mem_entries_of_slot hSlot)
  | _ =>
    rw [hSlot] at hRef
    cases hRef

/-- The table with an object stored in the place that the search for it came to. -/
def stored (table : SetTable) (hash : Int) (key : Ref) : Place → SetTable
  | .stored _ => table
  | .free index reusable => table.put hash key index reusable

/-- Whether there is an element in the place that a search came to, and the table without it. -/
def takenOut (table : SetTable) : Place → Bool × SetTable
  | .free _ _ => (false, table)
  | .stored index => (true, table.eraseAt index)

/-- What an operation makes of a table. A fault leaves it as it was. -/
def leftBy (table : SetTable) : Except Fault (α × SetTable) → SetTable
  | .ok (_, left) => left
  | .error _ => table

end Host.SetTable

/-- An object is referred to while an operation runs, and let go of afterwards. -/
theorem Host.eval_keeping_object {action : HostM α} {address : Nat} {result : Except Fault α}
    (hAction : action.eval context (world.holdAll [.object address]) = (result, middle))
    (hRelease : (Host.ops.release [.object address]).eval context (middle.unholdAll [.object address]) =
      (.ok (), after)) :
    (Host.keeping Host.ops [.object address] action).eval context world = (result, after) := by
  have hHolding : (Host.holdingAll [.object address] action).eval context world =
      (result, middle.unholdAll [.object address]) := by
    change ((action.eval context (world.holdAll [.object address])).1,
      (action.eval context (world.holdAll [.object address])).2.unholdAll [.object address]) = _
    rw [hAction]
  have hKeeping : Host.keeping Host.ops [.object address] action =
      (do
        let result ← Host.attempt (Host.holdingAll [.object address] action)
        Host.ops.release [.object address]
        Host.finish result) := rfl
  rw [hKeeping, HostM.eval_bind, HostM.eval_attempt, hHolding]
  dsimp only
  rw [HostM.eval_bind, hRelease]
  cases result <;> rfl

namespace Scene

namespace Retables

theorem of_undisturbed (hFollows : scene.Follows before) (hBody : before.host.body set = .set table)
    (hCalm : before.Undisturbed after) : scene.Retables set table before after :=
  ⟨hFollows.keeps_undisturbed hCalm, fun _ => (hCalm.body_eq set).trans hBody⟩

/-- It is so as well if nothing but other things has been done before. -/
theorem since (hRetables : scene.Retables set left middle after) (hKeeps : scene.Keeps {set} before middle) :
    scene.Retables set left before after := ⟨hKeeps.trans hRetables.keeps, hRetables.body⟩

end Retables

/-- Whether an operation on a set comes to a result and makes of the table of the set what the result says. -/
def Comes (scene : Scene) (set : Ref) (table : SetTable) (action : HostM α) (context : Context) (world : World)
    (result : Except Fault (α × SetTable)) : Prop :=
  ∃ after, action.eval context world = (result.map Prod.fst, after) ∧
    scene.Retables set (table.leftBy result) world after

namespace Comes

variable {action : HostM α} {next : α → HostM β} {value : α} {answer : Except Fault α} {fault : Fault}
  {result : Except Fault (β × SetTable)}

/-- What only looks at objects leaves the table as it was. -/
theorem of_peeks (hFollows : scene.Follows world) (hBody : world.host.body set = .set table)
    (hPeeks : action.Peeks context world answer) :
    scene.Comes set table action context world (answer.map fun value => (value, table)) := by
  obtain ⟨after, hEval, hCalm⟩ := hPeeks
  have hRetables : scene.Retables set table world after := .of_undisturbed hFollows hBody hCalm
  cases answer <;> exact ⟨after, hEval, hRetables⟩

theorem bind (hFollows : scene.Follows world) (hPeeks : action.Peeks context world (.ok value))
    (hNext : ∀ middle, world.Undisturbed middle → scene.Comes set table (next value) context middle result) :
    scene.Comes set table (action >>= next) context world result := by
  obtain ⟨middle, hEval, hCalm⟩ := hPeeks
  obtain ⟨after, hLater, hRetables⟩ := hNext middle hCalm
  refine ⟨after, ?_, hRetables.since (hFollows.keeps_undisturbed hCalm)⟩
  rw [HostM.eval_bind, hEval]
  exact hLater

theorem bind_error (hFollows : scene.Follows world) (hBody : world.host.body set = .set table)
    (hPeeks : action.Peeks context world (.error fault)) :
    scene.Comes set table (action >>= next) context world (.error fault) :=
  of_peeks hFollows hBody hPeeks.bind_error

end Comes

def discarded (scene : Scene) (world : World) (table : SetTable) (key : Ref) : Except Fault (Bool × SetTable) :=
  scene.conduct.hash (scene.origin world key) >>= fun hash =>
    (table.placeOf hash (scene.verdict world key)).map table.takenOut

def discardedFrozen (scene : Scene) (world : World) (table elements : SetTable) : Except Fault (Bool × SetTable) :=
  let frozen := Origin.made (.frozenset elements.copied)
  scene.conduct.hash frozen >>= fun hash =>
    (table.placeOf hash fun ref => scene.conduct.equal (scene.origin world ref) frozen).map table.takenOut

/-- What a set comes to from which an object is discarded. -/
def removed (scene : Scene) (world : World) (table : SetTable) (key : Ref) : Except Fault (Bool × SetTable) :=
  match scene.discarded world table key, world.host.body key with
  | .error fault, .set elements =>
    if fault.exception = "TypeError" then scene.discardedFrozen world table elements else .error fault
  | result, _ => result

def added (scene : Scene) (world : World) (table : SetTable) (key : Ref) : Except Fault (Unit × SetTable) :=
  scene.conduct.hash (scene.origin world key) >>= fun hash =>
    (table.placeOf hash (scene.verdict world key)).map fun place => ((), table.stored hash key place)

/-- Discarding fails only as asking does. -/
theorem asked_eq_discarded : scene.asked world table key = (scene.discarded world table key).map Prod.fst := by
  rw [asked, discarded]
  cases scene.conduct.hash (scene.origin world key) with
  | error fault => rfl
  | ok hash =>
    change (table.placeOf hash _).map _ = ((table.placeOf hash _).map _).map _
    rcases table.placeOf hash (scene.verdict world key) with fault | ⟨_ | _⟩ <;> rfl

namespace Contains

variable (hContains : scene.Contains world set table) (hOpens : scene.Opens) (hSet : set ∈ scene.sets)
  (hBody : world.host.body set = .set table)

include hContains hSet hBody

/-- The set gets another table with elements that are there. -/
theorem comes_setTable (hLeft : ∀ ref ∈ left.toList, world.host.isLive ref = true) :
    scene.Comes set table (Host.SetObject.setTable set left) context world (.ok ((), left)) := by
  obtain ⟨hKeeps, hNew, _⟩ := hContains.follows.keeps_setTable hSet hContains.live hLeft
  exact ⟨_, Host.SetObject.eval_setTable hBody, hKeeps, fun _ => hNew⟩

include hOpens

/-- The set gets another table, and other references are let go of. -/
theorem comes_shed (hGoverns : scene.Governs) (hLeft : ∀ ref ∈ left.toList, world.host.isLive ref = true)
    (hRefs : ∀ ref ∈ refs, world.host.isLive ref = true) (value : α) :
    scene.Comes set table (do Host.SetObject.setTable set left; Host.ops.release refs; return value) context world
      (.ok (value, left)) := by
  obtain ⟨hKeeps, hNew, hStays⟩ := hContains.follows.keeps_setTable hSet hContains.live hLeft
  have hThere : ∀ ref ∈ refs, (world.host.setBody set (.set left)).isLive ref = true := fun ref hRef =>
    (hStays ref).trans (hRefs ref hRef)
  obtain ⟨after, hRelease, hGone, _⟩ : ∃ after, (Host.ops.release refs).eval context
      { world with host := world.host.setBody set (.set left) } = (.ok (), after) ∧
        scene.Keeps ∅ { world with host := world.host.setBody set (.set left) } after ∧ after.held.Perm world.held :=
    hKeeps.follows.keeps_release hGoverns hThere Host.depthLimit context
  have hRetables : scene.Retables set left world { world with host := world.host.setBody set (.set left) } :=
    ⟨hKeeps, fun _ => hNew⟩
  refine ⟨after, ?_, hRetables.trans hOpens hSet hGone⟩
  rw [HostM.eval_bind, Host.SetObject.eval_setTable hBody]
  dsimp only
  rw [HostM.eval_bind, hRelease]
  rfl

/-- All elements are taken out. -/
theorem comes_clear (hGoverns : scene.Governs) :
    scene.Comes set table (Host.SetObject.clear Host.ops set) context world (.ok ((), table.cleared)) := by
  have hNone : table.cleared.toList = [] := by
    rw [SetTable.toList, (SetTable.Sound.cleared table).2]
    rfl
  refine .bind hContains.follows (Host.SetObject.peeks_table hContains.elements) fun middle hCalm => ?_
  have hMiddle := hContains.undisturbed hCalm
  refine hMiddle.comes_shed hOpens hSet ((hCalm.body_eq set).trans hBody) hGoverns ?_ ?_ ()
  · rw [hNone]
    exact List.forall_mem_nil _
  · exact fun ref hRef => (hMiddle.concerns ref hRef).live

variable (hGoverns : scene.Governs) (hKey : scene.Concerns world key) (hNesting : context.nesting ≤ 1)

include hGoverns hKey hNesting

omit hOpens in
/-- Adding under a hash looks for a place, and puts the key there if no equal element has it. -/
theorem comes_addHashed (hash : Int) :
    scene.Comes set table (Host.SetObject.addHashed Host.ops set key hash) context world
      ((table.placeOf hash (scene.verdict world key)).map fun place => ((), table.stored hash key place)) := by
  have hLocate := hContains.peeks_locate hGoverns hKey hNesting hash true
  cases hPlace : table.placeOf hash (scene.verdict world key) with
  | error fault =>
    rw [hPlace] at hLocate
    exact .bind_error hContains.follows hBody hLocate
  | ok place =>
    rw [hPlace] at hLocate
    refine .bind hContains.follows hLocate fun middle hCalm => ?_
    have hMiddle := hContains.undisturbed hCalm
    have hStill : middle.host.body set = .set table := (hCalm.body_eq set).trans hBody
    cases place with
    | stored index => exact .of_peeks hMiddle.follows hStill .pure
    | free index reusable =>
      refine .bind hMiddle.follows (Host.SetObject.peeks_table hMiddle.elements) fun later hLater => ?_
      have hThere := hMiddle.undisturbed hLater
      refine hThere.comes_setTable hSet ((hLater.body_eq set).trans hStill) fun ref hRef => ?_
      rcases SetTable.mem_of_mem_put hRef with rfl | hOld
      · exact (hKey.undisturbed (hCalm.trans hLater)).live
      · exact (hThere.concerns ref hOld).live

/-- Discarding under a hash takes the element out that is found in its place. -/
theorem comes_discardHashed (hash : Int) :
    scene.Comes set table (Host.SetObject.discardHashed Host.ops set key hash) context world
      ((table.placeOf hash (scene.verdict world key)).map table.takenOut) := by
  have hLocate := hContains.peeks_locate hGoverns hKey hNesting hash false
  cases hPlace : table.placeOf hash (scene.verdict world key) with
  | error fault =>
    rw [hPlace] at hLocate
    exact .bind_error hContains.follows hBody hLocate
  | ok place =>
    rw [hPlace] at hLocate
    refine .bind hContains.follows hLocate fun middle hCalm => ?_
    have hMiddle := hContains.undisturbed hCalm
    have hStill : middle.host.body set = .set table := (hCalm.body_eq set).trans hBody
    cases place with
    | free index reusable => exact .of_peeks hMiddle.follows hStill .pure
    | stored index =>
      refine .bind hMiddle.follows (Host.SetObject.peeks_table hMiddle.elements) fun later hLater => ?_
      have hThere := hMiddle.undisturbed hLater
      refine hThere.comes_shed hOpens hSet ((hLater.body_eq set).trans hStill) hGoverns ?_ ?_ true
      · exact fun ref hRef => (hThere.concerns ref (SetTable.mem_of_mem_eraseAt hRef)).live
      · exact fun ref hRef => (hThere.concerns ref (SetTable.mem_of_mem_at? hRef)).live

omit hOpens in
/-- An object is added as the scene has it. -/
theorem comes_add :
    scene.Comes set table (Host.SetObject.add Host.ops set key) context world (scene.added world table key) := by
  have hHash := hContains.peeks_hash hGoverns hKey hNesting
  rw [added]
  cases hAnswer : scene.conduct.hash (scene.origin world key) with
  | error fault =>
    rw [hAnswer] at hHash
    exact .bind_error hContains.follows hBody hHash
  | ok hash =>
    rw [hAnswer] at hHash
    refine .bind hContains.follows hHash fun middle hCalm => ?_
    rw [← funext (verdict_undisturbed hCalm key)]
    exact (hContains.undisturbed hCalm).comes_addHashed hSet ((hCalm.body_eq set).trans hBody) hGoverns
      (hKey.undisturbed hCalm) hNesting hash

/-- The hash comes first, and may fail first. -/
theorem comes_discarded :
    scene.Comes set table (do Host.SetObject.discardHashed Host.ops set key (← Host.ops.hash key)) context world
      (scene.discarded world table key) := by
  have hHash := hContains.peeks_hash hGoverns hKey hNesting
  rw [discarded]
  cases hAnswer : scene.conduct.hash (scene.origin world key) with
  | error fault =>
    rw [hAnswer] at hHash
    exact .bind_error hContains.follows hBody hHash
  | ok hash =>
    rw [hAnswer] at hHash
    refine .bind hContains.follows hHash fun middle hCalm => ?_
    rw [← funext (verdict_undisturbed hCalm key)]
    exact (hContains.undisturbed hCalm).comes_discardHashed hOpens hSet ((hCalm.body_eq set).trans hBody) hGoverns
      (hKey.undisturbed hCalm) hNesting hash

omit hOpens hSet hBody in
/-- A fault comes before anything is taken out. -/
theorem peeks_discarded {fault : Fault} (hDiscarded : scene.discarded world table key = .error fault) :
    (do Host.SetObject.discardHashed Host.ops set key (← Host.ops.hash key)).Peeks context world (.error fault) := by
  have hHash := hContains.peeks_hash hGoverns hKey hNesting
  rw [discarded] at hDiscarded
  cases hAnswer : scene.conduct.hash (scene.origin world key) with
  | error other =>
    rw [hAnswer] at hHash hDiscarded
    cases hDiscarded
    exact hHash.bind_error
  | ok hash =>
    rw [hAnswer] at hHash hDiscarded
    change (table.placeOf hash _).map _ = _ at hDiscarded
    refine hHash.bind fun middle hCalm => ?_
    have hLocate := (hContains.undisturbed hCalm).peeks_locate hGoverns (hKey.undisturbed hCalm) hNesting hash false
    rw [funext (verdict_undisturbed hCalm key)] at hLocate
    cases hPlace : table.placeOf hash (scene.verdict world key) with
    | error other =>
      rw [hPlace] at hLocate hDiscarded
      cases hDiscarded
      exact hLocate.bind_error
    | ok place =>
      rw [hPlace] at hDiscarded
      cases hDiscarded

/-- A frozen set is discarded instead, and gone afterwards. -/
theorem comes_discardedFrozen (hElements : world.host.body key = .set elements)
    (hItems : scene.conduct.items (.made (.frozenset elements.copied))) :
    ∃ after, (Host.keeping Host.ops [.object world.host.cells.size] (do
        Host.SetObject.discardHashed Host.ops set (.object world.host.cells.size)
          (← Host.ops.hash (.object world.host.cells.size)))).eval context
          { world with host := (world.host.allocate { body := .frozenset elements.copied }).2 } =
        ((scene.discardedFrozen world table elements).map Prod.fst, after) ∧
      scene.Retables set (table.leftBy (scene.discardedFrozen world table elements)) world after := by
  let made : World := { world with host := (world.host.allocate { body := .frozenset elements.copied }).2 }
  have hMakes : scene.Makes world (.frozenset elements.copied) (.object world.host.cells.size) made := by
    refine hContains.follows.makes_allocate hOpens (fun ref hRef => ?_) rfl
    have hElement : ref ∈ elements.toList := (SetTable.toList_copied elements).subset hRef
    exact (hContains.follows.isLive_element hKey.live hElements hElement).2
  have hFrozen := hMakes.concerns hItems
  have hLive : ∀ ref ∈ [Ref.object world.host.cells.size], made.host.isLive ref = true := by
    intro ref hRef
    rw [List.mem_singleton.mp hRef]
    exact hMakes.live
  have hHolds : scene.Keeps ∅ made (made.holdAll [.object world.host.cells.size]) :=
    hMakes.keeps.follows.keeps_holdAll hLive
  have hThere := (hContains.makes hMakes).holdAll hLive
  have hStill : (made.holdAll [.object world.host.cells.size]).host.body set = .set table :=
    (congrArg Object.body (hMakes.stays set hContains.live)).trans hBody
  obtain ⟨middle, hEval, hRetables⟩ := hThere.comes_discarded hOpens hSet hStill hGoverns
    ⟨hFrozen.live, hFrozen.items⟩ hNesting
  have hOrigin : scene.origin (made.holdAll [.object world.host.cells.size]) (.object world.host.cells.size) =
      .made (.frozenset elements.copied) := hMakes.origin
  have hSame : scene.discarded (made.holdAll [.object world.host.cells.size]) table (.object world.host.cells.size) =
      scene.discardedFrozen world table elements := by
    rw [discarded, discardedFrozen, hOrigin]
    congr 1
    funext hash
    congr 1
    apply SetTable.trySearch_congr
    intro ref hEntry
    have hThere := (hContains.concerns ref (List.mem_map_of_mem (f := Prod.snd) hEntry)).live
    have hNe : ref ≠ .object world.host.cells.size := fun hSame => by
      obtain ⟨value, hAtom⟩ := hMakes.apart ref hThere hSame
      cases hAtom
    rw [verdict, if_neg hNe, hOrigin]
    exact congrArg (fun origin => scene.conduct.equal origin _)
      (origin_eq (congrArg Object.body (hMakes.stays ref hThere)))
  rw [hSame] at hEval hRetables
  have hHeld : Ref.object world.host.cells.size ∈ middle.held := by
    have hBalanced := HostM.balanced (do
      Host.SetObject.discardHashed Host.ops set (.object world.host.cells.size)
        (← Host.ops.hash (.object world.host.cells.size))) context (made.holdAll [.object world.host.cells.size])
    rw [hEval] at hBalanced
    exact hBalanced.mem_iff.mpr List.mem_cons_self
  have hLeft : ∀ ref ∈ [Ref.object world.host.cells.size],
      (middle.unholdAll [.object world.host.cells.size]).host.isLive ref = true := by
    intro ref hRef
    rw [List.mem_singleton.mp hRef]
    exact hRetables.keeps.follows.isLive_of_held hHeld
  have hUnheld : scene.Keeps ∅ middle (middle.unholdAll [.object world.host.cells.size]) :=
    hRetables.keeps.follows.keeps_unholdAll _
  obtain ⟨after, hRelease, hGone, _⟩ : ∃ after, (Host.ops.release [.object world.host.cells.size]).eval context
      (middle.unholdAll [.object world.host.cells.size]) = (.ok (), after) ∧
        scene.Keeps ∅ (middle.unholdAll [.object world.host.cells.size]) after ∧ after.held.Perm _ :=
    hUnheld.follows.keeps_release hGoverns hLeft Host.depthLimit context
  refine ⟨after, ?_, (hRetables.trans hOpens hSet (hUnheld.trans hGone)).since
    ((hMakes.keeps.trans hHolds).mono (Set.empty_subset _))⟩
  exact Host.eval_keeping_object hEval hRelease

/-- An object is discarded as the scene has it. -/
theorem comes_discard :
    scene.Comes set table (Host.SetObject.discard Host.ops set key) context world (scene.removed world table key) := by
  rw [removed]
  cases hDiscarded : scene.discarded world table key with
  | ok answer =>
    obtain ⟨after, hEval, hRetables⟩ := hContains.comes_discarded hOpens hSet hBody hGoverns hKey hNesting
    rw [hDiscarded] at hEval hRetables
    refine ⟨after, ?_, hRetables⟩
    rw [Host.SetObject.discard, Host.SetObject.eval_keyed, hEval]
    rfl
  | error fault =>
    obtain ⟨middle, hEval, hCalm⟩ := hContains.peeks_discarded hGoverns hKey hNesting hDiscarded
    have hOther (hNot : ∀ elements, world.host.body key = .set elements → fault.exception ≠ "TypeError") :
        scene.Comes set table (Host.SetObject.discard Host.ops set key) context world (.error fault) := by
      have hPeeks : (Host.SetObject.discard Host.ops set key).Peeks context world (.error fault) := by
        refine ⟨middle, Host.SetObject.eval_keyed_other hEval fun elements hElements => hNot elements ?_, hCalm⟩
        rwa [hCalm.body_eq] at hElements
      exact .of_peeks hContains.follows hBody hPeeks
    cases hElements : world.host.body key with
    | set elements =>
      dsimp only
      split
      next hType =>
        have hAsked : scene.asked world table key = .error fault := by
          rw [asked_eq_discarded, hDiscarded]
          rfl
        have hItems := hContains.items_frozen hGoverns hKey hOpens hAsked hType hElements
        have hStill : middle.host.body key = .set elements := (hCalm.body_eq key).trans hElements
        obtain ⟨after, hFrozen, hRetables⟩ := (hContains.undisturbed hCalm).comes_discardedFrozen hOpens hSet
          ((hCalm.body_eq set).trans hBody) hGoverns (hKey.undisturbed hCalm) hNesting hStill hItems
        have hSame : scene.discardedFrozen middle table elements = scene.discardedFrozen world table elements := by
          have hOrigins : scene.origin middle = scene.origin world := funext fun ref => origin_eq (hCalm.body_eq ref)
          rw [discardedFrozen, discardedFrozen, hOrigins]
        rw [hSame] at hFrozen hRetables
        refine ⟨after, ?_, hRetables.since (hContains.follows.keeps_undisturbed hCalm)⟩
        rw [Host.SetObject.discard, Host.SetObject.eval_keyed, hEval]
        dsimp only
        rw [hStill]
        dsimp only
        rw [if_pos hType, hFrozen]
      next hType => exact hOther fun _ _ => hType
    | _ => exact hOther fun elements hSet => by rw [hElements] at hSet; cases hSet

end Contains

end Scene

end HeapBridge
