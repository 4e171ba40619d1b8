import HeapBridge.Proofs.Scenes.Operations
import HeapBridge.Proofs.Scenes.Walking
/-!
Outcomes that correspond. Where the tables of a set correspond in two worlds, with elements that are known by the same,
and the same is asked, the set answers the same in both, and its tables correspond again.
-/
namespace HeapBridge

open Host (Body Fault Heap Probe Ref SetTable)
open Host.SetObject (Place)

variable {scene : Scene} {left right : World} {related : Ref → Ref → Prop} {key twin ref : Ref}
  {table copy : SetTable} {hash : Int} {α β : Type}

namespace Host.SetTable

/-- Results that are the same, with tables that correspond. -/
inductive ResultsCorrespond (related : Ref → Ref → Prop) :
    Except Fault (α × SetTable) → Except Fault (α × SetTable) → Prop where
  | error (fault : Fault) : ResultsCorrespond related (.error fault) (.error fault)
  | ok (answer : α) {table copy : SetTable} (hTable : table.Corresponds related copy) :
    ResultsCorrespond related (.ok (answer, table)) (.ok (answer, copy))

namespace ResultsCorrespond

variable {result other : Except Fault (α × SetTable)}

theorem map_eq (hResults : ResultsCorrespond related result other) :
    other.map Prod.fst = result.map Prod.fst := by
  cases hResults <;> rfl

theorem map (hResults : ResultsCorrespond related result other) (convert : α → β) :
    ResultsCorrespond related (result.map fun result => (convert result.1, result.2))
      (other.map fun result => (convert result.1, result.2)) := by
  cases hResults with
  | error fault => exact .error fault
  | ok answer hTable => exact .ok (convert answer) hTable

theorem leftBy (hResults : ResultsCorrespond related result other) (hTable : table.Corresponds related copy) :
    (table.leftBy result).Corresponds related (copy.leftBy other) := by
  cases hResults with
  | error fault => exact hTable
  | ok answer hLeft => exact hLeft

end ResultsCorrespond

namespace Corresponds

/-- A search ends at the same place where the same is answered about the elements. -/
theorem placeOf_eq (hTable : table.Corresponds related copy) {outcome other : Ref → Except Fault Bool}
    (hOutcome : ∀ ref copied, related ref copied → outcome ref = other copied) (hash : Int) :
    copy.placeOf hash other = table.placeOf hash outcome := by
  have hSearch (steps : Nat) (probe : Probe) (reusable : Option Nat) :
      copy.trySearch hash other steps probe reusable = table.trySearch hash outcome steps probe reusable := by
    induction steps generalizing probe reusable with
    | zero => rfl
    | succ steps ih =>
      have hSeek := hTable.seek hash probe reusable
      rw [trySearch, trySearch]
      generalize table.seek hash probe reusable = first, copy.seek hash probe reusable = second at hSeek ⊢
      cases hSeek with
      | free index reusable => rfl
      | candidate index hRelated rest reusable =>
        dsimp only
        rw [hOutcome _ _ hRelated]
        rcases other _ with fault | _ | _
        · rfl
        · exact ih rest reusable
        · rfl
  rw [placeOf, placeOf, hTable.start_eq, hTable.reach_eq]
  exact hSearch _ _ _

theorem takenOut (hTable : table.Corresponds related copy) (place : Except Fault Place) :
    ResultsCorrespond related (place.map table.takenOut) (place.map copy.takenOut) := by
  rcases place with fault | ⟨index | ⟨index, reusable⟩⟩
  · exact .error fault
  · exact .ok true (hTable.eraseAt index)
  · exact .ok false hTable

theorem stored (hTable : table.Corresponds related copy) (hKey : related key twin) (hash : Int)
    (place : Except Fault Place) :
    ResultsCorrespond related (place.map fun place => ((), table.stored hash key place))
      (place.map fun place => ((), copy.stored hash twin place)) := by
  rcases place with fault | ⟨index | ⟨index, reusable⟩⟩
  · exact .error fault
  · exact .ok () hTable
  · exact .ok () (hTable.put hKey hash index reusable)

end Corresponds

end Host.SetTable

namespace Scene

/-! What discarding comes to where an object cannot be hashed or compared. -/

/-- A removal fails as the discarding before it does, unless the key is a set. -/
theorem removed_of_error {world : World} {fault : Fault} (hDiscarded : scene.discarded world table key = .error fault)
    (hOther : ∀ elements, world.host.body key = .set elements → fault.exception ≠ "TypeError") :
    scene.removed world table key = .error fault := by
  rw [removed, hDiscarded]
  split
  next other elements hSame hElements =>
    cases hSame
    exact if_neg (hOther elements hElements)
  next => rfl

theorem removed_of_frozen {world : World} {fault : Fault} {elements : SetTable}
    (hDiscarded : scene.discarded world table key = .error fault) (hElements : world.host.body key = .set elements)
    (hType : fault.exception = "TypeError") :
    scene.removed world table key = scene.discardedFrozen world table elements := by
  rw [removed, hDiscarded, hElements]
  exact if_pos hType

/-- Whether the same is looked for in two worlds, in tables with related elements. -/
structure Matches (scene : Scene) (related : Ref → Ref → Prop) (left right : World) (table : SetTable)
    (key twin : Ref) : Prop where
  elements : ∀ ref copied, related ref copied → scene.origin left ref = scene.origin right copied
  origin : scene.origin left key = scene.origin right twin
  same : ∀ ref copied, related ref copied → (ref = key ↔ copied = twin)
  /-- If it is a set that has no hash, it has the same elements. -/
  frozen : ∀ fault, scene.asked left table key = .error fault → fault.exception = "TypeError" →
    ∀ elements, left.host.body key = .set elements ↔ right.host.body twin = .set elements

namespace Matches

variable (hMatches : scene.Matches related left right table key twin)
  (hTable : table.Corresponds related copy)

include hMatches hTable

theorem placeOf_eq (hash : Int) :
    copy.placeOf hash (scene.verdict right twin) = table.placeOf hash (scene.verdict left key) := by
  refine hTable.placeOf_eq (fun ref copied hRelated => ?_) hash
  rw [verdict, verdict, hMatches.elements ref copied hRelated, hMatches.origin]
  exact if_congr (hMatches.same ref copied hRelated) rfl rfl

/-- What is discarded on one side is discarded on the other. -/
theorem discarded_corresponds : SetTable.ResultsCorrespond related (scene.discarded left table key)
    (scene.discarded right copy twin) := by
  rw [discarded, discarded, ← hMatches.origin]
  cases scene.conduct.hash (scene.origin left key) with
  | error fault => exact .error fault
  | ok hash =>
    change SetTable.ResultsCorrespond related ((table.placeOf hash _).map _) ((copy.placeOf hash _).map _)
    rw [hMatches.placeOf_eq hTable]
    exact hTable.takenOut _

/-- The second try with a frozen copy is no exception. -/
theorem discardedFrozen_corresponds (elements : SetTable) : SetTable.ResultsCorrespond related
    (scene.discardedFrozen left table elements) (scene.discardedFrozen right copy elements) := by
  rw [discardedFrozen, discardedFrozen]
  let frozen := Origin.made (.frozenset elements.copied)
  change SetTable.ResultsCorrespond related (scene.conduct.hash frozen >>= _) (scene.conduct.hash frozen >>= _)
  cases scene.conduct.hash frozen with
  | error fault => exact .error fault
  | ok hash =>
    have hEqual (ref copied : Ref) (hRelated : related ref copied) :
        scene.conduct.equal (scene.origin left ref) frozen =
          scene.conduct.equal (scene.origin right copied) frozen := by
      rw [hMatches.elements ref copied hRelated]
    have hPlace := hTable.placeOf_eq hEqual hash
    change SetTable.ResultsCorrespond related ((table.placeOf hash _).map _) ((copy.placeOf hash _).map _)
    rw [hPlace]
    exact hTable.takenOut _

/-- What is removed on one side is removed on the other. -/
theorem removed_corresponds : SetTable.ResultsCorrespond related (scene.removed left table key)
    (scene.removed right copy twin) := by
  have hBoth := hMatches.discarded_corresponds hTable
  have hAsked : scene.asked left table key = (scene.discarded left table key).map Prod.fst := asked_eq_discarded
  generalize hFirst : scene.discarded left table key = result, hSecond : scene.discarded right copy twin = other
    at hBoth hAsked
  cases hBoth with
  | ok answer hLeft =>
    rw [removed, removed, hFirst, hSecond]
    exact .ok answer hLeft
  | error fault =>
    have hFrozen := hMatches.frozen fault hAsked
    by_cases hType : fault.exception = "TypeError"
    · by_cases hSet : ∃ elements, left.host.body key = .set elements
      · obtain ⟨elements, hElements⟩ := hSet
        rw [removed_of_frozen hFirst hElements hType,
          removed_of_frozen hSecond ((hFrozen hType elements).mp hElements) hType]
        exact hMatches.discardedFrozen_corresponds hTable elements
      · rw [removed_of_error hFirst fun elements hElements => absurd ⟨elements, hElements⟩ hSet,
          removed_of_error hSecond fun elements hElements =>
            absurd ⟨elements, (hFrozen hType elements).mpr hElements⟩ hSet]
        exact .error fault
    · rw [removed_of_error hFirst fun _ _ => hType, removed_of_error hSecond fun _ _ => hType]
      exact .error fault

/-- What is added on one side is added on the other. -/
theorem added_corresponds (hKey : related key twin) :
    SetTable.ResultsCorrespond related (scene.added left table key) (scene.added right copy twin) := by
  rw [added, added, ← hMatches.origin]
  cases scene.conduct.hash (scene.origin left key) with
  | error fault => exact .error fault
  | ok hash =>
    change SetTable.ResultsCorrespond related ((table.placeOf hash _).map _) ((copy.placeOf hash _).map _)
    rw [hMatches.placeOf_eq hTable]
    exact hTable.stored hKey hash _

theorem answered_eq : scene.answered right copy twin = scene.answered left table key := by
  rw [answered_eq_removed, answered_eq_removed]
  exact (hMatches.removed_corresponds hTable).map_eq

end Matches

/-- An operation on a set comes to the same where the tables correspond. -/
theorem outcome_corresponds (operation : SetOperation Ref) (rename : Ref → Ref)
    (hTable : table.Corresponds related copy)
    (hKey : ∀ key, operation.item? = some key → scene.Matches related left right table key (rename key))
    (hNew : ∀ key, operation.item? = some key → operation.isChange = true → related key (rename key)) :
    SetTable.ResultsCorrespond related (scene.outcome left table operation)
      (scene.outcome right copy (operation.map rename)) := by
  cases operation with
  | contains key =>
    change SetTable.ResultsCorrespond related ((scene.answered left table key).map _)
      ((scene.answered right copy (rename key)).map _)
    rw [(hKey key rfl).answered_eq hTable]
    cases scene.answered left table key with
    | error fault => exact .error fault
    | ok found => exact .ok (SetAnswer.truth found) hTable
  | add key => exact ((hKey key rfl).added_corresponds hTable (hNew key rfl rfl)).map fun _ => SetAnswer.done
  | remove key => exact ((hKey key rfl).removed_corresponds hTable).map fun _ => SetAnswer.done
  | removeAll => exact .ok SetAnswer.done hTable.cleared
  | count =>
    rw [outcome, SetOperation.map, outcome, hTable.size_eq]
    exact .ok (SetAnswer.count table.size) hTable

/-- What a set has afterwards it had before, unless it is the item. -/
theorem mem_of_outcome {world : World} {operation : SetOperation Ref}
    (hRef : ref ∈ (table.leftBy (scene.outcome world table operation)).toList) :
    ref ∈ table.toList ∨ operation.isChange = true ∧ operation.item? = some ref := by
  -- The table corresponds to itself, with elements that are the same and of these kinds.
  let related (ref copied : Ref) : Prop :=
    copied = ref ∧ (ref ∈ table.toList ∨ operation.isChange = true ∧ operation.item? = some ref)
  have hTable : table.Corresponds related table := .refl fun ref hRef => ⟨rfl, .inl hRef⟩
  have hMatches (key : Ref) : scene.Matches related world world table key key :=
    ⟨fun _ _ hRelated => by rw [hRelated.1], rfl, fun _ _ hRelated => by rw [hRelated.1], fun _ _ _ _ => Iff.rfl⟩
  have hSame : operation.map id = operation := by cases operation <;> rfl
  have hOutcome : SetTable.ResultsCorrespond related (scene.outcome world table operation)
      (scene.outcome world table operation) := by
    have hMapped : SetTable.ResultsCorrespond related (scene.outcome world table operation)
        (scene.outcome world table (operation.map id)) :=
      outcome_corresponds operation id hTable (fun key _ => hMatches key) fun _ hKey hChange =>
        ⟨rfl, .inr ⟨hChange, hKey⟩⟩
    rwa [hSame] at hMapped
  exact (List.forall₂_same.mp (hOutcome.leftBy hTable).toList ref hRef).2

/-! Searches. -/

/-- What two searches come to, if it is the same or related. -/
inductive Found (related : Ref → Ref → Prop) : Except Fault (Option Ref) → Except Fault (Option Ref) → Prop where
  | failed (fault : Fault) : Found related (.error fault) (.error fault)
  | absent : Found related (.ok none) (.ok none)
  | found {ref copied : Ref} (hRelated : related ref copied) : Found related (.ok (some ref)) (.ok (some copied))

/-- The first element that is equal is a related one. -/
theorem firstEqual_corresponds {elements copies : List Ref} (hElements : List.Forall₂ related elements copies)
    (hRelated : ∀ ref copied, related ref copied → scene.origin left ref = scene.origin right copied)
    (hKey : scene.origin left key = scene.origin right twin) :
    Found related (scene.firstEqual left key elements) (scene.firstEqual right twin copies) := by
  induction hElements with
  | nil => exact .absent
  | @cons ref copied elements copies hFirst _ ih =>
    rw [firstEqual, firstEqual, hRelated ref copied hFirst, hKey]
    rcases scene.conduct.equal (scene.origin right copied) (scene.origin right twin) with fault | _ | _
    · exact .failed fault
    · exact ih
    · exact .found hFirst

end Scene

end HeapBridge
