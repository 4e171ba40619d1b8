import HeapBridge.Proofs.Sets.Copied
import HeapBridge.Proofs.Sets.Updates
import HeapBridge.Proofs.Teardown.Cascades
/-!
What is left alone. A world leaves another one alone up to some objects if all others are what they were or
are gone, and if the iterators over other sets stand where they stood. It is undisturbed if nothing at all has
become of any object, so that there are at most empty cells that were not there before.
-/
namespace HeapBridge

open Host (Body Heap HostM Object Ref SetTable)

/-- An object with elements is there. -/
theorem Host.Heap.isLive_of_elements {heap : Heap} {set : Ref} {table : SetTable}
    (hElements : (heap.body set).elements? = some table) : heap.isLive set = true := by
  cases set with
  | atom value => rfl
  | object address =>
    cases hObject : heap.object? address with
    | some object => rw [Heap.isLive, hObject]; rfl
    | none =>
      rw [Heap.body, Heap.view, hObject] at hElements
      cases hElements

theorem Host.Heap.isLive_of_body {heap : Heap} {set : Ref} {table : SetTable}
    (hBody : heap.body set = .set table) : heap.isLive set = true :=
  isLive_of_elements (congrArg Body.elements? hBody)

/-- Where an iterator stands if it goes over the elements of this set. -/
def Cursor.over? (set : Ref) : Cursor → Option (Nat × Nat × Bool)
  | .elements source position size broken => if source = set then some (position, size, broken) else none
  | _ => none

namespace World

variable {world before middle after : World} {touched others : Set Ref} {ref set : Ref} {refs : List Ref}
  {address : Nat}

/-- Whether nothing but some objects and the iterators over them has been touched, unless it is gone. -/
structure Leaves (touched : Set Ref) (before after : World) : Prop where
  scripts : after.host.scripts = before.host.scripts
  size : before.host.cells.size ≤ after.host.cells.size
  object : ∀ address < before.host.cells.size, .object address ∉ touched →
    after.host.object? address = before.host.object? address ∨ after.host.object? address = none
  cursor : ∀ set ∉ touched, ∀ number,
    (after.cursor number).over? set = (before.cursor number).over? set

namespace Leaves

/-- Beside the host heap and the iterators anything may be changed. -/
theorem aside (hHost : after.host = before.host) (hCursors : after.cursors = before.cursors) :
    Leaves touched before after where
  scripts := by rw [hHost]
  size := by rw [hHost]
  object _ _ _ := by simp [hHost]
  cursor _ _ number := by rw [cursor_congr hCursors]

theorem refl (world : World) : Leaves touched world world := .aside rfl rfl

/-- What is left alone by both is left alone. -/
theorem trans (hFirst : Leaves touched before middle) (hSecond : Leaves touched middle after) :
    Leaves touched before after where
  scripts := hSecond.scripts.trans hFirst.scripts
  size := hFirst.size.trans hSecond.size
  object address hOld hOther := by
    rcases hSecond.object address (hOld.trans_le hFirst.size) hOther with hSame | hGone
    · rw [hSame]
      exact hFirst.object address hOld hOther
    · exact .inr hGone
  cursor set hOther number := (hSecond.cursor set hOther number).trans (hFirst.cursor set hOther number)

/-- What has been touched later on may be new. -/
theorem later (hFirst : Leaves touched before middle) (hSecond : Leaves others middle after)
    (hCursors : after.cursors = middle.cursors) (hOthers : ∀ address, .object address ∈ others →
      .object address ∈ touched ∨ before.host.cells.size ≤ address) : Leaves touched before after where
  scripts := hSecond.scripts.trans hFirst.scripts
  size := hFirst.size.trans hSecond.size
  object address hOld hOther := by
    have hNone : .object address ∉ others := fun hThere =>
      (hOthers address hThere).elim hOther (Nat.not_le.mpr hOld)
    rcases hSecond.object address (hOld.trans_le hFirst.size) hNone with hSame | hGone
    · rw [hSame]
      exact hFirst.object address hOld hOther
    · exact .inr hGone
  cursor set hOther number := by
    rw [cursor_congr hCursors]
    exact hFirst.cursor set hOther number

theorem mono (hLeaves : Leaves touched before after) (hTouched : touched ⊆ others) :
    Leaves others before after where
  scripts := hLeaves.scripts
  size := hLeaves.size
  object address hOld hOther := hLeaves.object address hOld fun hThere => hOther (hTouched hThere)
  cursor set hOther := hLeaves.cursor set fun hThere => hOther (hTouched hThere)

/-- An object that was there and is left is what it was. -/
theorem object?_eq (hLeaves : Leaves touched before after) (hOther : .object address ∉ touched)
    (hBefore : address < before.host.cells.size) (hAfter : after.host.isLive (.object address) = true) :
    after.host.object? address = before.host.object? address := by
  refine (hLeaves.object address hBefore hOther).resolve_right fun hGone => ?_
  rw [Heap.isLive, hGone] at hAfter
  cases hAfter

/-- An object that is not touched looks as it did. -/
theorem view_eq (hLeaves : Leaves touched before after) (hOther : ref ∉ touched)
    (hBefore : before.host.isLive ref = true) (hAfter : after.host.isLive ref = true) :
    after.host.view ref = before.host.view ref := by
  cases ref with
  | atom value => rfl
  | object address =>
    obtain ⟨object, hObject⟩ := Option.isSome_iff_exists.mp hBefore
    have hSame := hLeaves.object?_eq hOther (Heap.lt_size_of_object? hObject) hAfter
    rw [Heap.view, Heap.view, hSame]

/-- An object that is left has been there, unless it is new. -/
theorem isLive (hLeaves : Leaves touched before after) {address : Nat}
    (hOld : address < before.host.cells.size) (hOther : .object address ∉ touched)
    (hLive : after.host.isLive (.object address) = true) : before.host.isLive (.object address) = true := by
  rw [Heap.isLive, ← hLeaves.object?_eq hOther hOld hLive]
  exact hLive

theorem scripted?_eq (hLeaves : Leaves touched before after)
    (hView : (after.host.view ref).script = (before.host.view ref).script) (method : String) :
    after.host.scripted? ref method = before.host.scripted? ref method := by
  rw [Heap.scripted?, Heap.scripted?, Heap.script?, Heap.script?, hView, hLeaves.scripts]

end Leaves

/-- Where there is nothing new but what is held, all that is left is what it was. -/
theorem Shrinks.leaves (hShrinks : Shrinks before after) (hCursors : after.cursors = before.cursors) :
    Leaves touched before after where
  scripts := hShrinks.scripts
  size := hShrinks.sizes.1.ge
  object address _ _ := by
    cases hObject : after.host.object? address with
    | none => exact .inr rfl
    | some object => exact .inl (hShrinks.object address object hObject).symm
  cursor _ _ number := by rw [cursor_congr hCursors]

/-- Where only host objects are others, what refers to something is one of them or was there before. -/
theorem Mentions.cases (hAside : after = { before with host := { before.host with cells := after.host.cells } })
    (hMentions : after.Mentions ref) :
    before.Mentions ref ∨ ∃ address object, after.host.object? address = some object ∧ ref ∈ object.references := by
  have hNative : after.native = before.native := by rw [hAside]
  have hCursors : after.cursors = before.cursors := by rw [hAside]
  have hRegistry : after.registry = before.registry := by rw [hAside]
  have hScripts : after.host.scripts = before.host.scripts := by rw [hAside]
  rcases hMentions with ⟨hObject, hRef⟩ | ⟨number, hRef⟩ | hRef | ⟨hObject, hRef⟩ | ⟨hScript, hRef⟩
  · exact .inl (.proxy (hNative ▸ hObject) hRef)
  · exact .inl (.cursor number (cursor_congr hCursors number ▸ hRef))
  · exact .inl (.converter (hRegistry ▸ hRef))
  · exact .inr ⟨_, _, hObject, hRef⟩
  · exact .inl (.script (hScripts ▸ hScript) hRef)

/-- Whether nothing has become of any object. -/
structure Undisturbed (before after : World) : Prop where
  aside : after = { before with host := { before.host with cells := after.host.cells } }
  size : before.host.cells.size ≤ after.host.cells.size
  object : ∀ address, after.host.object? address = before.host.object? address

namespace Undisturbed

theorem refl (world : World) : Undisturbed world world := ⟨rfl, Nat.le_refl _, fun _ => rfl⟩

theorem trans (hFirst : Undisturbed before middle) (hSecond : Undisturbed middle after) :
    Undisturbed before after where
  aside := by rw [hSecond.aside, hFirst.aside]
  size := hFirst.size.trans hSecond.size
  object address := (hSecond.object address).trans (hFirst.object address)

theorem view_eq (hCalm : Undisturbed before after) (ref : Ref) :
    after.host.view ref = before.host.view ref := by
  cases ref with
  | atom value => rfl
  | object address => rw [Heap.view, Heap.view, hCalm.object]

theorem body_eq (hCalm : Undisturbed before after) (ref : Ref) :
    after.host.body ref = before.host.body ref := by
  rw [Heap.body, Heap.body, hCalm.view_eq]

theorem isLive_eq (hCalm : Undisturbed before after) (ref : Ref) :
    after.host.isLive ref = before.host.isLive ref := by
  cases ref with
  | atom value => rfl
  | object address => rw [Heap.isLive, Heap.isLive, hCalm.object]

theorem held_eq (hCalm : Undisturbed before after) : after.held = before.held := by rw [hCalm.aside]

theorem leaves (hCalm : Undisturbed before after) : Leaves touched before after where
  scripts := by rw [hCalm.aside]
  size := hCalm.size
  object address _ _ := .inl (hCalm.object address)
  cursor _ _ number := by
    have hCursors : after.cursors = before.cursors := by rw [hCalm.aside]
    rw [cursor_congr hCursors]

/-- Nothing is mentioned anew while the world is calm. -/
theorem mentions_iff (hCalm : Undisturbed before after) : after.Mentions ref ↔ before.Mentions ref := by
  constructor
  · intro hMentions
    rcases hMentions.cases hCalm.aside with hBefore | ⟨address, object, hObject, hRef⟩
    · exact hBefore
    · exact .object (hCalm.object address ▸ hObject) hRef
  · intro hMentions
    have hBack : before = { after with host := { after.host with cells := before.host.cells } } := by
      rw [hCalm.aside]
    rcases hMentions.cases hBack with hAfter | ⟨address, object, hObject, hRef⟩
    · exact hAfter
    · exact .object ((hCalm.object address).trans hObject) hRef

theorem isReferenced_iff (hCalm : Undisturbed before after) :
    after.isReferenced ref = true ↔ before.isReferenced ref = true := by
  rw [World.isReferenced_iff, World.isReferenced_iff, hCalm.held_eq, hCalm.mentions_iff]

/-- The same if something is held. -/
theorem of_held (hCalm : Undisturbed before after) (held : List Ref) :
    Undisturbed { before with held } { after with held } where
  aside := by
    conv_lhs => rw [hCalm.aside]
  size := hCalm.size
  object := hCalm.object

/-- What is held meanwhile is given back. -/
theorem unholdAll (hCalm : Undisturbed (before.holdAll refs) after) :
    Undisturbed before (after.unholdAll refs) := by
  have hHeld : after.held = refs ++ before.held := hCalm.held_eq
  rw [unholdAll_eq hHeld]
  exact hCalm.of_held before.held

end Undisturbed

/-- Whether nothing refers to what is gone. -/
def IsWhole (world : World) : Prop := ∀ ref, world.isReferenced ref = true → world.host.isLive ref = true

namespace IsWhole

theorem undisturbed (hWhole : before.IsWhole) (hCalm : before.Undisturbed after) : after.IsWhole := by
  intro ref hReferenced
  rw [hCalm.isLive_eq]
  exact hWhole ref (hCalm.isReferenced_iff.mp hReferenced)

/-- Nothing refers to what has yet to be made. -/
theorem isReferenced_size (hWhole : world.IsWhole) : ¬ world.isReferenced (.object world.host.cells.size) = true := by
  intro hReferenced
  obtain ⟨object, hObject⟩ := Option.isSome_iff_exists.mp (hWhole _ hReferenced)
  exact absurd (Heap.lt_size_of_object? hObject) (Nat.lt_irrefl _)

end IsWhole

end World

end HeapBridge
