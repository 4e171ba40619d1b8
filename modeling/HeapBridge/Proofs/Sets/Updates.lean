import HeapBridge.Proofs.Sets.Classes
import HeapBridge.Proofs.Sets.Shedding
/-!
What a call on a set does to the world. The set gets another table, there may be new objects, and then items
are let go of. All other objects are left as they are, unless nothing refers to them any more.
-/
namespace HeapBridge

open Host (Body Classes Heap HostM Object Ref SetTable)

variable {world before middle after : World} {set ref : Ref} {refs others kept : List Ref} {depth : Nat}
  {classes : Classes depth}

namespace World

/-- What a call on a set does at first: the set has another body, and there are new objects. -/
structure Edits (set : Ref) (before after : World) : Prop where
  /-- Nothing but the host objects and what is held has changed. -/
  aside : after = { before with
    host := { before.host with cells := after.host.cells }, held := after.held }
  size : before.host.cells.size ≤ after.host.cells.size
  object : ∀ address < before.host.cells.size, .object address ≠ set →
    after.host.object? address = before.host.object? address
  view : ∃ body, after.host.view set = { before.host.view set with body }
  live : before.host.isLive set = true → after.host.isLive set = true

namespace Edits

theorem of_held (held : List Ref) : Edits set before { before with held } where
  aside := rfl
  size := Nat.le_refl _
  object _ _ _ := rfl
  view := ⟨_, rfl⟩
  live := id

/-- Edits add up. -/
theorem trans (hFirst : Edits set before middle) (hSecond : Edits set middle after) :
    Edits set before after where
  aside := by rw [hSecond.aside, hFirst.aside]
  size := hFirst.size.trans hSecond.size
  object address hOld hOther :=
    (hSecond.object address (hOld.trans_le hFirst.size) hOther).trans (hFirst.object address hOld hOther)
  view := by
    obtain ⟨first, hFirst⟩ := hFirst.view
    obtain ⟨second, hSecond⟩ := hSecond.view
    exact ⟨second, by rw [hSecond, hFirst]⟩
  live hLive := hSecond.live (hFirst.live hLive)

/-- A new object is made. -/
theorem make (hLive : before.host.isLive set = true) (body : Body) :
    Edits set before { before with host := (before.host.make body).2 } ∧
      (before.host.make body).2.view set = before.host.view set := by
  unfold Heap.make
  split
  next => exact ⟨.of_held before.held, rfl⟩
  next =>
    have hObject (address : Nat) (hOld : address < before.host.cells.size) :
        (before.host.allocate { body }).2.object? address = before.host.object? address :=
      Heap.object?_allocate_of_lt hOld
    have hSet : (before.host.allocate { body }).2.view set = before.host.view set ∧
        (before.host.allocate { body }).2.isLive set = before.host.isLive set := by
      cases set with
      | atom value => exact ⟨rfl, rfl⟩
      | object address =>
        obtain ⟨object, hFound⟩ := Option.isSome_iff_exists.mp hLive
        have hSame := hObject address (Heap.lt_size_of_object? hFound)
        exact ⟨by rw [Heap.view, Heap.view, hSame], by rw [Heap.isLive, Heap.isLive, hSame]⟩
    refine ⟨{ aside := rfl, size := ?_, object := ?_, view := ⟨_, hSet.1⟩, live := hSet.2.trans }, hSet.1⟩
    · change before.host.cells.size ≤ (before.host.cells.push _).size
      rw [Array.size_push]
      exact Nat.le_succ _
    · intro address hOld _
      exact hObject address hOld

/-- The set gets another table. -/
theorem setBody {old : SetTable} (hBody : before.host.body set = .set old)
    (hLive : before.host.isLive set = true) (table : SetTable) :
    Edits set before { before with host := before.host.setBody set (.set table) } ∧
      (before.host.setBody set (.set table)).view set =
        { before.host.view set with body := .set table } := by
  cases set with
  | atom value => cases value <;> cases hBody
  | object address =>
    obtain ⟨object, hObject⟩ := Option.isSome_iff_exists.mp hLive
    have hView := Heap.view_of_object? hObject
    have hOld : object.body = .set old := hView ▸ hBody
    have hSet : before.host.setBody (.object address) (.set table) =
        before.host.put address { object with body := .set table } := by
      have hBecomes : object.body.canBecome (.set table) = true := by rw [hOld]; rfl
      simp only [Heap.setBody, hObject, if_pos hBecomes]
    have hNew : (before.host.setBody (.object address) (.set table)).object? address =
        some { object with body := .set table } := by
      rw [hSet, Heap.object?_put hObject, if_pos rfl]
    have hNewView : (before.host.setBody (.object address) (.set table)).view (.object address) =
        { before.host.view (.object address) with body := .set table } := by
      rw [Heap.view_of_object? hNew, hView]
    refine ⟨{ aside := by rw [hSet]; rfl, size := ?_, object := ?_, view := ⟨_, hNewView⟩, live := ?_ },
      hNewView⟩
    · rw [hSet]
      exact (Array.size_setIfInBounds ..).ge
    · intro other _ hOther
      have hNe : other ≠ address := fun hEqual => hOther (congrArg Ref.object hEqual)
      change (before.host.setBody _ _).object? other = _
      rw [hSet, Heap.object?_put hObject, if_neg hNe]
    · intro _
      exact Option.isSome_iff_exists.mpr ⟨_, hNew⟩

/-- Items stay as they are. -/
theorem lasts {table : SetTable} {depth : Nat} (hEdits : Edits set before after)
    (hBody : before.host.body set = .set table) (hItem : before.host.IsItem depth ref) :
    before.host.Lasts after.host depth ref := by
  have hKeeps : before.host.Keeps after.host fun _ => True := by
    refine ⟨fun depth ref hItem _ => ?_, fun _ _ _ _ _ _ => trivial⟩
    cases ref with
    | atom value => exact ⟨rfl, rfl⟩
    | object address =>
      have hLive := hItem.isBuiltin.live
      obtain ⟨object, hObject⟩ := Option.isSome_iff_exists.mp hLive
      have hOther : Ref.object address ≠ set := by
        rintro rfl
        have hValue := hItem.isValue
        rw [hBody] at hValue
        cases hValue
      have hSame := hEdits.object address (Heap.lt_size_of_object? hObject) hOther
      exact ⟨by rw [Heap.view, Heap.view, hSame], by rw [Heap.isLive, hSame]; exact hLive⟩
  exact hItem.lasts hKeeps trivial

theorem script?_eq (hEdits : Edits set before after) :
    after.host.script? set = before.host.script? set := by
  obtain ⟨body, hView⟩ := hEdits.view
  have hScripts : after.host.scripts = before.host.scripts := by rw [hEdits.aside]
  rw [Heap.script?, Heap.script?, hView, hScripts]

/-- A set whose table stays the same has the classes that it had. -/
theorem collects (hEdits : Edits set before after) (hCollects : before.host.Collects set classes)
    (hBody : after.host.body set = before.host.body set) : after.host.Collects set classes := by
  have hView : after.host.view set = before.host.view set := by
    obtain ⟨body, hNew⟩ := hEdits.view
    rw [Heap.body, hNew] at hBody
    rw [hNew, show body = _ from hBody, Heap.body]
  exact hCollects.lasts (hEdits.live hCollects.live) hEdits.script?_eq hView
    fun table hTable ref _ hItem => hEdits.lasts hTable hItem

end Edits

namespace Sheds

/-- A set of items stays what it is. -/
theorem collects (hSheds : Sheds kept before after) (hCollects : before.host.Collects set classes) :
    after.host.Collects set classes := by
  obtain ⟨table, hBody, _⟩ := hCollects.elements
  have hValue : (before.host.body set).isValue = false := by
    rw [hBody]
    rfl
  obtain ⟨hView, hLive⟩ := hSheds.view_eq hValue
  have hScripts : after.host.scripts = before.host.scripts := by rw [hSheds.aside]
  have hScript : after.host.script? set = before.host.script? set := by
    rw [Heap.script?, Heap.script?, hView, hScripts]
  refine hCollects.lasts (hLive.trans hCollects.live) hScript hView fun table hTable ref hRef hItem =>
    hItem.lasts hSheds.keeps fun _ => ?_
  have hSame : after.host.body set = .set table := by rw [Heap.body, hView, ← hTable, Heap.body]
  have hRefers : after.host.refersTo ref = true :=
    Host.refersTo_of_element (hLive.trans hCollects.live) (by rw [hSame]; rfl) hRef
  exact World.isReferenced_of_refersTo hRefers

/-- Items that are held stay as they are. -/
theorem lasts_of_kept (hSheds : Sheds kept before after) (hItem : before.host.IsItem depth ref)
    (hKept : ref ∈ kept) : before.host.Lasts after.host depth ref := by
  refine hItem.lasts hSheds.keeps fun _ => ?_
  simp [World.isReferenced, holdingOnly, hKept]

end Sheds

/-- References to items are given back, one after the other. -/
theorem sheds_foldl_letGo (hHeld : world.held = refs ++ others) (hKept : kept ⊆ others)
    (hItems : ∀ ref ∈ refs, ∃ depth, world.host.IsItem depth ref) :
    Sheds kept world (refs.foldl (fun world ref => world.letGo ref) world) ∧
      (refs.foldl (fun world ref => world.letGo ref) world).held = others := by
  induction refs generalizing world with
  | nil =>
    have hSame : Sheds kept world { world with held := world.held } := .of_held _
    exact ⟨hSame, hHeld⟩
  | cons ref rest ih =>
    obtain ⟨depth, hItem⟩ := hItems ref List.mem_cons_self
    obtain ⟨hSheds, hAfter⟩ := sheds_letGo hHeld (List.Subset.refl (rest ++ others)) hItem
    obtain ⟨hRest, hEnd⟩ := ih hAfter fun other hOther => by
      obtain ⟨lower, hLower⟩ := hItems other (List.mem_cons_of_mem _ hOther)
      exact ⟨lower, (hSheds.lasts_of_kept hLower (List.mem_append_left _ hOther)).item⟩
    exact ⟨(hSheds.mono (List.Subset.trans hKept (List.subset_append_right _ _))).trans hRest, hEnd⟩

/-- What a call on a set that comes to some classes afterwards does. -/
structure Turns (set : Ref) (before after : World) (classes : Classes depth) : Prop where
  changes : ∃ middle, Edits set before middle ∧ Sheds before.held middle after
  held : after.held = before.held
  collects : after.host.Collects set classes

namespace Turns

theorem refl (hCollects : world.host.Collects set classes) : Turns set world world classes where
  changes := ⟨world, .of_held _, .of_held _⟩
  held := rfl
  collects := hCollects

/-- Something may be made before. -/
theorem after_edits (hEdits : Edits set before middle) (hHeld : middle.held = before.held)
    (hTurns : Turns set middle after classes) : Turns set before after classes where
  changes := by
    obtain ⟨edited, hMore, hSheds⟩ := hTurns.changes
    exact ⟨edited, hEdits.trans hMore, hHeld ▸ hSheds⟩
  held := hTurns.held.trans hHeld
  collects := hTurns.collects

/-- Items that are held meanwhile may be let go of afterwards. -/
theorem holding (hCollects : world.host.Collects set classes) {later : Classes depth}
    (hItems : ∀ ref ∈ refs, ∃ depth, world.host.IsItem depth ref)
    (hTurns : Turns set (world.holdAll refs) after later) :
    Turns set world (refs.foldl (fun world ref => world.letGo ref) after) later := by
  obtain ⟨edited, hEdits, hSheds⟩ := hTurns.changes
  obtain ⟨table, hBody, _⟩ := hCollects.elements
  obtain ⟨hGone, hAfter⟩ := sheds_foldl_letGo hTurns.held (List.Subset.refl world.held)
    fun ref hRef => by
      obtain ⟨lower, hItem⟩ := hItems ref hRef
      have hEdited := (hEdits.lasts hBody hItem).item
      exact ⟨lower, (hSheds.lasts_of_kept hEdited (List.mem_append_left _ hRef)).item⟩
  have hHolds : Edits set world (world.holdAll refs) := .of_held _
  exact {
    changes := ⟨edited, hHolds.trans hEdits,
      (hSheds.mono (List.subset_append_right _ _)).trans hGone⟩
    held := hAfter
    collects := hGone.collects hTurns.collects }

end Turns

/-- What a call on a set leaves alone: all other objects that were there, unless nothing refers to them. -/
structure Untouched (set : Ref) (before after : World) : Prop where
  /-- The proxies are the same. -/
  native : after.native = before.native
  held : after.held = before.held
  object : ∀ address < before.host.cells.size, .object address ≠ set →
    after.host.object? address = before.host.object? address ∨
      after.host.object? address = none ∧ after.isReferenced (.object address) = false
  /-- Of the set just the elements may be others. -/
  view : ∃ body, after.host.view set = { before.host.view set with body }
  scripts : after.host.scripts = before.host.scripts

/-- A set that turns from state to state leaves all others alone. -/
theorem Turns.untouched (hCollects : before.host.Collects set classes) {later : Classes depth}
    (hTurns : Turns set before after later) : Untouched set before after := by
  obtain ⟨middle, hEdits, hSheds⟩ := hTurns.changes
  have hKept : after.holdingOnly before.held = after := by
    rw [holdingOnly, ← hTurns.held]
  refine ⟨?_, hTurns.held, fun address hOld hOther => ?_, ?_, ?_⟩
  · rw [hSheds.aside, hEdits.aside]
  · rw [← hEdits.object address hOld hOther]
    rcases hSheds.object address with hSame | ⟨hGone, _, hFree⟩
    · exact .inl hSame
    · exact .inr ⟨hGone, hKept ▸ hFree⟩
  · obtain ⟨table, hBody, _⟩ := hTurns.collects.elements
    have hThere : after.host.view set = middle.host.view set := by
      cases set with
      | atom value => rfl
      | object address =>
        rcases hSheds.object address with hSame | ⟨hGone, _⟩
        · rw [Heap.view, Heap.view, hSame]
        · have hLive := hTurns.collects.live
          rw [Heap.isLive, hGone] at hLive
          cases hLive
    obtain ⟨body, hView⟩ := hEdits.view
    exact ⟨body, hThere.trans hView⟩
  · rw [hSheds.aside, hEdits.aside]

end World

end HeapBridge
