import HeapBridge.Host.Attributes
import HeapBridge.Proofs.Sets.Items
import Mathlib.Data.Set.Card
import Mathlib.Logic.Relation
/-!
Sets of items as their users know them. Such a set comes to the classes of items that are in it, each with the
element that stands for it. It does not matter how the elements are stored.
-/
namespace HeapBridge.Host

open scoped Classical

variable {depth : Nat} {heap after : Heap} {set ref : Ref} {table other : SetTable}
  {content : Content depth}

/-- The classes of items that a set has, each with the element that stands for it. -/
def Classes (depth : Nat) : Type := Content depth → Option Ref

namespace Classes

variable {classes : Classes depth}

def empty : Classes depth := fun _ => none

def has (classes : Classes depth) (content : Content depth) : Bool := (classes content).isSome

/-- The first item of a class stands for it. -/
noncomputable def insert (classes : Classes depth) (content : Content depth) (ref : Ref) :
    Classes depth :=
  if classes.has content then classes
  else fun other => if other = content then some ref else classes other

noncomputable def erase (classes : Classes depth) (content : Content depth) : Classes depth :=
  fun other => if other = content then none else classes other

noncomputable def count (classes : Classes depth) : Nat := {content | classes.has content}.ncard

theorem insert_of_has (hHas : classes.has content = true) (ref : Ref) :
    classes.insert content ref = classes := if_pos hHas

theorem insert_of_not_has (hHas : classes.has content = false) (ref : Ref) :
    classes.insert content ref = fun other => if other = content then some ref else classes other :=
  if_neg (Bool.eq_false_iff.mp hHas)

theorem erase_of_not_has (hHas : classes.has content = false) : classes.erase content = classes := by
  funext other
  unfold erase
  split
  next hContent =>
    rw [hContent]
    exact (Option.isSome_eq_false_iff.mp hHas |> Option.isNone_iff_eq_none.mp).symm
  next => rfl

end Classes

def SetTable.Shows (table : SetTable) (contentOf : Ref → Content depth) (classes : Classes depth) :
    Prop :=
  ∀ content ref, classes content = some ref ↔ ref ∈ table.toList ∧ contentOf ref = content

namespace SetTable.Shows

variable {contentOf : Ref → Content depth} {classes : Classes depth}

theorem has_iff (hShows : table.Shows contentOf classes) :
    classes.has content = true ↔ content ∈ table.toList.map contentOf := by
  rw [Classes.has, Option.isSome_iff_exists, List.mem_map]
  exact exists_congr fun ref => hShows content ref

theorem has_eq_decide (hShows : table.Shows contentOf classes) (content : Content depth) :
    classes.has content = decide (content ∈ table.toList.map contentOf) := by
  rw [Bool.eq_iff_iff, decide_eq_true_eq]
  exact hShows.has_iff

theorem congr {others : Ref → Content depth} (hShows : table.Shows contentOf classes)
    (hSame : ∀ ref ∈ table.toList, others ref = contentOf ref) : table.Shows others classes :=
  fun content ref => (hShows content ref).trans
    (and_congr_right fun hElement => by rw [hSame ref hElement])

theorem empty (hElements : table.entries = []) : table.Shows contentOf .empty := fun content ref => by
  simp [Classes.empty, toList, hElements]

/-- Adding an element that is not there adds its class. -/
theorem insert (hShows : table.Shows contentOf classes)
    (hNew : classes.has (contentOf ref) = false) (hPerm : other.toList.Perm (ref :: table.toList)) :
    other.Shows contentOf (classes.insert (contentOf ref) ref) := by
  intro content element
  rw [Classes.insert_of_not_has hNew, hPerm.mem_iff, List.mem_cons]
  beta_reduce
  split
  next hContent =>
    subst hContent
    have hNone (hElement : element ∈ table.toList) : contentOf element ≠ contentOf ref := by
      intro hSame
      rw [(hShows.has_iff).mpr (List.mem_map.mpr ⟨element, hElement, hSame⟩)] at hNew
      cases hNew
    constructor
    · rintro ⟨⟩
      exact ⟨.inl rfl, rfl⟩
    · rintro ⟨rfl | hElement, hSame⟩
      · rfl
      · exact absurd hSame (hNone hElement)
  next hOther =>
    rw [hShows content element]
    refine and_congr_left fun hSame => ⟨.inr, ?_⟩
    rintro (rfl | hElement)
    · exact absurd hSame.symm hOther
    · exact hElement

/-- Taking an element out takes its class out. -/
theorem erase (hShows : table.Shows contentOf classes)
    (hPerm : table.toList.Perm (ref :: other.toList))
    (hDistinct : (table.toList.map contentOf).Nodup) :
    other.Shows contentOf (classes.erase (contentOf ref)) := by
  have hOthers : contentOf ref ∉ other.toList.map contentOf := by
    have hCons := (hPerm.map contentOf).nodup_iff.mp hDistinct
    exact (List.nodup_cons.mp hCons).1
  intro content element
  unfold Classes.erase
  split
  next hContent =>
    subst hContent
    refine iff_of_false (Option.some_ne_none element).symm fun hThere => hOthers ?_
    exact List.mem_map.mpr ⟨element, hThere⟩
  next hOther =>
    rw [hShows content element, hPerm.mem_iff, List.mem_cons]
    refine and_congr_left fun hSame => ⟨?_, .inr⟩
    rintro (rfl | hElement)
    · exact absurd hSame.symm hOther
    · exact hElement

/-- There are as many classes as elements. -/
theorem count_eq (hShows : table.Shows contentOf classes)
    (hDistinct : (table.toList.map contentOf).Nodup) : classes.count = table.size := by
  have hSet : {content | classes.has content = true} = ((table.toList.map contentOf).toFinset : Set _) := by
    ext content
    rw [Set.mem_ofPred_eq, hShows.has_iff, Finset.mem_coe, List.mem_toFinset]
  rw [Classes.count, hSet, Set.ncard_coe_finset, List.toFinset_card_of_nodup hDistinct, List.length_map,
    toList, List.length_map, length_entries]

end SetTable.Shows

namespace Heap

/-- Putting in an item of which there is none of its class. -/
theorem Gathers.put {index : Nat} {reusable : Option Nat} (hGathers : heap.Gathers depth table)
    (hItem : heap.IsItem depth ref) (hNew : heap.content depth ref ∉ table.toList.map (heap.content depth))
    (hPlace : table.Placeable (heap.hashAs depth ref) index reusable) :
    heap.Gathers depth (table.put (heap.hashAs depth ref) ref index reusable) ∧
      (table.put (heap.hashAs depth ref) ref index reusable).toList.Perm (ref :: table.toList) := by
  obtain ⟨hSound, hEntries⟩ := hGathers.sound.put hPlace ref
  have hPerm := hEntries.map Prod.snd
  refine ⟨⟨hSound, fun stored element hEntry => ?_, ?_⟩, hPerm⟩
  · rcases List.mem_cons.mp (hEntries.mem_iff.mp hEntry) with hFirst | hOld
    · cases hFirst
      exact ⟨hItem, rfl⟩
    · exact hGathers.item stored element hOld
  · refine (hPerm.map (heap.content depth)).nodup_iff.mpr ?_
    exact List.nodup_cons.mpr ⟨hNew, hGathers.distinct⟩

/-- Taking out an element. -/
theorem Gathers.eraseAt {index : Nat} {hash : Int} (hGathers : heap.Gathers depth table)
    (hElement : table.slot index = .element hash ref) :
    heap.Gathers depth (table.eraseAt index) ∧
      table.toList.Perm (ref :: (table.eraseAt index).toList) := by
  obtain ⟨hSound, hEntries⟩ := hGathers.sound.eraseAt hElement
  have hPerm : table.toList.Perm (ref :: (table.eraseAt index).toList) := hEntries.map Prod.snd
  refine ⟨⟨hSound, fun stored element hEntry => ?_, ?_⟩, hPerm⟩
  · exact hGathers.item stored element (hEntries.mem_iff.mpr (List.mem_cons_of_mem _ hEntry))
  · have hCons := (hPerm.map (heap.content depth)).nodup_iff.mp hGathers.distinct
    exact (List.nodup_cons.mp hCons).2

/-- A table without entries gathers at any depth. -/
theorem gathers_of_entries (hSound : table.Sound) (hEntries : table.entries = []) :
    heap.Gathers depth table where
  sound := hSound
  item stored ref hEntry := by
    rw [hEntries] at hEntry
    cases hEntry
  distinct := by
    rw [SetTable.toList, hEntries]
    exact List.nodup_nil

/-- Whether the class of an object leaves it to sets what the operations on it do. -/
structure LeavesToSets (heap : Heap) (set : Ref) : Prop where
  unscripted : ∀ method ∈ ["__contains__", "__len__", "__getattribute__"],
    heap.scripted? set method = none
  bound : ∀ method ∈ ["add", "discard", "clear"], heap.binding set method = .builtin .method

/-- Whether an object is a set of items that come to these classes. -/
structure Collects (heap : Heap) (set : Ref) (classes : Classes depth) : Prop where
  live : heap.isLive set = true
  leaves : heap.LeavesToSets set
  elements : ∃ table, heap.body set = .set table ∧ heap.Gathers depth table ∧
    table.Shows (heap.content depth) classes

/-- Sets leave the operations to sets. -/
theorem IsBuiltin.leavesToSets (hBuiltin : heap.IsBuiltin set) (hBody : heap.body set = .set table) :
    heap.LeavesToSets set := by
  have hScripted (method : String) : heap.scripted? set method = none := by
    rw [scripted?, script?, hBuiltin.script]
    rfl
  refine ⟨fun method _ => hScripted method, fun method hMethod => ?_⟩
  have hObject : (heap.view set).body = .set table := hBody
  simp only [List.mem_cons, List.not_mem_nil, or_false] at hMethod
  rcases hMethod with rfl | rfl | rfl <;>
    simp only [binding, classBinding, hScripted, Object.computes, hBuiltin.script, hBuiltin.attributes,
      hObject, Body.kind] <;> rfl

/-- What the operations on an object do hangs on its class, its attributes and its kind only. -/
theorem LeavesToSets.update {body : Body} (hLeaves : heap.LeavesToSets set)
    (hScript : after.script? set = heap.script? set)
    (hView : after.view set = { heap.view set with body }) (hKind : body.kind = (heap.body set).kind) :
    after.LeavesToSets set := by
  have hScripted (method : String) : after.scripted? set method = heap.scripted? set method := by
    rw [scripted?, scripted?, hScript]
  have hBinding (method : String) : after.binding set method = heap.binding set method := by
    have hBodyKind : (heap.view set).body.kind = body.kind := hKind.symm
    have hClass : after.classBinding set method = heap.classBinding set method := by
      simp only [classBinding, hScripted, hScript, hView, Object.computes, hBodyKind]
    rw [binding, binding, hClass, hView]
  exact ⟨fun method hMethod => (hScripted method).trans (hLeaves.unscripted method hMethod),
    fun method hMethod => (hBinding method).trans (hLeaves.bound method hMethod)⟩

/-- A set of a built-in type without elements comes to no classes. -/
theorem IsBuiltin.collects_empty (hBuiltin : heap.IsBuiltin set) (hBody : heap.body set = .set .empty) :
    heap.Collects set (.empty : Classes depth) where
  live := hBuiltin.live
  leaves := hBuiltin.leavesToSets hBody
  elements := ⟨.empty, hBody, gathers_of_entries SetTable.sound_empty SetTable.entries_empty,
    .empty SetTable.entries_empty⟩

namespace Collects

variable {classes others : Classes depth}

/-- A set with another table has other classes. -/
theorem update (hCollects : heap.Collects set classes) (hLive : after.isLive set = true)
    (hScript : after.script? set = heap.script? set)
    (hView : after.view set = { heap.view set with body := .set table })
    (hGathers : after.Gathers depth table) (hShows : table.Shows (after.content depth) others) :
    after.Collects set others where
  live := hLive
  leaves := by
    obtain ⟨old, hBody, _⟩ := hCollects.elements
    exact hCollects.leaves.update hScript hView (by rw [hBody]; rfl)
  elements := ⟨table, by rw [body, hView], hGathers, hShows⟩

/-- A set stays what it is if it and its elements do. -/
theorem lasts (hCollects : heap.Collects set classes) (hLive : after.isLive set = true)
    (hScript : after.script? set = heap.script? set) (hView : after.view set = heap.view set)
    (hLasts : ∀ table, heap.body set = .set table → ∀ ref ∈ table.toList, heap.IsItem depth ref →
      heap.Lasts after depth ref) : after.Collects set classes := by
  obtain ⟨table, hBody, hGathers, hShows⟩ := hCollects.elements
  have hElements : ∀ ref ∈ table.toList, heap.Lasts after depth ref := fun ref hRef =>
    hLasts table hBody ref hRef (hGathers.of_mem_toList hRef).1
  refine hCollects.update hLive hScript ?_ (hGathers.lasts hElements).1
    (hShows.congr fun ref hRef => (hElements ref hRef).content)
  rw [hView, ← hBody, body]

end Collects

end Heap

end HeapBridge.Host
