import HeapBridge.Proofs.Sets.Updates
/-!
Calls on sets of items. Asked for an item, a set answers whether it has the class of the item; adding,
discarding and clearing turn its classes into others. How the elements are stored, where a search for them
leads, and what is let go of on the way does not show.
-/
namespace HeapBridge

open Host (Classes Context Heap HostM Ops Ref SetTable nestingLimit)
open World (Edits Sheds Turns)
open scoped Classical

variable {world : World} {set item : Ref} {depth level : Nat} {classes others : Classes depth}
  {context : Context} {table : SetTable}

/-- A set gets a table with other classes. -/
theorem World.Edits.retable (hCollects : world.host.Collects set classes)
    (hGathers : world.host.Gathers depth table) (hShows : table.Shows (world.host.content depth) others) :
    Edits set world { world with host := world.host.setBody set (.set table) } ∧
      (world.host.setBody set (.set table)).Collects set others := by
  obtain ⟨old, hBody, _⟩ := hCollects.elements
  obtain ⟨hEdits, hView⟩ := Edits.setBody hBody hCollects.live table
  have hLasts : ∀ ref ∈ table.toList,
      world.host.Lasts (world.host.setBody set (.set table)) depth ref := by
    intro ref hRef
    exact hEdits.lasts hBody (hGathers.of_mem_toList hRef).1
  refine ⟨hEdits, hCollects.update (hEdits.live hCollects.live) hEdits.script?_eq hView ?_ ?_⟩
  · exact (Heap.Gathers.lasts hGathers hLasts).1
  · exact hShows.congr fun ref hRef => (hLasts ref hRef).content

namespace Host.SetObject

theorem eval_table (hBody : world.host.body set = .set table) :
    (SetObject.table set).eval context world = (.ok table, world) := by
  simp [SetObject.table, hBody, Body.elements?]

theorem eval_setTable {old : SetTable} (hBody : world.host.body set = .set old) :
    (setTable set table).eval context world =
      (.ok (), { world with host := world.host.setBody set (.set table) }) := by
  simp [setTable, hBody, setBody]

section Located

variable {ops : Ops} {key ref : Ref} {hash : Int} {index : Nat} {reusable : Option Nat} {after : World}

/-! What follows from where a search comes to. -/

theorem eval_addHashed_stored (hLocate : (locate ops set key hash true).Answers context world.host
    (.stored index)) : (addHashed ops set key hash).eval context world = (.ok (), world) := by
  rw [addHashed, HostM.eval_bind, hLocate world rfl]
  rfl

/-- An element that is not stored yet is put in the place found. -/
theorem eval_addHashed_free (hLocate : (locate ops set key hash true).Answers context world.host
    (.free index reusable)) (hBody : world.host.body set = .set table) :
    (addHashed ops set key hash).eval context world =
      (.ok (), { world with host := world.host.setBody set (.set (table.put hash key index reusable)) }) := by
  rw [addHashed, HostM.eval_bind, hLocate world rfl]
  dsimp only
  rw [HostM.eval_bind, eval_table hBody]
  exact eval_setTable hBody

theorem eval_discardHashed_free (hLocate : (locate ops set key hash false).Answers context world.host
    (.free index reusable)) : (discardHashed ops set key hash).eval context world = (.ok false, world) := by
  rw [discardHashed, HostM.eval_bind, hLocate world rfl]
  rfl

/-- The element is taken out of its place before it is released. -/
theorem eval_discardHashed_stored (hLocate : (locate ops set key hash false).Answers context
    world.host (.stored index)) (hBody : world.host.body set = .set table)
    (hElement : table.slot index = .element hash ref)
    (hRelease : (ops.release [ref]).eval context
      { world with host := world.host.setBody set (.set (table.eraseAt index)) } = (.ok (), after)) :
    (discardHashed ops set key hash).eval context world = (.ok true, after) := by
  have hAt : table.at? index = some ref := by
    rw [SetTable.at?, hElement]
    rfl
  rw [discardHashed, HostM.eval_bind, hLocate world rfl]
  dsimp only
  rw [HostM.eval_bind, eval_table hBody]
  dsimp only
  rw [HostM.eval_bind, eval_setTable hBody, hAt]
  dsimp only [Option.toList]
  rw [HostM.eval_bind, hRelease]
  rfl

end Located

/-- The table is cleared before its elements are let go of. -/
theorem eval_clear {after : World} {ops : Ops} (hBody : world.host.body set = .set table)
    (hRelease : (ops.release table.toList).eval context
      { world with host := world.host.setBody set (.set table.cleared) } = (.ok (), after)) :
    (clear ops set).eval context world = (.ok (), after) := by
  rw [clear, HostM.eval_bind, eval_table hBody]
  dsimp only
  rw [HostM.eval_bind, eval_setTable hBody]
  exact hRelease

/-- A search for an item comes to the element of its class or to a place for one. -/
theorem exists_located (hCollects : world.host.Collects set classes)
    (hItem : world.host.IsItem depth item) (hLevel : depth ≤ level)
    (hNesting : context.nesting + depth ≤ nestingLimit) (adding : Bool) :
    ∃ table, world.host.body set = .set table ∧ world.host.Gathers depth table ∧
      table.Shows (world.host.content depth) classes ∧ ∃ place,
        (locate (Ops.ofDepth level) set item (world.host.hashAs depth item) adding).Answers context world.host
          place ∧
        match place with
        | .stored index => ∃ ref, table.slot index = .element (world.host.hashAs depth item) ref ∧
            world.host.content depth ref = world.host.content depth item
        | .free index reusable => table.Placeable (world.host.hashAs depth item) index reusable ∧
            world.host.content depth item ∉ table.toList.map (world.host.content depth) := by
  obtain ⟨table, hBody, hGathers, hShows⟩ := hCollects.elements
  have hTable : (world.host.body set).elements? = some table := by rw [hBody]; rfl
  have hMatch : ∀ ref, (world.host.hashAs depth item, ref) ∈ table.entries →
      (matching (Ops.ofDepth level) ref item).Answers context world.host
        (decide (world.host.content depth ref = world.host.content depth item)) :=
    answers_matching_elements hCollects.live hTable hGathers
      (fun other hOther => answers_same hOther hItem hLevel hNesting) _
  have hLocate := answers_locate hTable hMatch (decide_eq_true rfl) adding
  refine ⟨table, hBody, hGathers, hShows, _, hLocate, ?_⟩
  rcases hGathers.sound.search (world.host.hashAs depth item)
      (fun ref => decide (world.host.content depth ref = world.host.content depth item)) with
    ⟨index, ref, hPlace, hElement, hSame⟩ | ⟨index, reusable, hPlace, hPlaceable, hNone⟩
  · rw [hPlace]
    exact ⟨ref, hElement, of_decide_eq_true hSame⟩
  · rw [hPlace]
    refine ⟨hPlaceable, fun hThere => ?_⟩
    obtain ⟨ref, hRef, hSame⟩ := List.mem_map.mp hThere
    obtain ⟨hOther, hEntry⟩ := hGathers.of_mem_toList hRef
    rw [Heap.hashAs_congr hOther hItem hSame] at hEntry
    exact of_decide_eq_false (hNone ref hEntry) hSame

/-- Whether an item is in a set. -/
theorem eval_containsHashed (hCollects : world.host.Collects set classes)
    (hItem : world.host.IsItem depth item) (hLevel : depth ≤ level)
    (hNesting : context.nesting + depth ≤ nestingLimit) :
    (containsHashed (Ops.ofDepth level) set item (world.host.hashAs depth item)).eval context world =
      (.ok (classes.has (world.host.content depth item)), world) := by
  obtain ⟨table, hBody, hGathers, hShows, place, hLocate, hPlace⟩ :=
    exists_located hCollects hItem hLevel hNesting false
  rw [containsHashed, HostM.eval_bind, hLocate world rfl, hShows.has_eq_decide]
  cases place with
  | stored index =>
    obtain ⟨ref, hElement, hSame⟩ := hPlace
    have hThere : world.host.content depth item ∈ table.toList.map (world.host.content depth) :=
      List.mem_map.mpr ⟨ref, List.mem_map_of_mem (SetTable.mem_entries_of_slot hElement), hSame⟩
    rw [decide_eq_true hThere]
    rfl
  | free index reusable =>
    rw [decide_eq_false hPlace.2]
    rfl

/-- An item is added unless its class is there. -/
theorem exists_eval_addHashed (hCollects : world.host.Collects set classes)
    (hItem : world.host.IsItem depth item) (hLevel : depth ≤ level)
    (hNesting : context.nesting + depth ≤ nestingLimit) :
    ∃ after, (addHashed (Ops.ofDepth level) set item (world.host.hashAs depth item)).eval context world =
        (.ok (), after) ∧
      Turns set world after (classes.insert (world.host.content depth item) item) := by
  obtain ⟨table, hBody, hGathers, hShows, place, hLocate, hPlace⟩ :=
    exists_located hCollects hItem hLevel hNesting true
  cases place with
  | stored index =>
    obtain ⟨ref, hElement, hSame⟩ := hPlace
    have hHas : classes.has (world.host.content depth item) = true :=
      hShows.has_iff.mpr (List.mem_map.mpr
        ⟨ref, List.mem_map_of_mem (SetTable.mem_entries_of_slot hElement), hSame⟩)
    rw [Classes.insert_of_has hHas]
    exact ⟨world, eval_addHashed_stored hLocate, .refl hCollects⟩
  | free index reusable =>
    obtain ⟨hPlaceable, hNew⟩ := hPlace
    obtain ⟨hPut, hPerm⟩ := hGathers.put hItem hNew hPlaceable
    have hHas : classes.has (world.host.content depth item) = false := by
      rw [hShows.has_eq_decide, decide_eq_false hNew]
    obtain ⟨hEdits, hAfter⟩ := Edits.retable hCollects hPut (hShows.insert hHas hPerm)
    exact ⟨_, eval_addHashed_free hLocate hBody, ⟨⟨_, hEdits, .of_held _⟩, rfl, hAfter⟩⟩

/-- The element of the class of an item is taken out, if there is one. -/
theorem exists_eval_discardHashed (hCollects : world.host.Collects set classes)
    (hItem : world.host.IsItem depth item) (hLevel : depth ≤ level)
    (hNesting : context.nesting + depth ≤ nestingLimit) :
    ∃ found after, (discardHashed (Ops.ofDepth level) set item (world.host.hashAs depth item)).eval context
        world = (.ok found, after) ∧
      Turns set world after (classes.erase (world.host.content depth item)) := by
  obtain ⟨table, hBody, hGathers, hShows, place, hLocate, hPlace⟩ :=
    exists_located hCollects hItem hLevel hNesting false
  cases place with
  | stored index =>
    obtain ⟨ref, hElement, hSame⟩ := hPlace
    obtain ⟨hErase, hPerm⟩ := hGathers.eraseAt hElement
    obtain ⟨hEdits, hAfter⟩ := Edits.retable hCollects hErase (hShows.erase hPerm hGathers.distinct)
    have hElementItem : world.host.IsItem depth ref :=
      (hGathers.of_mem_toList (List.mem_map_of_mem (SetTable.mem_entries_of_slot hElement))).1
    obtain ⟨after, hRelease, hSheds, hHeld⟩ :
        ∃ after, ((Ops.ofDepth level).release [ref]).eval context
            { world with host := world.host.setBody set (.set (table.eraseAt index)) } = (.ok (), after) ∧
          Sheds world.held { world with host := world.host.setBody set (.set (table.eraseAt index)) } after ∧
          after.held = world.held := by
      refine sheds_release (List.Subset.refl _) fun other hOther => ⟨depth, ?_⟩
      rw [List.mem_singleton.mp hOther]
      exact (hEdits.lasts hBody hElementItem).item
    exact ⟨true, after, eval_discardHashed_stored hLocate hBody hElement hRelease,
      ⟨⟨_, hEdits, hSheds⟩, hHeld, hSame ▸ hSheds.collects hAfter⟩⟩
  | free index reusable =>
    have hHas : classes.has (world.host.content depth item) = false := by
      rw [hShows.has_eq_decide, decide_eq_false hPlace.2]
    rw [Classes.erase_of_not_has hHas]
    exact ⟨false, world, eval_discardHashed_free hLocate, .refl hCollects⟩

/-- All elements are taken out. -/
theorem exists_eval_clear (hCollects : world.host.Collects set classes) (level : Nat)
    (context : Context) :
    ∃ after, (clear (Ops.ofDepth level) set).eval context world = (.ok (), after) ∧
      Turns set world after (.empty : Classes depth) := by
  obtain ⟨table, hBody, hGathers, _⟩ := hCollects.elements
  obtain ⟨hSound, hEntries⟩ := SetTable.Sound.cleared table
  obtain ⟨hEdits, hAfter⟩ := Edits.retable hCollects (Heap.gathers_of_entries hSound hEntries)
    (SetTable.Shows.empty hEntries)
  obtain ⟨after, hRelease, hSheds, hHeld⟩ :
      ∃ after, ((Ops.ofDepth level).release table.toList).eval context
          { world with host := world.host.setBody set (.set table.cleared) } = (.ok (), after) ∧
        Sheds world.held { world with host := world.host.setBody set (.set table.cleared) } after ∧
        after.held = world.held :=
    sheds_release (List.Subset.refl _) fun ref hRef =>
      ⟨depth, (hEdits.lasts hBody (hGathers.of_mem_toList hRef).1).item⟩
  exact ⟨after, eval_clear hBody hRelease, ⟨⟨_, hEdits, hSheds⟩, hHeld, hSheds.collects hAfter⟩⟩

end Host.SetObject

namespace Host

/-- Items that can be compared in a call can be hashed. -/
theorem eval_hash_item (hItem : world.host.IsItem depth item) (hDepth : depth < nestingLimit)
    (context : Context) :
    (Host.ops.hash item).eval context world = (.ok (world.host.hashAs depth item), world) := by
  have hLevel : depth ≤ depthLimit := hDepth.le.trans (by decide)
  exact answers_hash hItem hLevel world rfl

/-- Host code takes items of one content for the same. -/
theorem exists_runOn_same {a b : Ref} (hA : world.host.IsItem depth a) (hB : world.host.IsItem depth b)
    (hDepth : depth < nestingLimit) :
    ∃ answer, HostM.runOn (same Host.ops a b) world = (.ok answer, world) ∧
      (answer = true ↔ world.host.content depth a = world.host.content depth b) := by
  have hLevel : depth ≤ depthLimit := hDepth.le.trans (by decide)
  exact ⟨_, answers_same hA hB hLevel (by simp; omega) world rfl, decide_eq_true_iff⟩

/-- A set is asked itself unless a script of its class is. -/
theorem eval_contains {ops : Ops} {key : Ref} {context : Context}
    (hPlain : world.host.scripted? set "__contains__" = none) (hTable : (world.host.body set).elements? = some table) :
    (contains ops set key).eval context world = (SetObject.contains ops set key).eval context world := by
  rw [contains, HostM.eval_bind, eval_scripted?_none hPlain]
  dsimp only
  rw [builtinContains, HostM.eval_bind, HostM.eval_bodyOf]
  dsimp only
  cases hBody : world.host.body set <;> rw [hBody] at hTable <;> first | rfl | cases hTable

/-- Whether something with a hash is in a set, as host code asks. -/
theorem runOn_contains_of {ops : Ops} {key : Ref} {hash : Int} {answer : Bool}
    (hLeaves : world.host.LeavesToSets set) (hBody : world.host.body set = .set table)
    (hHash : (ops.hash key).eval {} world = (.ok hash, world))
    (hContains : (SetObject.containsHashed ops set key hash).eval {} world = (.ok answer, world)) :
    HostM.runOn (contains ops set key) world = (.ok answer, world) := by
  rw [HostM.runOn, eval_contains (hLeaves.unscripted "__contains__" (by simp)) (congrArg Body.elements? hBody)]
  apply HostM.eval_tryCatch
  simp only [HostM.eval_bind, hHash, hContains]

/-- Whether an item is in a set, as host code asks. -/
theorem runOn_contains (hCollects : world.host.Collects set classes)
    (hItem : world.host.IsItem depth item) (hDepth : depth < nestingLimit) :
    HostM.runOn (contains Host.ops set item) world =
      (.ok (classes.has (world.host.content depth item)), world) := by
  obtain ⟨table, hBody, _⟩ := hCollects.elements
  exact runOn_contains_of hCollects.leaves hBody (eval_hash_item hItem hDepth {})
    (SetObject.eval_containsHashed hCollects hItem (hDepth.le.trans (by decide)) (by simp; omega))

/-- The length of a set is the number of its classes. -/
theorem runOn_length_classes (hCollects : world.host.Collects set classes) :
    HostM.runOn (length Host.ops set) world = (.ok classes.count, world) := by
  obtain ⟨table, hBody, hGathers, hShows⟩ := hCollects.elements
  have hTable : (world.host.body set).elements? = some table := by
    rw [hBody]
    rfl
  rw [hShows.count_eq hGathers.distinct]
  exact runOn_length hTable (hCollects.leaves.unscripted "__len__" (by simp))

/-- A method that a class leaves to sets is called one level down. -/
theorem runOn_callMethod {method : String} {arguments : List Ref} {result : Except Fault Ref} {after : World}
    (hLeaves : world.host.LeavesToSets set) (hBody : world.host.body set = .set table)
    (hMethod : method ∈ ["add", "discard", "clear"])
    (hCall : (SetObject.callMethod? Host.ops set method arguments).eval { nesting := 1 } world =
      (result.map some, after)) :
    HostM.runOn (call Host.ops set method arguments) world = (result, after) := by
  have hPlain := hLeaves.unscripted "__getattribute__" (by simp)
  have hBound := hLeaves.bound method hMethod
  simp only [HostM.runOn, call, HostM.eval_bind, HostM.eval_heap, hPlain, hBound, Option.isNone_none]
  unfold callBuiltin
  rw [HostM.eval_nested _ _ (by decide)]
  cases result <;>
    simp only [callKindMethod?, typeNameOf, HostM.eval_bind, HostM.eval_bodyOf, HostM.eval_heap,
      HostM.eval_pure, hBody, hCall, Except.map]

/-- Something with a hash is added, as host code does it. -/
theorem runOn_add_of {key : Ref} {hash : Int} {after : World} (hLeaves : world.host.LeavesToSets set)
    (hBody : world.host.body set = .set table)
    (hHash : (Host.ops.hash key).eval { nesting := 1 } world = (.ok hash, world))
    (hAdd : (SetObject.addHashed Host.ops set key hash).eval { nesting := 1 } world = (.ok (), after)) :
    HostM.runOn (call Host.ops set "add" [key]) world = (.ok .nil, after) := by
  apply runOn_callMethod hLeaves hBody (by simp)
  simp only [SetObject.callMethod?, SetObject.done, SetObject.add, Arguments.only, typeNameOf,
    HostM.eval_bind, HostM.eval_map, HostM.eval_heap, HostM.eval_pure, hHash, hAdd]

/-- An item is added, as host code does it. -/
theorem exists_runOn_add (hCollects : world.host.Collects set classes)
    (hItem : world.host.IsItem depth item) (hDepth : depth < nestingLimit) :
    ∃ after, HostM.runOn (call Host.ops set "add" [item]) world = (.ok .nil, after) ∧
      Turns set world after (classes.insert (world.host.content depth item) item) := by
  obtain ⟨after, hAdd, hTurns⟩ :
      ∃ after, (SetObject.addHashed Host.ops set item (world.host.hashAs depth item)).eval { nesting := 1 }
          world = (.ok (), after) ∧
        Turns set world after (classes.insert (world.host.content depth item) item) :=
    SetObject.exists_eval_addHashed hCollects hItem (hDepth.le.trans (by decide)) (by simp; omega)
  obtain ⟨table, hBody, _⟩ := hCollects.elements
  exact ⟨after, runOn_add_of hCollects.leaves hBody (eval_hash_item hItem hDepth _) hAdd, hTurns⟩

/-- Something with a hash is discarded, as host code does it. -/
theorem runOn_discard_of {key : Ref} {hash : Int} {found : Bool} {after : World}
    (hLeaves : world.host.LeavesToSets set) (hBody : world.host.body set = .set table)
    (hHash : (Host.ops.hash key).eval { nesting := 1 } world = (.ok hash, world))
    (hDiscard : (SetObject.discardHashed Host.ops set key hash).eval { nesting := 1 } world =
      (.ok found, after)) :
    HostM.runOn (call Host.ops set "discard" [key]) world = (.ok .nil, after) := by
  have hKeyed : (SetObject.discard Host.ops set key).eval { nesting := 1 } world = (.ok found, after) := by
    apply HostM.eval_tryCatch
    simp only [HostM.eval_bind, hHash, hDiscard]
  have hDone : (Functor.discard (SetObject.discard Host.ops set key)).eval { nesting := 1 } world =
      (.ok (), after) := by
    change ((fun _ => ()) <$> SetObject.discard Host.ops set key).eval { nesting := 1 } world = _
    rw [HostM.eval_map, hKeyed]
    rfl
  apply runOn_callMethod hLeaves hBody (by simp)
  simp only [SetObject.callMethod?, SetObject.done, Arguments.only, typeNameOf, HostM.eval_bind,
    HostM.eval_map, HostM.eval_heap, HostM.eval_pure, hDone]

/-- An item is discarded, as host code does it. -/
theorem exists_runOn_discard (hCollects : world.host.Collects set classes)
    (hItem : world.host.IsItem depth item) (hDepth : depth < nestingLimit) :
    ∃ after, HostM.runOn (call Host.ops set "discard" [item]) world = (.ok .nil, after) ∧
      Turns set world after (classes.erase (world.host.content depth item)) := by
  obtain ⟨found, after, hDiscard, hTurns⟩ :
      ∃ found after, (SetObject.discardHashed Host.ops set item (world.host.hashAs depth item)).eval
          { nesting := 1 } world = (.ok found, after) ∧
        Turns set world after (classes.erase (world.host.content depth item)) :=
    SetObject.exists_eval_discardHashed hCollects hItem (hDepth.le.trans (by decide)) (by simp; omega)
  obtain ⟨table, hBody, _⟩ := hCollects.elements
  exact ⟨after, runOn_discard_of hCollects.leaves hBody (eval_hash_item hItem hDepth _) hDiscard, hTurns⟩

/-- A set is cleared, as host code does it. -/
theorem runOn_clear_of {after : World} (hLeaves : world.host.LeavesToSets set)
    (hBody : world.host.body set = .set table)
    (hClear : (SetObject.clear Host.ops set).eval { nesting := 1 } world = (.ok (), after)) :
    HostM.runOn (call Host.ops set "clear" []) world = (.ok .nil, after) := by
  apply runOn_callMethod hLeaves hBody (by simp)
  simp only [SetObject.callMethod?, SetObject.done, Arguments.nothing, typeNameOf, HostM.eval_bind,
    HostM.eval_map, HostM.eval_heap, HostM.eval_pure, hClear]

/-- A set without its items has no classes. -/
theorem exists_runOn_clear (hCollects : world.host.Collects set classes) :
    ∃ after, HostM.runOn (call Host.ops set "clear" []) world = (.ok .nil, after) ∧
      Turns set world after (.empty : Classes depth) := by
  obtain ⟨after, hClear, hTurns⟩ : ∃ after,
      (SetObject.clear Host.ops set).eval { nesting := 1 } world = (.ok (), after) ∧
        Turns set world after (.empty : Classes depth) :=
    SetObject.exists_eval_clear hCollects depthLimit _
  obtain ⟨table, hBody, _⟩ := hCollects.elements
  exact ⟨after, runOn_clear_of hCollects.leaves hBody hClear, hTurns⟩

end Host

end HeapBridge
