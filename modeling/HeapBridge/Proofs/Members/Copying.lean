import HeapBridge.Proofs.Scenes.Reading
import HeapBridge.Proofs.Scenes.Removing
import HeapBridge.Proofs.Surfacing.Reports
/-!
Copies that set proxies make. What a copy is hangs on the set: one that can be changed gives a new set with its
elements, to which anything with a hash can be added as long as no comparison fails. A frozen set gives a frozen
set, its own self if it is of the built-in type, and a proxy of that can be changed by nothing.
-/
namespace HeapBridge

open Host (Body Context Fault Heap HostM Object Ops Probe Ref SetTable nestingLimit stepLimit)

variable {world after : World} {set key : Ref} {table : SetTable} {hash : Int} {item : NativeValue}

namespace Host

/-! Changing sets. -/

/-- What a comparison comes to after which `stands` still holds of the world: it answers, and changes the set only
if fewer changes are left then. -/
def Settles (stands : Nat → World → Prop) (set key ref : Ref) (changes : Nat) (before : World) : Prop :=
  ∃ answer after, (matching Host.ops ref key).eval { nesting := 1 } before = (.ok answer, after) ∧
    ((after.host.body set).elements? = (before.host.body set).elements? ∧ stands changes after ∨
      ∃ fewer < changes, stands fewer after)

/-- Whether what a set has under a hash can be compared with an object. Each comparison may do what it likes, as
long as it comes to an answer, and so do those after it; but they cannot change the set for ever. -/
def Compares (set key : Ref) (hash : Int) (world : World) : Prop :=
  ∃ stands : Nat → World → Prop, (∃ changes ≤ stepLimit, stands changes world) ∧
    ∀ changes before, stands changes before → ∀ table ref,
      (before.host.body set).elements? = some table → (hash, ref) ∈ table.entries →
        Settles stands set key ref changes before

/-- Whether an object has a hash, and what a set has under it can be compared with the object. -/
def Hashable (set key : Ref) (world : World) : Prop :=
  ∃ hash after, (Host.ops.hash key).eval { nesting := 1 } world = (.ok hash, after) ∧ Compares set key hash after

/-- To let go of something does not fail. -/
theorem exists_eval_release (refs : List Ref) (context : Context) (world : World) :
    ∃ after, (Host.ops.release refs).eval context world = (.ok (), after) :=
  ⟨_, Prod.ext (eval_release_ok depthLimit refs context world) rfl⟩

/-- Items have hashes and can be compared. -/
theorem hashable_of_items {depth : Nat} (hElements : (world.host.body set).elements? = some table)
    (hItems : ∀ ref ∈ table.toList, world.host.IsItem depth ref) (hKey : world.host.IsItem depth key)
    (hDepth : depth < nestingLimit) : Hashable set key world := by
  have hLevel : depth ≤ depthLimit := hDepth.le.trans (by decide)
  refine ⟨_, world, eval_hash_item hKey hDepth _, fun _ later => later.host = world.host,
    ⟨0, Nat.zero_le _, rfl⟩, ?_⟩
  intro changes before hHost other ref hOther hEntry
  rw [hHost, hElements] at hOther
  cases hOther
  have hRef := List.mem_map_of_mem (f := Prod.snd) hEntry
  have hNesting : ({ nesting := 1 } : Context).nesting + depth ≤ nestingLimit := by
    dsimp only
    omega
  have hRefers := refersTo_of_element (Heap.isLive_of_elements hElements) hElements hRef
  exact ⟨_, before, answers_matching hRefers (answers_same (hItems ref hRef) hKey hLevel hNesting) before hHost,
    .inl ⟨rfl, hHost⟩⟩

namespace SetObject

theorem eval_table_getD (set : Ref) (context : Context) (world : World) :
    (SetObject.table set).eval context world = (.ok ((world.host.body set).elements?.getD .empty), world) := rfl

section Comparisons

variable {stands : Nat → World → Prop} (hNext : ∀ changes before, stands changes before → ∀ table ref,
  (before.host.body set).elements? = some table → (hash, ref) ∈ table.entries →
    Settles stands set key ref changes before)

include hNext

/-- A search in which no comparison fails comes to a place if it does so whenever it has to start again. -/
theorem exists_eval_locateAlong {changes : Nat} (hStands : stands changes world) (adding : Bool)
    {again : SetTable → HostM Place}
    (hAgain : ∀ fewer < changes, ∀ later, stands fewer later → ∃ place after,
      (again ((later.host.body set).elements?.getD .empty)).eval { nesting := 1 } later = (.ok place, after))
    (steps : Nat) (probe : Probe) (reusable : Option Nat) :
    ∃ place after, (locateAlong Host.ops set key hash adding again steps probe reusable).eval { nesting := 1 } world =
      (.ok place, after) := by
  induction steps generalizing world changes probe reusable with
  | zero => exact ⟨_, _, rfl⟩
  | succ steps ih =>
    rw [locateAlong, HostM.eval_bind, eval_table_getD]
    dsimp only
    cases hSeek : ((world.host.body set).elements?.getD .empty).seek hash probe reusable with
    | free index reusable => exact ⟨_, _, rfl⟩
    | candidate index ref rest reusable =>
      have hEntry := SetTable.mem_entries_of_slot (SetTable.slot_of_seek hSeek)
      dsimp only
      split
      next => exact ⟨_, _, rfl⟩
      next =>
        cases hElements : (world.host.body set).elements? with
        | none =>
          rw [hElements, Option.getD_none, SetTable.entries_empty] at hEntry
          cases hEntry
        | some table =>
          rw [hElements, Option.getD_some] at hEntry
          obtain ⟨isEqual, middle, hMatching, hMiddle⟩ := hNext changes world hStands table ref hElements hEntry
          rw [HostM.eval_bind, hMatching]
          dsimp only
          rw [HostM.eval_bind, eval_table_getD]
          dsimp only
          split
          · exact ⟨_, _, rfl⟩
          · rcases hMiddle with ⟨hSame, hMiddle⟩ | ⟨fewer, hFewer, hMiddle⟩
            · have hStill : (((middle.host.body set).elements?.getD .empty).isSamePlace table &&
                  decide (((middle.host.body set).elements?.getD .empty).at? index = some ref)) = true := by
                have hSlot := SetTable.slot_of_seek hSeek
                rw [hElements, Option.getD_some] at hSlot
                rw [hSame, hElements, Option.getD_some]
                simp [SetTable.isSamePlace, SetTable.at?, hSlot, SetSlot.element?]
              rw [Option.getD_some, if_pos hStill]
              exact ih hMiddle hAgain rest _
            · split
              · exact ih hMiddle (fun less hLess => hAgain less (hLess.trans hFewer)) rest _
              · exact hAgain fewer hFewer middle hMiddle

/-- A search comes to a place that comparisons can only so often make start again. -/
theorem exists_eval_locateFrom {changes steps : Nat} (hStands : stands changes world) (hSteps : changes < steps)
    (adding : Bool) :
    ∃ place after, (locateFrom Host.ops set key hash adding steps
      ((world.host.body set).elements?.getD .empty)).eval { nesting := 1 } world = (.ok place, after) := by
  induction steps generalizing changes world with
  | zero => omega
  | succ steps ih =>
    rw [locateFrom]
    exact exists_eval_locateAlong hNext hStands adding
      (fun fewer hFewer later hLater => ih hLater (by omega)) _ _ _

end Comparisons

/-- Finding the place of an element that can be hashed succeeds. -/
theorem exists_eval_locate (hHashable : Hashable set key world) (adding : Bool) :
    ∃ hash middle place after, (Host.ops.hash key).eval { nesting := 1 } world = (.ok hash, middle) ∧
      (locate Host.ops set key hash adding).eval { nesting := 1 } middle = (.ok place, after) := by
  obtain ⟨hash, middle, hHash, stands, ⟨changes, hChanges, hStands⟩, hNext⟩ := hHashable
  obtain ⟨place, after, hLocate⟩ := exists_eval_locateFrom hNext hStands
    (Nat.lt_succ_of_le (Nat.le_add_right_of_le hChanges)) adding
  refine ⟨hash, middle, place, after, hHash, ?_⟩
  rw [locate, HostM.eval_bind, eval_table_getD]
  exact hLocate

/-- A set takes any table. -/
theorem exists_eval_setTable (set : Ref) (table : SetTable) (context : Context) (world : World) :
    ∃ after, (setTable set table).eval context world = (.ok (), after) := by
  rw [setTable, HostM.eval_bind, HostM.eval_bodyOf]
  dsimp only
  split <;> exact ⟨_, rfl⟩

/-- What a set has at a place is taken out. -/
theorem exists_eval_takeAt (set : Ref) (index : Nat) (context : Context) (world : World) :
    ∃ after, (do
      let old ← SetObject.table set
      setTable set (old.eraseAt index)
      Host.ops.release (old.at? index).toList
      return true : HostM Bool).eval context world = (.ok true, after) := by
  rw [HostM.eval_bind, eval_table_getD]
  dsimp only
  obtain ⟨after, hSet⟩ := exists_eval_setTable set
    (((world.host.body set).elements?.getD .empty).eraseAt index) context world
  obtain ⟨last, hRelease⟩ := exists_eval_release
    (((world.host.body set).elements?.getD .empty).at? index).toList context after
  rw [HostM.eval_bind, hSet]
  dsimp only
  rw [HostM.eval_bind, hRelease]
  exact ⟨last, rfl⟩

/-- A hashable key can be added to any set. -/
theorem exists_eval_add (hHashable : Hashable set key world) :
    ∃ after, (SetObject.add Host.ops set key).eval { nesting := 1 } world = (.ok (), after) := by
  obtain ⟨hash, middle, place, last, hHash, hLocate⟩ := exists_eval_locate hHashable true
  rw [SetObject.add, HostM.eval_bind, hHash]
  dsimp only
  rw [addHashed, HostM.eval_bind, hLocate]
  cases place with
  | stored index => exact ⟨last, rfl⟩
  | free index reusable =>
    dsimp only
    rw [HostM.eval_bind, eval_table_getD]
    exact exists_eval_setTable ..

/-- It can be taken out of it, too. -/
theorem exists_eval_discard (hHashable : Hashable set key world) :
    ∃ found after, (SetObject.discard Host.ops set key).eval { nesting := 1 } world = (.ok found, after) := by
  obtain ⟨hash, middle, place, last, hHash, hLocate⟩ := exists_eval_locate hHashable false
  have hOnce : ∃ found after, (do discardHashed Host.ops set key (← Host.ops.hash key) : HostM Bool).eval
      { nesting := 1 } world = (.ok found, after) := by
    rw [HostM.eval_bind, hHash]
    dsimp only
    rw [discardHashed, HostM.eval_bind, hLocate]
    cases place with
    | free index reusable => exact ⟨false, last, rfl⟩
    | stored index =>
      obtain ⟨after, hTake⟩ := exists_eval_takeAt set index { nesting := 1 } last
      exact ⟨true, after, hTake⟩
  obtain ⟨found, after, hOnce⟩ := hOnce
  exact ⟨found, after, HostM.eval_tryCatch hOnce⟩

end SetObject

variable (hLeaves : world.host.LeavesToSets set) (hBody : world.host.body set = .set table)

include hLeaves hBody

theorem exists_runOn_add_hashable (hHashable : Hashable set key world) :
    ∃ after, HostM.runOn (call Host.ops set "add" [key]) world = (.ok .nil, after) := by
  obtain ⟨after, hAdd⟩ := SetObject.exists_eval_add hHashable
  refine ⟨after, runOn_callMethod hLeaves hBody (by simp) ?_⟩
  simp only [SetObject.callMethod?, SetObject.done, Arguments.only, typeNameOf, HostM.eval_bind, HostM.eval_map,
    HostM.eval_heap, HostM.eval_pure, hAdd]

theorem exists_runOn_discard_hashable (hHashable : Hashable set key world) :
    ∃ after, HostM.runOn (call Host.ops set "discard" [key]) world = (.ok .nil, after) := by
  obtain ⟨found, after, hDiscard⟩ := SetObject.exists_eval_discard hHashable
  exact ⟨after, runOn_discard hLeaves hBody hDiscard⟩

theorem exists_runOn_clear_any : ∃ after, HostM.runOn (call Host.ops set "clear" []) world = (.ok .nil, after) := by
  obtain ⟨after, hRelease⟩ := exists_eval_release table.toList { nesting := 1 }
    { world with host := world.host.setBody set (.set table.cleared) }
  exact ⟨after, runOn_clear_of hLeaves hBody (SetObject.eval_clear hBody hRelease)⟩

omit hLeaves hBody

/-! Frozen sets. -/

/-- An object of a built-in type has no method of its own. -/
theorem Heap.IsBuiltin.unscripted {heap : Heap} (hBuiltin : heap.IsBuiltin set) (method : String) :
    heap.scripted? set method = none := by
  rw [Heap.scripted?, Heap.script?, hBuiltin.script]
  rfl

/-- A method that an object does not have cannot be called. -/
theorem runOn_call_absent {method : String} (hPlain : world.host.scripted? set "__getattribute__" = none)
    (hAsk : world.host.scripted? set "__getattr__" = none) (hAbsent : world.host.binding set method = .absent)
    (arguments : List Ref) :
    HostM.runOn (call Host.ops set method arguments) world =
      (.error { cause := .noAttribute (world.host.typeName set) method }, world) := by
  have hNone (asked : String) (hScripted : world.host.scripted? set asked = none) :
      (askFor Host.ops set asked method).eval {} world = (.ok none, world) := by
    simp only [askFor, HostM.eval_bind, HostM.eval_heap, hScripted, Option.isNone_none]
    rfl
  have hAttribute : (plainAttribute Host.ops set method).eval {} world =
      (.error { cause := .noAttribute (world.host.typeName set) method }, world) := by
    simp only [plainAttribute, HostM.eval_bind, HostM.eval_heap, hAbsent]
    rfl
  have hGet : (getAttribute Host.ops set method).eval {} world =
      (.error { cause := .noAttribute (world.host.typeName set) method }, world) := by
    have hMissing : (Fault.mk (.noAttribute (world.host.typeName set) method) []).exception = "AttributeError" := rfl
    rw [getAttribute, HostM.eval_tryCatch_error (by rw [HostM.eval_bind, hNone _ hPlain]; exact hAttribute),
      if_pos hMissing, HostM.eval_bind, hNone _ hAsk]
    rfl
  simp only [HostM.runOn, call, HostM.eval_bind, HostM.eval_heap, hAbsent, hPlain, Option.isNone_none]
  rw [hGet]

/-- A frozen set of the built-in type has no method that would change it. -/
theorem Heap.IsBuiltin.lacks (hBuiltin : world.host.IsBuiltin set) (hFrozen : world.host.body set = .frozenset table)
    {method : String} (hMethod : method ∈ ["add", "discard", "clear"]) : world.host.binding set method = .absent := by
  have hObject : (world.host.view set).body = .frozenset table := hFrozen
  simp only [List.mem_cons, List.not_mem_nil, or_false] at hMethod
  rcases hMethod with rfl | rfl | rfl <;>
    simp only [Heap.binding, Heap.classBinding, hBuiltin.unscripted, Object.computes, hBuiltin.script,
      hBuiltin.attributes, hObject, Body.kind] <;> rfl

/-- What a frozen set lacks is reported as a missing attribute. -/
theorem runOn_change_frozen (hBuiltin : world.host.IsBuiltin set) (hFrozen : world.host.body set = .frozenset table)
    {method : String} (hMethod : method ∈ ["add", "discard", "clear"]) (arguments : List Ref) :
    HostM.runOn (call Host.ops set method arguments) world =
      (.error { cause := .noAttribute "frozenset" method }, world) := by
  have hType : world.host.typeName set = "frozenset" := by
    rw [Heap.typeName, Heap.script?, hBuiltin.script, hFrozen]
    rfl
  rw [runOn_call_absent (hBuiltin.unscripted _) (hBuiltin.unscripted _) (hBuiltin.lacks hFrozen hMethod), hType]

/-! What sets make of themselves. -/

/-- Whether the class of a set leaves it to sets to be copied. Only objects of classes have attributes of their
own. -/
structure Heap.CopiesAsSets (heap : Heap) (set : Ref) : Prop where
  unscripted : heap.scripted? set "__getattribute__" = none
  bound : heap.binding set "copy" = .builtin .method
  bare : (heap.view set).script = none → (heap.view set).attributes = []

/-- A set makes a copy of itself when a class that leaves that to sets is asked for one. -/
theorem runOn_copy (hCopies : world.host.CopiesAsSets set)
    (hElements : (world.host.body set).elements? = some table) {copy : Ref}
    (hCopy : (SetObject.copy set).eval { nesting := 1 } world = (.ok copy, after)) :
    HostM.runOn (call Host.ops set "copy" []) world = (.ok copy, after) := by
  have hMethod : (SetObject.callMethod? Host.ops set "copy" []).eval { nesting := 1 } world =
      (.ok (some copy), after) := by
    simp only [SetObject.callMethod?, Arguments.nothing, typeNameOf, HostM.eval_bind, HostM.eval_map,
      HostM.eval_heap, HostM.eval_pure]
    rw [hCopy]
    rfl
  simp only [HostM.runOn, call, HostM.eval_bind, HostM.eval_heap, hCopies.unscripted, hCopies.bound,
    Option.isNone_none]
  unfold callBuiltin
  rw [HostM.eval_nested _ _ (by decide)]
  revert hElements
  cases hBody : world.host.body set <;> intro hElements <;> cases hElements <;>
    simp only [callKindMethod?, typeNameOf, HostM.eval_bind, HostM.eval_bodyOf, HostM.eval_heap, HostM.eval_pure,
      hBody, hMethod]

/-- A set copies itself by a new table in a new object. -/
theorem SetObject.eval_copy_set (hBody : world.host.body set = .set table) (context : Context) :
    (SetObject.copy set).eval context world = (.ok (.object world.host.cells.size),
      { world with host := (world.host.allocate { body := .set table.copied }).2 }) := by
  have hCopied : (SetObject.copied set).eval context world = (.ok (.object world.host.cells.size),
      { world with host := (world.host.allocate { body := .set table.copied }).2 }) := by
    rw [SetObject.copied, HostM.eval_bind, SetObject.eval_table hBody]
    dsimp only
    rw [SetObject.makeLike, HostM.eval_bind, HostM.eval_bodyOf, hBody]
    rfl
  have hObject : (world.host.view set).body = .set table := hBody
  rw [SetObject.copy, HostM.eval_bind, HostM.eval_heap]
  dsimp only
  rw [hObject]
  cases (world.host.view set).script <;> exact hCopied

/-- A frozen set of a class of its own makes one of the built-in type, another one is its own copy. -/
theorem SetObject.eval_copy_frozen (hBody : world.host.body set = .frozenset table) (context : Context) :
    (SetObject.copy set).eval context world =
      if (world.host.view set).script = none then (.ok set, world)
      else (.ok (.object world.host.cells.size),
        { world with host := (world.host.allocate { body := .frozenset table.copied }).2 }) := by
  have hCopied : (SetObject.copied set).eval context world = (.ok (.object world.host.cells.size),
      { world with host := (world.host.allocate { body := .frozenset table.copied }).2 }) := by
    have hTable : (SetObject.table set).eval context world = (.ok table, world) := by
      rw [SetObject.eval_table_getD, hBody]
      rfl
    rw [SetObject.copied, HostM.eval_bind, hTable]
    dsimp only
    rw [SetObject.makeLike, HostM.eval_bind, HostM.eval_bodyOf, hBody]
    rfl
  have hObject : (world.host.view set).body = .frozenset table := hBody
  rw [SetObject.copy, HostM.eval_bind, HostM.eval_heap]
  dsimp only
  rw [hObject]
  cases (world.host.view set).script with
  | none => rfl
  | some number => exact hCopied

end Host

namespace ForeignSet

/-! Proxies of copies. -/

/-- Whether what a value crosses as can be looked for in a set. -/
def Accepts (set : Ref) (item : NativeValue) (world : World) : Prop :=
  Host.Hashable set (item.crossed world).1 ((item.crossed world).2.holdAll [(item.crossed world).1])

/-- Whether the operations on a set that change it succeed: an item is added or removed if it can be looked for, and
all elements are removed anyhow. -/
structure TakesChanges (set : Ref) (world : World) : Prop where
  add : ∀ item, Accepts set item world → ((add set item).run.run world).1 = .ok ()
  remove : ∀ item, Accepts set item world → ((remove set item).run.run world).1 = .ok ()
  removeAll : ((removeAll set).run.run world).1 = .ok ()

/-- What is told of a frozen set that is to be changed. -/
def frozenReport (method : String) : String := s!"AttributeError: 'frozenset' object has no attribute '{method}'"

/-- Whether all operations on a set that change it fail, with any item. -/
structure RefusesChanges (set : Ref) (world : World) : Prop where
  add : ∀ item, ((add set item).run.run world).1 = .error (.contractViolation .add (frozenReport "add"))
  remove : ∀ item, ((remove set item).run.run world).1 = .error (.contractViolation .remove (frozenReport "discard"))
  removeAll : ((removeAll set).run.run world).1 = .error (.contractViolation .removeAll (frozenReport "clear"))

/-- An object of a built-in type is one when a value has crossed. -/
theorem isBuiltin_crossed (hBuiltin : world.host.IsBuiltin set) (item : NativeValue) :
    (item.crossed world).2.host.IsBuiltin set ∧
      (item.crossed world).2.host.body set = world.host.body set := by
  have hExtends := item.extends_crossed world
  have hView := hExtends.stays set hBuiltin.live
  exact ⟨⟨hExtends.remains set hBuiltin.live, hView ▸ hBuiltin.script, hView ▸ hBuiltin.attributes⟩,
    hExtends.body_eq hBuiltin.live⟩

/-- A set of the built-in type that can be changed takes changes. -/
theorem takesChanges (hBuiltin : world.host.IsBuiltin set) (hBody : world.host.body set = .set table) :
    TakesChanges set world where
  add item hAccepts := by
    obtain ⟨hThere, hSame⟩ := isBuiltin_crossed hBuiltin item
    have hHeld : ((item.crossed world).2.holdAll [(item.crossed world).1]).host.body set = .set table :=
      hSame.trans hBody
    have hLeaves : ((item.crossed world).2.holdAll [(item.crossed world).1]).host.LeavesToSets set :=
      hThere.leavesToSets hHeld
    obtain ⟨after, hCall⟩ := Host.exists_runOn_add_hashable hLeaves hHeld hAccepts
    rw [add_eq, run_bind, item.run_toHost]
    dsimp only
    rw [run_command hCall]
  remove item hAccepts := by
    obtain ⟨hThere, hSame⟩ := isBuiltin_crossed hBuiltin item
    have hHeld : ((item.crossed world).2.holdAll [(item.crossed world).1]).host.body set = .set table :=
      hSame.trans hBody
    have hLeaves : ((item.crossed world).2.holdAll [(item.crossed world).1]).host.LeavesToSets set :=
      hThere.leavesToSets hHeld
    obtain ⟨after, hCall⟩ := Host.exists_runOn_discard_hashable hLeaves hHeld hAccepts
    rw [remove_eq, run_bind, item.run_toHost]
    dsimp only
    rw [run_command hCall]
  removeAll := by
    have hHeld : (world.holdAll []).host.body set = .set table := hBody
    obtain ⟨after, hCall⟩ := Host.exists_runOn_clear_any (hBuiltin.leavesToSets hBody) hHeld
    rw [removeAll_eq, run_command hCall]

/-- A method that a frozen set does not have is called. -/
theorem run_command_frozen (hBuiltin : world.host.IsBuiltin set) (hFrozen : world.host.body set = .frozenset table)
    (operation : Operation) {method : String} (hMethod : method ∈ ["add", "discard", "clear"]) (refs : List Ref) :
    ((SetProgram.command refs (BridgeM.contract operation (Host.call Host.ops set method refs))).run.run world).1 =
      .error (.contractViolation operation (frozenReport method)) := by
  have hThere : (world.holdAll refs).host.IsBuiltin set := hBuiltin
  have hReport : ((world.holdAll refs).textFrom
      (Host.report Host.ops { cause := .noAttribute "frozenset" method })).1 = frozenReport method := by
    rw [Fault.textFrom_report]
    have hTells : Fault.tells { cause := .noAttribute "frozenset" method } (world.holdAll refs) =
        (Host.Cause.noAttribute "frozenset" method).text := rfl
    rw [hTells]
    simp only [List.mem_cons, List.not_mem_nil, or_false] at hMethod
    rcases hMethod with rfl | rfl | rfl <;> decide +kernel
  rw [SetProgram.command, BridgeM.run_keeping, run_bind, BridgeM.contract, BridgeM.run_host,
    Host.runOn_change_frozen hThere hFrozen hMethod]
  dsimp only
  rw [hReport]

/-- A frozen one refuses them all. -/
theorem refusesChanges (hBuiltin : world.host.IsBuiltin set) (hFrozen : world.host.body set = .frozenset table) :
    RefusesChanges set world := by
  refine ⟨fun item => ?_, fun item => ?_, run_command_frozen hBuiltin hFrozen _ (by simp) []⟩
  · obtain ⟨hThere, hSame⟩ := isBuiltin_crossed hBuiltin item
    rw [add_eq, run_bind, item.run_toHost]
    exact run_command_frozen hThere (hSame.trans hFrozen) _ (by simp) _
  · obtain ⟨hThere, hSame⟩ := isBuiltin_crossed hBuiltin item
    rw [remove_eq, run_bind, item.run_toHost]
    exact run_command_frozen hThere (hSame.trans hFrozen) _ (by simp) _

/-- Whether a proxy is made of a copy of a set, which is of a built-in type, and all objects that there were stay
what they are. -/
structure MakesCopy (set : Ref) (before : World) (copy : Ref) (after : World) : Prop where
  proxy : ∃ address, (mutableCopy set).run.run before = (.ok address, after) ∧
    after.native.backing? address = some copy
  builtin : after.host.IsBuiltin copy
  stays : ∀ ref, before.host.isLive ref = true → after.host.view ref = before.host.view ref

/-- A proxy is made of what the set answers that is asked for a copy. -/
theorem exists_makesCopy (hCopies : world.host.CopiesAsSets set)
    (hElements : (world.host.body set).elements? = some table) (hGranted : world.refusals.head? ≠ some true)
    {copy : Ref} {middle : World} (hCopy : (Host.SetObject.copy set).eval { nesting := 1 } world = (.ok copy, middle))
    (hMiddle : middle.refusals = world.refusals) (hBuiltin : middle.host.IsBuiltin copy)
    (hExtends : world.Extends middle) : ∃ after, MakesCopy set world copy after ∧ after.host = middle.host := by
  have hStorage : (middle.hold copy).refusals.head? ≠ some true := by
    change middle.refusals.head? ≠ some true
    rwa [hMiddle]
  obtain ⟨after, hCreate, hHost, _, _, _, _, hNative⟩ := exists_create hStorage copy
  refine ⟨after, ⟨⟨middle.native.cells.size, ?_, ?_⟩, hHost ▸ hBuiltin, fun ref hLive => ?_⟩, hHost⟩
  · rw [mutableCopy_eq, run_bind, BridgeM.contract, BridgeM.run_host, Host.runOn_copy hCopies hElements hCopy]
    exact hCreate
  · have hMade := (hNative middle.native.cells.size).trans (if_pos rfl)
    rw [Native.Heap.backing?, hMade]
  · rw [hHost]
    exact hExtends.stays ref hLive

/-- A copy through a proxy. A set that can be changed, of whatever class that leaves copying to sets, gives the
proxy of a new set of the built-in type with its elements, on which every change succeeds whatever becomes of the
set. A frozen set gives the proxy of a frozen set, and one of the built-in type that of its own self; on these every
change fails. -/
theorem mutableCopy_changes (hCopies : world.host.CopiesAsSets set)
    (hGranted : world.refusals.head? ≠ some true) :
    (∀ table, world.host.body set = .set table → ∃ copy after elements, MakesCopy set world copy after ∧
      after.host.body copy = .set elements ∧ elements.toList.Perm table.toList ∧
      world.host.isLive copy = false ∧ copy ≠ set ∧
      ∀ later current, later.host.IsBuiltin copy → later.host.body copy = .set current → TakesChanges copy later) ∧
    ∀ table, world.host.body set = .frozenset table → ∃ copy after elements, MakesCopy set world copy after ∧
      after.host.body copy = .frozenset elements ∧ elements.toList.Perm table.toList ∧
      ((world.host.view set).script = none → copy = set) ∧
      ∀ later current, later.host.IsBuiltin copy → later.host.body copy = .frozenset current →
        RefusesChanges copy later := by
  constructor
  · intro table hBody
    have hElements : (world.host.body set).elements? = some table := congrArg Body.elements? hBody
    have hNew : world.host.isLive (.object world.host.cells.size) = false := by
      rw [← Bool.not_eq_true]
      intro hLive
      obtain ⟨object, hObject⟩ := Option.isSome_iff_exists.mp hLive
      exact absurd (Heap.lt_size_of_object? hObject) (Nat.lt_irrefl _)
    have hMade := Heap.object?_allocate_self world.host { body := .set table.copied }
    have hView := Heap.view_of_object? hMade
    obtain ⟨after, hMakes, hHost⟩ := exists_makesCopy hCopies hElements hGranted
      (Host.SetObject.eval_copy_set hBody _) rfl
      ⟨Option.isSome_iff_exists.mpr ⟨_, hMade⟩, by rw [hView], by rw [hView]⟩ (world.extends_allocate _)
    refine ⟨_, after, table.copied, hMakes, ?_, table.toList_copied, hNew, ?_, fun later current => takesChanges⟩
    · rw [hHost]
      exact congrArg Host.Object.body hView
    · rintro rfl
      rw [Heap.isLive_of_body hBody] at hNew
      cases hNew
  · intro table hBody
    have hElements : (world.host.body set).elements? = some table := congrArg Body.elements? hBody
    have hCopy := Host.SetObject.eval_copy_frozen hBody { nesting := 1 }
    by_cases hScript : (world.host.view set).script = none
    · rw [if_pos hScript] at hCopy
      obtain ⟨after, hMakes, hHost⟩ := exists_makesCopy hCopies hElements hGranted hCopy rfl
        ⟨Heap.isLive_of_elements hElements, hScript, hCopies.bare hScript⟩ (.refl world)
      refine ⟨set, after, table, hMakes, ?_, .refl _, fun _ => rfl, fun later current => refusesChanges⟩
      rw [hHost]
      exact hBody
    · rw [if_neg hScript] at hCopy
      have hMade := Heap.object?_allocate_self world.host { body := .frozenset table.copied }
      have hView := Heap.view_of_object? hMade
      obtain ⟨after, hMakes, hHost⟩ := exists_makesCopy hCopies hElements hGranted hCopy rfl
        ⟨Option.isSome_iff_exists.mpr ⟨_, hMade⟩, by rw [hView], by rw [hView]⟩ (world.extends_allocate _)
      refine ⟨_, after, table.copied, hMakes, ?_, table.toList_copied, fun hNone => absurd hNone hScript,
        fun later current => refusesChanges⟩
      rw [hHost]
      exact congrArg Host.Object.body hView

/-- A proxy of a set with one element. -/
def setOne : List Command := [.set (.create "s" (.set [.int 1]))]

/-- Another number is added to a copy and taken out, and the copy is cleared. -/
theorem mutableCopy_changes_setOne :
    let world := (Session.performAll setOne {}).2.world
    (world.host.CopiesAsSets (.object 0) ∧ world.refusals.head? ≠ some true) ∧
      ∃ copy after, MakesCopy (.object 0) world copy after ∧ copy ≠ .object 0 ∧
        ((add copy (.int 2)).run.run after).1 = .ok () ∧ ((remove copy (.int 2)).run.run after).1 = .ok () ∧
          ((removeAll copy).run.run after).1 = .ok () := by
  intro world
  have hCopies : world.host.CopiesAsSets (.object 0) :=
    ⟨by decide +kernel, by decide +kernel, fun _ => by decide +kernel⟩
  have hGranted : world.refusals.head? ≠ some true := by decide +kernel
  obtain ⟨table, hBody, hTable⟩ : ∃ table, world.host.body (.object 0) = .set table ∧
      table.toList = [.atom (.int 1)] := by
    have hKind : (world.host.body (.object 0)).kind = .set := by decide +kernel
    have hList : (world.host.body (.object 0)).elements?.map SetTable.toList = some [.atom (.int 1)] := by
      decide +kernel
    revert hKind hList
    cases world.host.body (.object 0) <;> simp [Body.kind, Body.elements?]
  obtain ⟨copy, after, elements, hMakes, hCopy, hPerm, _, hNe, hTakes⟩ :=
    (mutableCopy_changes hCopies hGranted).1 table hBody
  have hChanges := hTakes after elements hMakes.builtin hCopy
  have hItem (value : Int) : after.host.IsItem 1 (.atom (.int value)) := ⟨⟨rfl, rfl, rfl⟩, rfl⟩
  have hAccepts : Accepts copy (.int 2) after :=
    Host.hashable_of_items (congrArg Body.elements? hCopy) (fun ref hRef => by
      have hOne : ref ∈ [Ref.atom (.int 1)] := hTable ▸ hPerm.subset hRef
      rw [List.mem_singleton.mp hOne]
      exact hItem 1) (hItem 2) (by decide)
  exact ⟨⟨hCopies, hGranted⟩, copy, after, hMakes, hNe, hChanges.add _ hAccepts, hChanges.remove _ hAccepts,
    hChanges.removeAll⟩

/-- A proxy of a frozen set with one element. -/
def frozenOne : List Command := [.set (.create "s" (.frozenset [.int 1]))]

/-- A copy that is not mutable: the proxy of a copy is one of the very frozen set, which takes no more numbers. -/
theorem mutableCopy_frozenOne :
    let before := (Session.performAll frozenOne {}).2.world
    let made := (mutableCopy (.object 0)).run.run before
    made.1.toOption.bind made.2.native.backing? = some (.object 0) ∧
      ((add (.object 0) (.int 2)).run.run made.2).1 =
        .error (.contractViolation .add "AttributeError: 'frozenset' object has no attribute 'add'") := by
  decide +kernel

end ForeignSet

end HeapBridge
