import HeapBridge.Proofs.Failures.Quiet
/-!
Asking sets for quiet values. A value is quiet if hashing what it crosses as and comparing the elements of a set
with that change nothing. A set that leaves it to sets what is asked of it does not change then if it is asked
whether it contains the value, or if the value cannot be added or taken out.
-/
namespace HeapBridge

open Host (Body Context Fault Heap HostM Object Ops Ref SetTable)

variable {base later world after : World} {value : NativeValue} {ref element set key : Ref} {table : SetTable}
  {context : Context} {method : String}

namespace NativeValue

/-- What a value crosses as where there is but more, or what is looked for instead of that. -/
inductive Appears (value : NativeValue) (base later : World) : Ref → Prop where
  | itself (hBody : value.body? = none) : Appears value base later (value.crossed base).1
  | made {key : Ref} {body : Body} (hBody : value.body? = some body) (hLive : later.host.isLive key = true)
    (hView : later.host.view key = { body }) : Appears value base later key
  | frozen {key : Ref} {elements : SetTable} (hBody : value.body? = none)
    (hSet : base.host.body (value.crossed base).1 = .set elements) (hLive : later.host.isLive key = true)
    (hView : later.host.view key = { body := .frozenset elements.copied }) : Appears value base later key

/-- Whether hashing what a value crosses as, and comparing the elements of a set with it, change nothing, wherever
there is but more. -/
structure IsQuiet (value : NativeValue) (base : World) (set : Ref) : Prop where
  hash : ∀ later key, base.Enlarges later → value.Appears base later key → ∀ context : Context,
    context.nesting ≤ 1 → (Host.ops.hash key).Spares base False context later
  equal : ∀ later key, base.Enlarges later → value.Appears base later key → ∀ context : Context,
    context.nesting ≤ 1 → ∀ table, (base.host.body set).elements? = some table → ∀ ref ∈ table.toList,
      (Host.equal Host.ops ref key).Spares base False context later

/-- Whether a value appears as a key depends on the key as it looks. -/
theorem Appears.congr (hAppears : value.Appears base later key)
    (hLive : later.host.isLive key = true → after.host.isLive key = true)
    (hView : later.host.isLive key = true → after.host.view key = later.host.view key) :
    value.Appears base after key := by
  cases hAppears with
  | itself hBody => exact .itself hBody
  | made hBody hThere hBefore => exact .made hBody (hLive hThere) ((hView hThere).trans hBefore)
  | frozen hBody hSet hThere hBefore => exact .frozen hBody hSet (hLive hThere) ((hView hThere).trans hBefore)

theorem Appears.extends (hAppears : value.Appears base later key) (hExtends : later.Extends after) :
    value.Appears base after key :=
  hAppears.congr (hExtends.remains key) (hExtends.stays key)

/-- What a value crosses as is there. -/
theorem Appears.isLive (hAppears : value.Appears base later key) (hOwned : value.IsOwned base)
    (hLater : base.Enlarges later) : later.host.isLive key = true := by
  cases hAppears with
  | itself hBody => exact hLater.whole _ (hLater.more.referenced (hOwned.isReferenced hBody))
  | made _ hLive _ => exact hLive
  | frozen _ _ hLive _ => exact hLive

/-- A set without a hash that a value crosses as is no other than the one behind the value. -/
theorem Appears.of_set {elements : SetTable} (hAppears : value.Appears base later key) (hWhole : base.IsWhole)
    (hOwned : value.IsOwned base) (hLater : base.Enlarges later) (hSet : later.host.body key = .set elements) :
    value.body? = none ∧ base.host.body (value.crossed base).1 = .set elements := by
  cases hAppears with
  | itself hBody =>
    rw [hLater.more.body_eq (hWhole _ (hOwned.isReferenced hBody))] at hSet
    exact ⟨hBody, hSet⟩
  | made hBody hLive hView =>
    rw [Heap.body, hView] at hSet
    subst hSet
    cases value <;> cases hBody
  | frozen hBody hSource hLive hView =>
    rw [Heap.body, hView] at hSet
    cases hSet

end NativeValue

namespace Host

/-- What a name comes to hangs on an object and its class only. -/
theorem Heap.binding_congr {heap other : Heap} (hScripts : other.scripts = heap.scripts)
    (hView : other.view set = heap.view set) (method : String) :
    other.scripted? set method = heap.scripted? set method ∧
      other.binding set method = heap.binding set method := by
  have hScript : other.script? set = heap.script? set := by rw [Heap.script?, Heap.script?, hView, hScripts]
  have hScripted : other.scripted? set method = heap.scripted? set method := by
    rw [Heap.scripted?, Heap.scripted?, hScript]
  refine ⟨hScripted, ?_⟩
  simp only [Heap.binding, Heap.classBinding, hScripted, hScript, hView]

/-- Whether an object is a set, mutable or frozen, whose class leaves to sets what is asked of it. -/
structure Heap.BehavesAsSet (heap : Heap) (set : Ref) : Prop where
  elements : ∃ table, (heap.body set).elements? = some table
  unscripted : ∀ method ∈ ["__contains__", "__iter__", "__len__"], heap.scripted? set method = none
  copying : heap.CopiesAsSets set
  changes : ∀ table, heap.body set = .set table → heap.LeavesToSets set
  refuses : ∀ table, heap.body set = .frozenset table → heap.scripted? set "__getattr__" = none ∧
    ∀ method ∈ ["add", "discard"], heap.binding set method = .absent

namespace Heap.BehavesAsSet

/-- A set of a built-in type behaves as a set. -/
theorem of_isBuiltin (hBuiltin : world.host.IsBuiltin set) (hTable : (world.host.body set).elements? = some table) :
    world.host.BehavesAsSet set where
  elements := ⟨table, hTable⟩
  unscripted method _ := hBuiltin.unscripted method
  copying := by
    refine ⟨hBuiltin.unscripted _, ?_, fun _ => hBuiltin.attributes⟩
    have hObject : (world.host.view set).body = world.host.body set := rfl
    revert hTable
    cases hBody : world.host.body set <;> intro hTable <;> cases hTable
    all_goals
      simp only [Heap.binding, Heap.classBinding, hBuiltin.unscripted, Object.computes, hBuiltin.script,
        hBuiltin.attributes, hObject, hBody, Body.kind]
      rfl
  changes _ hBody := hBuiltin.leavesToSets hBody
  refuses _ hBody :=
    ⟨hBuiltin.unscripted _, fun method hMethod => hBuiltin.lacks hBody (List.mem_append_left ["clear"] hMethod)⟩

/-- How a set behaves depends on the scripts and on the set itself. -/
theorem congr {heap other : Heap} (hBehaves : heap.BehavesAsSet set) (hScripts : other.scripts = heap.scripts)
    (hView : other.view set = heap.view set) : other.BehavesAsSet set := by
  have hBody : other.body set = heap.body set := congrArg Object.body hView
  have hScripted (method : String) := (Heap.binding_congr hScripts hView method).1
  have hBinding (method : String) := (Heap.binding_congr hScripts hView method).2
  refine ⟨hBody ▸ hBehaves.elements, fun method hMethod => ?_, ⟨?_, ?_, ?_⟩, fun table hTable => ⟨?_, ?_⟩, ?_⟩
  · rw [hScripted]
    exact hBehaves.unscripted method hMethod
  · rw [hScripted]
    exact hBehaves.copying.unscripted
  · rw [hBinding]
    exact hBehaves.copying.bound
  · rw [hView]
    exact hBehaves.copying.bare
  · rw [hBody] at hTable
    exact fun method hMethod => (hScripted method).trans ((hBehaves.changes table hTable).unscripted method hMethod)
  · rw [hBody] at hTable
    exact fun method hMethod => (hBinding method).trans ((hBehaves.changes table hTable).bound method hMethod)
  · intro table hTable
    rw [hBody] at hTable
    obtain ⟨hAsk, hAbsent⟩ := hBehaves.refuses table hTable
    exact ⟨(hScripted _).trans hAsk, fun method hMethod => (hBinding method).trans (hAbsent method hMethod)⟩

end Heap.BehavesAsSet

/-- A method without an answer is called that a class leaves to sets. -/
theorem spares_callMethod {action : HostM Unit} {arguments : List Ref} {free : Prop}
    (hLeaves : world.host.LeavesToSets set) (hBody : world.host.body set = .set table)
    (hMethod : method ∈ ["add", "discard", "clear"]) (hAction : action.Spares base free { nesting := 1 } world)
    (hCall : (SetObject.callMethod? Host.ops set method arguments).eval { nesting := 1 } world =
      (some <$> SetObject.done action).eval { nesting := 1 } world) :
    (Host.call Host.ops set method arguments).Spares base free {} world := by
  rw [HostM.Spares] at hAction
  rw [HostM.eval_map, SetObject.done, HostM.eval_bind] at hCall
  rcases hEval : action.eval { nesting := 1 } world with ⟨fault | value, after⟩ <;>
    rw [hEval] at hAction hCall
  · have hRun : (Host.call Host.ops set method arguments).eval {} world = (.error fault, after) :=
      runOn_callMethod hLeaves hBody hMethod hCall
    rw [HostM.Spares, hRun]
    exact hAction
  · have hRun : (Host.call Host.ops set method arguments).eval {} world = (.ok .nil, after) :=
      runOn_callMethod hLeaves hBody hMethod hCall
    rw [HostM.Spares, hRun]
    exact hAction

end Host

open Host

namespace NativeValue

/-- What a quiet value is looked for in: a set with these elements, where there is but more. -/
structure Facing (value : NativeValue) (base later : World) (set : Ref) (table : SetTable) (key : Ref) : Prop where
  more : base.Enlarges later
  whole : base.IsWhole
  behaves : base.host.BehavesAsSet set
  elements : (base.host.body set).elements? = some table
  owned : value.IsOwned base
  quiet : value.IsQuiet base set
  appears : value.Appears base later key

namespace Facing

variable (hFacing : value.Facing base later set table key)

include hFacing

theorem extended (hMore : base.Enlarges after) (hExtends : later.Extends after) :
    value.Facing base after set table key :=
  { hFacing with
    more := hMore
    appears := hFacing.appears.extends hExtends }

theorem undisturbed (hCalm : later.Undisturbed after) : value.Facing base after set table key :=
  hFacing.extended (hFacing.more.undisturbed hCalm) hCalm.grows.extends

theorem live : base.host.isLive set = true := Heap.isLive_of_elements hFacing.elements

theorem behaves_later : later.host.BehavesAsSet set :=
  hFacing.behaves.congr hFacing.more.more.scripts (hFacing.more.more.stays set hFacing.live)

theorem table_eq : (later.host.body set).elements? = some table := by
  rw [hFacing.more.more.body_eq hFacing.live]
  exact hFacing.elements

theorem keyLive : later.host.isLive key = true := hFacing.appears.isLive hFacing.owned hFacing.more

theorem isReferenced (hRef : ref ∈ table.toList) : later.isReferenced ref = true := by
  have hSet : later.host.isLive set = true := hFacing.more.more.remains set hFacing.live
  exact World.isReferenced_of_refersTo (refersTo_of_element hSet hFacing.table_eq hRef)

theorem spares_equal (hNesting : context.nesting ≤ 1) (hRef : ref ∈ table.toList) :
    (Host.equal Host.ops ref key).Spares base False context later :=
  hFacing.quiet.equal later key hFacing.more hFacing.appears context hNesting table hFacing.elements ref hRef

theorem sought (hNesting : context.nesting ≤ 1) : SetObject.Sought base later table key context where
  hash := hFacing.quiet.hash later key hFacing.more hFacing.appears context hNesting
  matching ref hRef after hCalm := by
    have hAfter := hFacing.undisturbed hCalm
    refine spares_matching hAfter.more (hAfter.isReferenced hRef) hAfter.keyLive fun last hLast hHost => ?_
    have hAppears : value.Appears base last key :=
      hAfter.appears.congr (fun hLive => by rw [hHost]; exact hLive) fun _ => by rw [hHost]
    exact hFacing.quiet.equal last key hLast hAppears context hNesting table hFacing.elements ref hRef

/-- A frozen copy of a set without a hash is made to be looked for instead. -/
theorem frozen {elements : SetTable} (hSet : later.host.body key = .set elements) :
    value.Facing base (World.holdAll [.object later.host.cells.size]
      { later with host := (later.host.allocate { body := .frozenset elements.copied }).2 }) set table
        (.object later.host.cells.size) := by
  have hMade := Heap.object?_allocate_self later.host { body := .frozenset elements.copied }
  obtain ⟨hBody, hSource⟩ := hFacing.appears.of_set hFacing.whole hFacing.owned hFacing.more hSet
  refine { hFacing with more := hFacing.more.made fun ref hRef => ?_, appears := ?_ }
  · have hElement : ref ∈ elements.toList := (SetTable.toList_copied elements).subset hRef
    have hLive := Heap.isLive_of_body hSet
    apply hFacing.more.whole
    exact World.isReferenced_of_refersTo (refersTo_of_element hLive (congrArg Body.elements? hSet) hElement)
  · exact .frozen hBody hSource (Option.isSome_iff_exists.mpr ⟨_, hMade⟩) (Heap.view_of_object? hMade)

theorem spares_keyed {α : Type} {free : Prop} {operation : Ref → HostM α}
    (hOperation : ∀ world key, value.Facing base world set table key →
      (operation key).Spares base free context world) :
    (SetObject.keyed Host.ops key operation).Spares base free context later := by
  refine SetObject.spares_keyed hFacing.more.whole (hOperation later key hFacing) fun elements middle hSet hCalm => ?_
  have hMiddle := hFacing.undisturbed hCalm
  exact hOperation _ _ (hMiddle.frozen ((hCalm.body_eq key).trans hSet))

/-- A set is asked for a value. -/
theorem spares_contains (hNesting : context.nesting ≤ 1) :
    (Host.contains Host.ops set key).Spares base False context later := by
  have hContains : (SetObject.contains Host.ops set key).Spares base False context later :=
    hFacing.spares_keyed fun world key hThere => (hThere.sought hNesting).spares_contains hThere.table_eq
  have hPlain := hFacing.behaves_later.unscripted "__contains__" (by simp)
  rw [HostM.Spares, eval_contains hPlain hFacing.table_eq]
  exact hContains

/-- A set is asked to add a value or to take it out. -/
theorem spares_call (hMethod : method ∈ ["add", "discard"]) :
    (Host.call Host.ops set method [key]).Spares base True {} later := by
  have hLater := hFacing.behaves_later
  have hTable := hFacing.table_eq
  have hAdd : (SetObject.add Host.ops set key).Spares base True { nesting := 1 } later :=
    (hFacing.sought (Nat.le_refl 1)).spares_add hTable
  have hDiscard : (SetObject.discard Host.ops set key).Spares base True { nesting := 1 } later :=
    hFacing.spares_keyed fun world key hThere => (hThere.sought (Nat.le_refl 1)).spares_discard hThere.table_eq
  cases hBody : later.host.body set <;> rw [hBody] at hTable <;> cases hTable
  · have hLeaves := hLater.changes table hBody
    simp only [List.mem_cons, List.not_mem_nil, or_false] at hMethod
    rcases hMethod with rfl | rfl
    · exact spares_callMethod hLeaves hBody (by simp) hAdd rfl
    · exact spares_callMethod hLeaves hBody (by simp) hDiscard.discarded rfl
  · obtain ⟨hAsk, hAbsent⟩ := hLater.refuses table hBody
    have hCall := runOn_call_absent hLater.copying.unscripted hAsk (hAbsent method hMethod) [key]
    rw [HostM.runOn] at hCall
    rw [HostM.Spares, hCall]
    refine ⟨.refl later, Fault.tellsQuietly fun key hKey => ?_⟩
    cases hKey

end Facing

end NativeValue

/-- Whether an object cannot be compared, as its class raises an exception by a script. -/
def Host.Heap.RefusesEquality (heap : Heap) (ref : Ref) : Prop :=
  (heap.view ref).script.isSome = true ∧ ∃ exception text, heap.scripted? ref "__eq__" = some (.raise exception text)

theorem World.Extends.refusesEquality (hExtends : base.Extends later) (hLive : base.host.isLive ref = true)
    (hRefuses : base.host.RefusesEquality ref) : later.host.RefusesEquality ref := by
  rw [Heap.RefusesEquality, hExtends.stays ref hLive, hExtends.scripted?_eq hLive]
  exact hRefuses

namespace Host

/-- No exception that is raised by a script has to show a key. -/
theorem Cause.ofRaise_ne_missingKey (exception text : String) (key : Ref) :
    Cause.ofRaise exception text ≠ .missingKey key := by
  unfold Cause.ofRaise
  repeat' split
  all_goals nofun

/-- The script is asked before all else, and its exception is the answer. -/
theorem eval_compare_refused (level : Nat) (hRefuses : later.host.RefusesEquality element)
    (hNesting : context.nesting ≤ 1) : ∃ fault : Host.Fault,
      ((Ops.ofDepth (level + 1)).compare .equal element key).eval context later = (.error fault, later) ∧
        ∀ key, fault.cause ≠ .missingKey key := by
  obtain ⟨hScript, exception, text, hScripted⟩ := hRefuses
  refine ⟨{ cause := .ofRaise exception text, frames := [⟨2, "__eq__"⟩] }, ?_,
    Cause.ofRaise_ne_missingKey exception text⟩
  have hDerives : later.host.derives key element = false := by
    rw [Heap.derives, if_pos hScript]
  have hRaise : (perform (Ops.ofDepth level) element "__eq__" [key] (.raise exception text)).eval
      { context with nesting := context.nesting + 1 } later =
      (.error { cause := .ofRaise exception text, frames := [⟨2, "__eq__"⟩] }, later) := by
    rw [perform, HostM.eval_nested _ _ (by simp only [nestingLimit]; omega)]
    rfl
  change (compared (Ops.ofDepth level) .equal element key).eval context later = _
  rw [compared, HostM.eval_nested _ _ (by simp only [nestingLimit]; omega)]
  simp only [HostM.eval_bind, HostM.eval_heap, hDerives, Bool.false_eq_true, if_false, HostM.eval_pure, opinion,
    scripted?, Relation.method, hScripted, HostM.eval_map, hRaise, Except.map]

/-- The comparison fails with an exception that is told without more ado. -/
theorem spares_equal_refused (hRefuses : later.host.RefusesEquality element) (hNesting : context.nesting ≤ 1) :
    (equal Host.ops element key).Spares base False context later := by
  obtain ⟨level, hOps⟩ := exists_ops
  obtain ⟨fault, hCompare, hOther⟩ := eval_compare_refused level hRefuses hNesting
  rw [HostM.Spares, hOps, equal, HostM.eval_bind, hCompare]
  exact ⟨.refl later, Fault.tellsQuietly hOther⟩

end Host

/-- A scalar is quiet for a set of elements that cannot be compared. -/
theorem NativeValue.isQuiet_refused {value : NativeValue} {body : Body} (hBody : value.body? = some body)
    (hElements : ∀ table, (base.host.body set).elements? = some table →
      ∀ ref ∈ table.toList, base.host.isLive ref = true ∧ base.host.RefusesEquality ref) :
    value.IsQuiet base set where
  hash later key hLater hAppears context _ := by
    obtain ⟨hLive, hView⟩ : later.host.isLive key = true ∧ later.host.view key = { body } := by
      cases hAppears with
      | made hThere hLive hView => exact ⟨hLive, Option.some.inj (hBody.symm.trans hThere) ▸ hView⟩
      | itself hNone | frozen hNone =>
        rw [hBody] at hNone
        cases hNone
    have hScalar : body.isScalar = true := by
      cases value <;> cases hBody <;> rfl
    have hItem : later.host.IsItem 1 key := by
      refine ⟨⟨hLive, by rw [hView], by rw [hView]⟩, ?_⟩
      rw [Heap.body, hView]
      cases body <;> first | exact hScalar | cases hScalar
    rw [HostM.Spares, Host.eval_hash_item hItem (by decide)]
    exact .inr (.refl later)
  equal later key hLater _ context hNesting table hTable ref hRef := by
    obtain ⟨hLive, hRefuses⟩ := hElements table hTable ref hRef
    exact Host.spares_equal_refused (hLater.more.refusesEquality hLive hRefuses) hNesting

end HeapBridge
