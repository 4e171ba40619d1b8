import HeapBridge.Host.Methods
/-!
Evaluating host operations. Many operations only look at the host heap: they answer the same in every world
with that heap, and change nothing. What a composed operation of the kind answers is told by what its parts
answer. An object that something in the heap refers to may be referred to meanwhile, too, without a trace.
-/
namespace HeapBridge

open Host (Ref)

namespace World

variable {world : World} {ref : Ref}

theorem isReferenced_of_refersTo (hRefers : world.host.refersTo ref = true) :
    world.isReferenced ref = true := by
  simp only [isReferenced, hRefers, Bool.or_true]

/-- Where more is held no less is referred to. -/
theorem isReferenced_of_held (world : World) {held : List Ref} (hHeld : world.held ⊆ held)
    (hReferenced : world.isReferenced ref = true) : isReferenced { world with held } ref = true := by
  simp only [isReferenced, Bool.or_eq_true, List.contains_iff_mem] at hReferenced ⊢
  exact hReferenced.imp_left fun hOthers => hOthers.imp_left fun hFirst => hFirst.imp_left fun hFirst =>
    hFirst.imp_left (hHeld ·)

theorem isReferenced_holdAll (hReferenced : world.isReferenced ref = true) (refs : List Ref) :
    (world.holdAll refs).isReferenced ref = true :=
  world.isReferenced_of_held (List.subset_append_right refs world.held) hReferenced

/-- Taking references and giving them back changes nothing. -/
@[simp] theorem unholdAll_holdAll (refs : List Ref) (world : World) :
    (world.holdAll refs).unholdAll refs = world := by
  induction refs with
  | nil => rfl
  | cons ref rest ih =>
    have hFirst : (world.holdAll (ref :: rest)).unhold ref = world.holdAll rest := by
      simp only [unhold, holdAll, List.cons_append, List.erase_cons_head]
    rw [unholdAll_cons, hFirst, ih]

end World

namespace Host

variable {α β : Type} {context : Context} {world : World} {host : Heap} {ops : Ops} {ref : Ref}
  {refs : List Ref}

/-- An object is referred to from inside the host by another object or by a script. -/
theorem Heap.refersTo_iff : host.refersTo ref = true ↔
    (∃ address object, host.object? address = some object ∧ ref ∈ object.references) ∨
      ∃ script ∈ host.scripts, ref ∈ script.references := by
  rw [Heap.refersTo, Bool.or_eq_true, Array.any_eq_true, Array.any_eq_true']
  simp only [List.contains_iff_mem]
  refine or_congr_left ⟨?_, ?_⟩
  · rintro ⟨address, hIn, hCell⟩
    obtain ⟨object, hObject, hRef⟩ := Option.any_eq_true _ _ |>.mp hCell
    refine ⟨address, object, ?_, List.contains_iff_mem.mp hRef⟩
    rw [Heap.object?, Array.getElem?_eq_getElem hIn, hObject]
    rfl
  · rintro ⟨address, object, hObject, hRef⟩
    have hIn := Heap.lt_size_of_object? hObject
    rw [Heap.object?, Array.getElem?_eq_getElem hIn] at hObject
    refine ⟨address, hIn, ?_⟩
    rw [show host.cells[address] = some object from hObject]
    simpa using hRef

namespace HostM

theorem runOn_bind (action : HostM α) (next : α → HostM β) (world : World) :
    runOn (action >>= next) world =
      match runOn action world with
      | (.ok value, after) => runOn (next value) after
      | (.error fault, after) => (.error fault, after) := rfl

theorem runOn_bodyOf (ref : Ref) (world : World) :
    runOn (bodyOf ref) world = (.ok (world.host.body ref), world) := rfl

@[simp] theorem eval_pure (value : α) (context : Context) (world : World) :
    (pure value : HostM α).eval context world = (.ok value, world) := rfl

@[simp] theorem eval_bind (action : HostM α) (next : α → HostM β) (context : Context)
    (world : World) : (action >>= next).eval context world =
      match action.eval context world with
      | (.ok value, after) => (next value).eval context after
      | (.error fault, after) => (.error fault, after) := rfl

@[simp] theorem eval_heap (context : Context) (world : World) :
    Host.heap.eval context world = (.ok world.host, world) := rfl

@[simp] theorem eval_bodyOf (ref : Ref) (context : Context) (world : World) :
    (bodyOf ref).eval context world = (.ok (world.host.body ref), world) := rfl

@[simp] theorem eval_map (function : α → β) (action : HostM α) (context : Context) (world : World) :
    (function <$> action).eval context world =
      ((action.eval context world).1.map function, (action.eval context world).2) := by
  change (action >>= fun value => pure (function value) : HostM β).eval context world = _
  rw [eval_bind]
  rcases action.eval context world with ⟨fault | value, after⟩ <;> rfl

theorem runOn_map {action : HostM α} {value : α} {after : World} (function : α → β)
    (hRun : runOn action world = (.ok value, after)) :
    runOn (function <$> action) world = (.ok (function value), after) := by
  rw [runOn, eval_map, show action.eval {} world = _ from hRun]
  rfl

@[simp] theorem eval_attempt (action : HostM α) (context : Context) (world : World) :
    (attempt action).eval context world =
      (.ok (action.eval context world).1, (action.eval context world).2) := by
  simp only [attempt, tryCatch, tryCatchThe, MonadExceptOf.tryCatch, HostM.tryCatch, eval_map]
  rcases action.eval context world with ⟨fault | value, after⟩ <;> rfl

/-- What does not fail is not handled. -/
theorem eval_tryCatch {action : HostM α} {handler : Fault → HostM α} {value : α} {after : World}
    (hAction : action.eval context world = (.ok value, after)) :
    (tryCatch action handler).eval context world = (.ok value, after) := by
  change (match action.eval context world with
    | (Except.ok value, world) => (Except.ok value, world)
    | (Except.error fault, world) => (handler fault).eval context world) = _
  rw [hAction]

/-- What fails goes to the handler. -/
theorem eval_tryCatch_error {action : HostM α} {handler : Fault → HostM α} {fault : Fault} {after : World}
    (hAction : action.eval context world = (.error fault, after)) :
    (tryCatch action handler).eval context world = (handler fault).eval context after := by
  change (match action.eval context world with
    | (Except.ok value, world) => (Except.ok value, world)
    | (Except.error fault, world) => (handler fault).eval context world) = _
  rw [hAction]

/-- Below the limit nesting only counts. -/
theorem eval_nested (activity : String) (action : HostM α) {context : Context}
    (hNesting : context.nesting < nestingLimit) (world : World) :
    (nested activity action).eval context world =
      action.eval { context with nesting := context.nesting + 1 } world := by
  have hDeep : ¬ nestingLimit ≤ context.nesting := Nat.not_le.mpr hNesting
  change (if nestingLimit ≤ context.nesting then _ else _ : HostM α).eval context world = _
  rw [if_neg hDeep]
  rfl

end HostM

/-- An object is not told that it is about to be given up if it was told already or its class does not ask. -/
theorem eval_finalize_quiet {address : Nat} (hQuiet : (world.host.view (.object address)).finalized = true ∨
      world.host.scripted? (.object address) "__del__" = none) :
    (finalize ops address).eval context world = (.ok (), world) := by
  change HostM.eval (if _ then _ else _) context world = _
  rw [if_pos]
  · rfl
  · rcases hQuiet with hTold | hNone
    · simp [hTold]
    · simp [hNone]

theorem eval_scripted?_none {method : String} {arguments : List Ref}
    (hNone : world.host.scripted? ref method = none) :
    (scripted? ops ref method arguments).eval context world = (.ok none, world) := by
  simp only [scripted?, HostM.eval_bind, HostM.eval_heap, hNone, HostM.eval_pure]

/-- A set of which the class leaves that to sets has the length of its table. -/
theorem runOn_length {table : SetTable} (hTable : (world.host.body ref).elements? = some table)
    (hPlain : world.host.scripted? ref "__len__" = none) :
    HostM.runOn (length ops ref) world = (.ok table.size, world) := by
  have hSize : world.host.size? (world.host.body ref) = some table.size := by
    revert hTable
    cases world.host.body ref <;> simp +contextual [Body.elements?, Heap.size?]
  simp only [HostM.runOn, length, HostM.eval_bind, eval_scripted?_none hPlain, HostM.eval_heap, hSize,
    HostM.eval_pure]

theorem eval_decided_bool (ops : Ops) (answer : Bool) (context : Context) (world : World) :
    (decided ops (.bool answer)).eval context world = (.ok answer, world) := rfl

/-- Letting go of references to objects that other places refer to, too, changes nothing. -/
theorem letGo_referenced (ops : Ops) (context : Context) (steps : Nat)
    (hReferenced : ∀ ref ∈ refs, ref.isObject = true → world.isReferenced ref = true) :
    letGo ops context steps refs (world.holdAll refs) = world := by
  induction refs generalizing steps with
  | nil => cases steps <;> rfl
  | cons ref rest ih =>
    cases steps with
    | zero => exact World.unholdAll_holdAll ..
    | succ steps =>
      have hRest := ih steps fun other hOther => hReferenced other (List.mem_cons_of_mem _ hOther)
      have hFirst : (world.holdAll (ref :: rest)).unhold ref = world.holdAll rest := by
        simp only [World.unhold, World.holdAll, List.cons_append, List.erase_cons_head]
      cases ref with
      | atom value => rw [letGo, hFirst, hRest]
      | object address =>
        have hKept : isAbandoned address (world.holdAll rest) = false := by
          have hFound := hReferenced (.object address) List.mem_cons_self rfl
          simp [isAbandoned, World.isReferenced_holdAll hFound]
        rw [letGo, hFirst]
        simp only [hKept, Bool.false_eq_true, if_false]
        exact hRest

/-- Whether an operation answers a value in every world with a host heap, and changes nothing. -/
def HostM.Answers (action : HostM α) (context : Context) (host : Heap) (value : α) : Prop :=
  ∀ world, world.host = host → action.eval context world = (.ok value, world)

namespace HostM.Answers

variable {action : HostM α} {value : α}

theorem pure : (Pure.pure value : HostM α).Answers context host value := fun _ _ => rfl

theorem bind {next : α → HostM β} {result : β} (hAction : action.Answers context host value)
    (hNext : (next value).Answers context host result) :
    (action >>= next).Answers context host result := by
  intro world hHost
  rw [eval_bind, hAction world hHost]
  exact hNext world hHost

theorem map {function : α → β} (hAction : action.Answers context host value) :
    (function <$> action).Answers context host (function value) :=
  hAction.bind .pure

theorem heap : Host.heap.Answers context host host := by
  rintro world rfl
  rfl

theorem bodyOf : (bodyOf ref).Answers context host (host.body ref) := by
  rintro world rfl
  rfl

theorem scripted? {method : String} {arguments : List Ref}
    (hNone : host.scripted? ref method = none) :
    (scripted? ops ref method arguments).Answers context host none := by
  rintro world rfl
  exact eval_scripted?_none hNone

theorem nested {activity : String} (hNesting : context.nesting < nestingLimit)
    (hAction : action.Answers { context with nesting := context.nesting + 1 } host value) :
    (nested activity action).Answers context host value := by
  intro world hHost
  rw [eval_nested activity action hNesting]
  exact hAction world hHost

theorem tryCatch {handler : Fault → HostM α} (hAction : action.Answers context host value) :
    (tryCatch action handler).Answers context host value := by
  intro world hHost
  exact eval_tryCatch (hAction world hHost)

theorem attempt (hAction : action.Answers context host value) :
    (attempt action).Answers context host (.ok value) :=
  .tryCatch hAction.map

theorem holdingAll (hAction : action.Answers context host value) :
    (holdingAll refs action).Answers context host value := by
  intro world hHost
  change ((action.eval context (world.holdAll refs)).1,
    (action.eval context (world.holdAll refs)).2.unholdAll refs) = _
  rw [hAction (world.holdAll refs) hHost]
  simp only [World.unholdAll_holdAll]

theorem holding (hAction : action.Answers context host value) :
    (holding refs action).Answers context host value := by
  unfold Host.holding
  dsimp only
  split
  · exact hAction
  · exact hAction.holdingAll

/-- Objects that the heap refers to stay when a reference to them goes. -/
theorem release {depth : Nat}
    (hRefers : ∀ ref ∈ refs, ref.isObject = true → host.refersTo ref = true) :
    ((Ops.ofDepth depth).release refs).Answers context host () := by
  rintro world rfl
  cases depth with
  | zero => rfl
  | succ depth =>
    refine congrArg (Prod.mk _) (letGo_referenced _ context stepLimit fun ref hRef hObject => ?_)
    exact World.isReferenced_of_refersTo (hRefers ref (List.mem_filter.mp hRef).1 hObject)

/-- What is kept meanwhile does not get in the way of an answer. -/
theorem keeping {depth : Nat}
    (hRefers : ∀ ref ∈ refs, ref.isObject = true → host.refersTo ref = true)
    (hAction : action.Answers context host value) :
    (keeping (Ops.ofDepth depth) refs action).Answers context host value := by
  unfold Host.keeping
  dsimp only
  split
  · exact hAction
  · refine .bind hAction.holdingAll.attempt (.bind (.release fun ref hRef => ?_) .pure)
    exact hRefers ref (List.mem_filter.mp hRef).1

theorem runOn (hAction : action.Answers {} world.host value) :
    HostM.runOn action world = (.ok value, world) := hAction world rfl

end HostM.Answers

end Host

end HeapBridge
