import HeapBridge.Proofs.Iteration.Completeness
import HeapBridge.Proofs.Scenes.Reading
/-!
Going over sets. A walk that is made for a search tells the elements of a set in order; the search compares each
with what it looks for, and ends with the first that is equal or whose comparison fails. The walk is gone
afterwards, and what is told of an element is its native form.
-/
namespace HeapBridge

open Host (Body Context Fault Heap HostM Object Ref SetTable Walk)

variable {scene : Scene} {base world before after : World} {ref set needle : Ref} {left rest : List Ref}
  {table : SetTable} {value : NativeValue} {result : Except Fault Bool} {position due : Nat}

namespace World

theorem extends_making (world : World) (body : Body) : world.Extends (world.making body) :=
  (world.extends_allocate body).trans (World.extends_holdAll _ [_])

/-- Whether a walk over a set stands somewhere, or is at its end. -/
def Walked (base : World) (set : Ref) (world : World) : Prop :=
  ∃ walk : Walk, walk.references ⊆ [set] ∧ (base.making (.walk .setWalk walk)).Grows world

def Walks (base : World) (set : Ref) (table : SetTable) (left : List Ref) (world : World) : Prop :=
  ∃ position due, table.remaining position = left ∧
    (base.making (.walk .setWalk (.elements set position table.size due false))).Grows world

theorem Walks.grows (hWalks : base.Walks set table left before) (hGrows : before.Grows after) :
    base.Walks set table left after := by
  obtain ⟨position, due, hLeft, hBefore⟩ := hWalks
  exact ⟨position, due, hLeft, hBefore.trans hGrows⟩

theorem Walks.walked (hWalks : base.Walks set table left world) : base.Walked set world := by
  obtain ⟨position, due, _, hGrows⟩ := hWalks
  exact ⟨_, List.Subset.refl _, hGrows⟩

theorem Walks.extends (hWalks : base.Walks set table left world) : base.Extends world := by
  obtain ⟨position, due, _, hGrows⟩ := hWalks
  exact (base.extends_making _).trans hGrows.extends

end World

namespace Host

/-- A set is gone over by a new walk. -/
theorem eval_iterate {context : Context} (hPlain : world.IsPlain set)
    (hElements : (world.host.body set).elements? = some table) :
    (iterate ops set).eval context world = (.ok (.object world.host.cells.size), { world with
      host := (world.host.allocate { body := .walk .setWalk (.elements set 0 table.size table.size false) }).2 }) := by
  rw [iterate, HostM.eval_bind, eval_scripted?_none hPlain.iterates]
  dsimp only
  rw [HostM.eval_bind, builtinIterator?, HostM.eval_bind, HostM.eval_heap]
  dsimp only
  cases hBody : world.host.body set <;> rw [hBody] at hElements <;> cases hElements
  all_goals
    rw [Heap.start?, hBody]
    rfl

/-- A walk that is nobody's own is asked for what comes next. -/
theorem eval_next {context : Context} {iterator : Ref} {kind : Kind} {walk : Walk}
    (hView : world.host.view iterator = { body := .walk kind walk }) :
    (next ops iterator).eval context world = (advance ops iterator kind walk).eval context world := by
  have hNone : world.host.scripted? iterator "__next__" = none := by
    rw [Heap.scripted?, Heap.script?, hView]
    rfl
  rw [next, HostM.eval_bind, HostM.eval_attempt, eval_scripted?_none hNone]
  dsimp only
  rw [HostM.eval_bind, HostM.eval_bodyOf, Heap.body, hView]

end Host

namespace ForeignSet

theorem run_hostIterator (hPlain : world.IsPlain set) (hElements : (world.host.body set).elements? = some table) :
    (BridgeM.contract .iterate (Host.iterate Host.ops set)).run.run world =
      (.ok (.object world.host.cells.size), { world with
      host := (world.host.allocate { body := .walk .setWalk (.elements set 0 table.size table.size false) }).2 }) := by
  rw [BridgeM.contract, BridgeM.run_host, HostM.runOn, Host.eval_iterate hPlain hElements]

/-- An element is handed out in its native form. -/
theorem exists_elementValue (hUnrefused : true ∉ world.refusals) (hMentions : world.Mentions ref) :
    ∃ value after, BridgeM.Yields (elementValue (some ref)) world (.ok (some value)) after ∧
      value.StandsFor after ref := by
  have hStill : true ∉ (world.holdAll [ref]).refusals := hUnrefused
  obtain ⟨value, last, hTaken, hStands⟩ := NativeValue.exists_fromHost hStill (World.mentions_held.mpr hMentions)
  have hGiven := (hTaken.map some).keeping fun other hOther _ =>
    List.mem_singleton.mp hOther ▸ World.isReferenced_iff.mpr (.inr hMentions)
  exact ⟨value, _, hGiven, hStands.given rfl rfl⟩

end ForeignSet

namespace World

variable (hSet : base.Mentions set) (hLive : base.host.isLive set = true)
  (hElements : (base.host.body set).elements? = some table)

include hSet hLive hElements

/-- A step of a walk sees the elements that the set had when it began. -/
theorem eval_next_walk (context : Context)
    (hGrows : (base.making (.walk .setWalk (.elements set position table.size due false))).Grows world) :
    (Host.next Host.ops (.object base.host.cells.size)).eval context world =
      match table.step position table.size false with
      | .changed => (Host.advance Host.ops (.object base.host.cells.size) .setWalk
          (.elements set position table.size due false)).eval context world
      | .exhausted => (.ok none, { world with
          host := world.host.setBody (.object base.host.cells.size) (.walk .setWalk .finished) })
      | .element next ref => (.ok (some ref), { world with
          host := world.host.setBody (.object base.host.cells.size)
            (.walk .setWalk (.elements set next table.size (due - 1) false)) }) := by
  have hView : world.host.view (.object base.host.cells.size) =
      { body := .walk .setWalk (.elements set position table.size due false) } := by
    rw [hGrows.view_eq]
    exact Heap.view_of_object? (by rw [object?_making, if_pos rfl])
  have hTable : (world.host.body set).elements? = some table := by
    rw [((base.extends_making _).trans hGrows.extends).body_eq hLive]
    exact hElements
  rw [Host.eval_next hView]
  cases hStep : table.step position table.size false with
  | changed => rfl
  | element next ref =>
    rw [Host.advance, Host.nextElement, HostM.eval_bind, HostM.eval_bodyOf]
    dsimp only
    rw [hTable, Option.getD_some, hStep]
    rfl
  | exhausted =>
    have hEnded : (base.making (.walk .setWalk .finished)).Grows { world with
        host := world.host.setBody (.object base.host.cells.size) (.walk .setWalk .finished) } :=
      hGrows.setBody rfl (fun other hOther => List.mem_singleton.mp hOther ▸ hSet) (List.forall_mem_nil _)
    have hReferenced : World.isReferenced { world with
        host := world.host.setBody (.object base.host.cells.size) (.walk .setWalk .finished) } set = true :=
      ((base.extends_making _).trans hEnded.extends).referenced (World.isReferenced_iff.mpr (.inr hSet))
    have hRelease : (Host.ops.release [set]).eval context { world with
        host := world.host.setBody (.object base.host.cells.size) (.walk .setWalk .finished) } = (.ok (), _) :=
      Host.eval_release_referenced fun other hOther _ => List.mem_singleton.mp hOther ▸ hReferenced
    rw [Host.advance, Host.nextElement, HostM.eval_bind, HostM.eval_bodyOf]
    dsimp only
    rw [hTable, Option.getD_some, hStep]
    dsimp only
    rw [HostM.eval_bind]
    change (match (Host.ops.release [set]).eval context { world with
        host := world.host.setBody (.object base.host.cells.size) (.walk .setWalk .finished) } with
      | (.ok _, later) => (Pure.pure none : HostM (Option Ref)).eval context later
      | (.error fault, later) => (.error fault, later)) = _
    rw [hRelease]
    rfl

/-- A walk hands out the first of the elements that are left. -/
theorem run_nextFrom (hLeft : table.remaining position = ref :: rest)
    (hGrows : (base.making (.walk .setWalk (.elements set position table.size due false))).Grows world) :
    ∃ next, table.remaining next = rest ∧
      (BridgeM.contract .iterate (Host.next Host.ops (.object base.host.cells.size))).run.run world =
        (.ok (some ref), { world with
        host := world.host.setBody (.object base.host.cells.size)
          (.walk .setWalk (.elements set next table.size (due - 1) false)) }) := by
  have hEval := eval_next_walk hSet hLive hElements {} hGrows
  rcases table.step_eq position with ⟨hNone, _⟩ | ⟨next, first, hRemaining, hStep⟩
  · rw [hLeft] at hNone
    cases hNone
  · rw [hLeft] at hRemaining
    cases hRemaining
    rw [hStep] at hEval
    refine ⟨next, rfl, ?_⟩
    rw [BridgeM.contract, BridgeM.run_host, HostM.runOn, hEval]

/-- A walk hands out the next element and goes on behind it. -/
theorem Walks.run_next (hWalks : base.Walks set table (ref :: rest) world) :
    ∃ after, (BridgeM.contract .iterate (Host.next Host.ops (.object base.host.cells.size))).run.run world =
        (.ok (some ref), after) ∧
      base.Walks set table rest after := by
  obtain ⟨position, due, hLeft, hGrows⟩ := hWalks
  obtain ⟨next, hRest, hRun⟩ := run_nextFrom hSet hLive hElements hLeft hGrows
  have hRefs : ∀ other ∈ [set], base.Mentions other := fun other hOther => List.mem_singleton.mp hOther ▸ hSet
  exact ⟨_, hRun, next, due - 1, hRest, hGrows.setBody rfl hRefs hRefs⟩

/-- A walk is at its end when there are none. -/
theorem Walks.run_next_nil (hWalks : base.Walks set table [] world) :
    ∃ after, (BridgeM.contract .iterate (Host.next Host.ops (.object base.host.cells.size))).run.run world =
        (.ok none, after) ∧
      base.Walked set after := by
  obtain ⟨position, due, hLeft, hGrows⟩ := hWalks
  have hEval := eval_next_walk hSet hLive hElements {} hGrows
  rcases table.step_eq position with ⟨_, hStep⟩ | ⟨next, first, hRemaining, _⟩
  · rw [hStep] at hEval
    refine ⟨_, ?_, .finished, List.nil_subset _,
      hGrows.setBody rfl (fun other hOther => List.mem_singleton.mp hOther ▸ hSet) (List.forall_mem_nil _)⟩
    rw [BridgeM.contract, BridgeM.run_host, HostM.runOn, hEval]
  · rw [hLeft] at hRemaining
    cases hRemaining

end World

namespace Scene

/-- Opening an iterator over the set is within the scene. -/
theorem Follows.making (hFollows : scene.Follows base) (hOpens : scene.Opens) {walk : Walk}
    (hLive : base.host.isLive set = true) (hRefs : walk.references ⊆ [set]) :
    scene.Follows (base.making (.walk .setWalk walk)) := by
  have hThere : ∀ ref ∈ (Body.walk .setWalk walk).references, base.host.isLive ref = true := fun ref hRef =>
    List.mem_singleton.mp (hRefs hRef) ▸ hLive
  have hMakes := hFollows.makes_allocate hOpens hThere rfl
  have hLive : ∀ ref ∈ [Ref.object base.host.cells.size],
      (base.host.allocate { body := .walk .setWalk walk }).2.isLive ref = true := by
    intro ref hRef
    rw [List.mem_singleton.mp hRef]
    exact hMakes.live
  exact hMakes.keeps.follows.holdAll hLive

theorem Follows.walks (hFollows : scene.Follows base) (hOpens : scene.Opens)
    (hLive : base.host.isLive set = true) (hWalks : base.Walks set table left world) : scene.Follows world := by
  obtain ⟨position, due, _, hGrows⟩ := hWalks
  exact (hFollows.making hOpens hLive (List.Subset.refl _)).grows hGrows

/-- The first of some elements that answers that it is equal to what is looked for, if none fails before. -/
def firstEqual (scene : Scene) (world : World) (needle : Ref) : List Ref → Except Fault (Option Ref)
  | [] => .ok none
  | element :: rest =>
    match scene.conduct.equal (scene.origin world element) (scene.origin world needle) with
    | .error fault => .error fault
    | .ok true => .ok (some element)
    | .ok false => scene.firstEqual world needle rest

/-- What native code is told of what a search comes to. -/
inductive Tells (scene : Scene) (world : World) :
    Except Fault (Option Ref) → Except BridgeError (Option NativeValue) → Prop where
  | failed (fault : Fault) : Tells scene world (.error fault) (scene.reported .member (.error fault))
  | absent : Tells scene world (.ok none) (.ok none)
  | found {ref : Ref} {value : NativeValue} (hStands : value.StandsFor world ref) :
    Tells scene world (.ok (some ref)) (.ok (some value))

/-- An element is handed out if it is equal to what is looked for. -/
theorem Follows.exists_matched (hFollows : scene.Follows world) (hGoverns : scene.Governs)
    (hElement : scene.Concerns world ref) (hNeedle : scene.Concerns world needle) (hMentions : world.Mentions ref) :
    ∃ told after, BridgeM.Yields (BridgeM.keeping [ref] (ForeignSet.matched? ref needle)) world told after ∧
      match scene.conduct.equal (scene.origin world ref) (scene.origin world needle) with
      | .error fault => told = scene.reported .member (.error fault)
      | .ok true => ∃ value, told = .ok (some value) ∧ value.StandsFor after ref
      | .ok false => told = .ok none := by
  have hHeld : scene.Follows (world.holdAll [ref]) := by
    apply hFollows.holdAll
    intro other hOther
    rw [List.mem_singleton.mp hOther]
    exact hElement.live
  have hKept : ∀ other ∈ [ref], other.isObject = true → world.isReferenced other = true := by
    intro other hOther _
    rw [List.mem_singleton.mp hOther]
    exact World.isReferenced_iff.mpr (.inr hMentions)
  have hPeeks := hGoverns.equal (world.holdAll [ref]) hHeld ref needle hElement.live hNeedle.live hElement.items
    hNeedle.items {} (Nat.zero_le 1)
  obtain ⟨middle, hCompared⟩ := hHeld.exists_contract hGoverns .member hPeeks
    fun fault hFault => ⟨_, hNeedle.items, .equal hElement.items hFault⟩
  change BridgeM.Yields _ _ (scene.reported .member
    (scene.conduct.equal (scene.origin world ref) (scene.origin world needle))) _ at hCompared
  cases hEqual : scene.conduct.equal (scene.origin world ref) (scene.origin world needle) with
  | error fault =>
    rw [hEqual] at hCompared
    exact ⟨_, _, (hCompared.bind_error).keeping hKept, rfl⟩
  | ok isEqual =>
    rw [hEqual] at hCompared
    cases isEqual with
    | false =>
      have hNothing : (ForeignSet.matched? ref needle).Yields (world.holdAll [ref]) (.ok none) middle :=
        hCompared.bind .pure
      exact ⟨_, _, hNothing.keeping hKept, rfl⟩
    | true =>
      have hMiddle : middle.Mentions ref :=
        hCompared.grows.mentions_iff.mpr (World.mentions_held.mpr hMentions)
      obtain ⟨value, last, hTaken, hStands⟩ :=
        NativeValue.exists_fromHost (hHeld.grows hCompared.grows).unrefused hMiddle
      have hFound : (ForeignSet.matched? ref needle).Yields (world.holdAll [ref]) (.ok (some value)) last :=
        hCompared.bind (hTaken.map some)
      exact ⟨_, _, hFound.keeping hKept, value, rfl, hStands.given rfl rfl⟩

/-- What is found comes from what was searched. -/
theorem mem_of_firstEqual (hFirst : scene.firstEqual world needle left = .ok (some ref)) : ref ∈ left := by
  induction left with
  | nil => cases hFirst
  | cons element rest ih =>
    rw [firstEqual] at hFirst
    split at hFirst
    · cases hFirst
    · cases hFirst
      exact List.mem_cons_self
    · exact List.mem_cons_of_mem element (ih hFirst)

/-- It is told as long as the value that was found stands for the element. -/
theorem Tells.given {found : Except Fault (Option Ref)} {told : Except BridgeError (Option NativeValue)}
    (hTells : scene.Tells before found told)
    (hStands : ∀ ref (value : NativeValue), found = .ok (some ref) → value.StandsFor before ref →
      value.StandsFor after ref) :
    scene.Tells after found told := by
  cases hTells with
  | failed fault => exact .failed fault
  | absent => exact .absent
  | found hFound => exact .found (hStands _ _ rfl hFound)

section Walks

variable (hContains : scene.Contains base set table) (hGoverns : scene.Governs) (hOpens : scene.Opens)
  (hSet : base.Mentions set)

include hContains hGoverns hOpens hSet

/-- The elements that a walk has left are compared in turn. -/
theorem Contains.exists_findEqual (hNeedle : scene.Concerns base needle) (hLeft : left ⊆ table.toList)
    (hWalks : base.Walks set table left world) {steps : Nat} (hSteps : left.length < steps) :
    ∃ told after,
      (ForeignSet.findEqual (.object base.host.cells.size) needle steps).run.run world = (told, after) ∧
        base.Walked set after ∧ scene.Tells after (scene.firstEqual base needle left) told := by
  obtain ⟨steps, rfl⟩ : ∃ fewer, steps = fewer + 1 := ⟨steps - 1, by omega⟩
  induction left generalizing world steps with
  | nil =>
    obtain ⟨after, hNext, hWalked⟩ := hWalks.run_next_nil hSet hContains.live hContains.elements
    refine ⟨_, after, ?_, hWalked, .absent⟩
    rw [ForeignSet.findEqual_succ, run_bind, hNext]
    rfl
  | cons ref rest ih =>
    obtain ⟨middle, hNext, hMiddle⟩ := hWalks.run_next hSet hContains.live hContains.elements
    have hExtends := hMiddle.extends
    have hFollows := hContains.follows.walks hOpens hContains.live hMiddle
    have hRef := hLeft List.mem_cons_self
    have hElement := hContains.concerns ref hRef
    obtain ⟨told, after, hMatched, hTold⟩ := hFollows.exists_matched hGoverns (hElement.extends hExtends)
      (hNeedle.extends hExtends) ((hContains.extends hExtends hFollows).mentions hRef)
    rw [origin_eq (hExtends.body_eq hElement.live), origin_eq (hExtends.body_eq hNeedle.live)] at hTold
    have hAfter := hMiddle.grows hMatched.grows
    rw [ForeignSet.findEqual_succ, run_bind, hNext]
    dsimp only
    rw [run_bind, hMatched.run, firstEqual]
    cases hEqual : scene.conduct.equal (scene.origin base ref) (scene.origin base needle) with
    | error fault =>
      rw [hEqual] at hTold
      obtain rfl := hTold
      exact ⟨_, after, rfl, hAfter.walked, .failed fault⟩
    | ok isEqual =>
      rw [hEqual] at hTold
      cases isEqual with
      | true =>
        obtain ⟨value, rfl, hStands⟩ := hTold
        exact ⟨_, after, rfl, hAfter.walked, .found hStands⟩
      | false =>
        obtain rfl := hTold
        rw [List.length_cons] at hSteps
        obtain ⟨fewer, rfl⟩ : ∃ fewer, steps = fewer + 1 := ⟨steps - 1, by omega⟩
        exact ih (List.subset_of_cons_subset hLeft) hAfter fewer (by omega)

omit hGoverns hOpens in
/-- What is done with a walk that is made for it. -/
theorem Contains.exists_walking {α : Type} (hPlain : base.IsPlain set) (next : Ref → BridgeM α)
    {result : Except BridgeError α} {middle : World}
    (hRun : (next (.object base.host.cells.size)).run.run
      (base.making (.walk .setWalk (.elements set 0 table.size table.size false))) = (result, middle))
    (hWalked : base.Walked set middle) :
    ∃ after, BridgeM.Yields (BridgeM.contract .iterate (Host.iterate Host.ops set) >>= fun iterator =>
        BridgeM.keeping [iterator] (next iterator)) base result after ∧
      ∀ ref (value : NativeValue), base.host.isLive ref = true → value.StandsFor middle ref →
        value.StandsFor after ref := by
  obtain ⟨walk, hRefs, hGrows⟩ := hWalked
  obtain ⟨after, hYields, hNative⟩ := BridgeM.Yields.keeping_made next hContains.follows
    (ForeignSet.run_hostIterator hPlain hContains.elements) hRun hGrows rfl
    fun other hOther => List.mem_singleton.mp (hRefs hOther) ▸ hSet
  refine ⟨after, hYields, fun ref value hLive hStands => hStands.given ?_ hNative⟩
  exact (hYields.grows.body_eq ref).trans (((base.extends_making _).trans hGrows.extends).body_eq hLive).symm

/-- The search that follows when a set has what is looked for. -/
theorem Contains.exists_search (hPlain : base.IsPlain set) (hNeedle : scene.Concerns base needle) :
    ∃ told after, BridgeM.Yields
      (do
        let limit ← ForeignSet.searchLimit set
        let iterator ← BridgeM.contract .iterate (Host.iterate Host.ops set)
        BridgeM.keeping [iterator] (ForeignSet.findEqual iterator needle limit)) base told after ∧
      scene.Tells after (scene.firstEqual base needle table.toList) told := by
  have hLimit : BridgeM.Yields (ForeignSet.searchLimit set) base (.ok (Host.stepLimit + table.size)) base := by
    refine ⟨?_, .refl base⟩
    rw [ForeignSet.searchLimit, run_get, hContains.elements]
    rfl
  have hSteps : table.toList.length < Host.stepLimit + table.size := by
    rw [SetTable.length_toList]
    exact Nat.lt_add_of_pos_left (by decide)
  have hStart : base.Walks set table table.toList
      (base.making (.walk .setWalk (.elements set 0 table.size table.size false))) :=
    ⟨0, table.size, SetTable.remaining_zero table, .refl _⟩
  obtain ⟨told, middle, hRun, hWalked, hTells⟩ :=
    hContains.exists_findEqual hGoverns hOpens hSet hNeedle (List.Subset.refl _) hStart hSteps
  obtain ⟨after, hYields, hStands⟩ := hContains.exists_walking hSet hPlain
    (fun iterator => ForeignSet.findEqual iterator needle (Host.stepLimit + table.size)) hRun hWalked
  refine ⟨told, after, hLimit.bind hYields, hTells.given fun ref value hFound => hStands ref value ?_⟩
  exact (hContains.concerns ref (mem_of_firstEqual hFound)).live

omit hGoverns in
/-- Some element is handed out if there is one. -/
theorem Contains.exists_anyElement (hPlain : base.IsPlain set) :
    ∃ told after, BridgeM.Yields (ForeignSet.anyElement set) base (.ok told) after ∧
      match table.toList with
      | [] => told = none
      | ref :: _ => ∃ value, told = some value ∧ value.StandsFor after ref := by
  have hStart : base.Walks set table table.toList
      (base.making (.walk .setWalk (.elements set 0 table.size table.size false))) :=
    ⟨0, table.size, SetTable.remaining_zero table, .refl _⟩
  have hAll : ∀ ref ∈ table.toList, scene.Concerns base ref := hContains.concerns
  have hMentioned : ∀ ref ∈ table.toList, base.Mentions ref := fun ref => hContains.mentions
  generalize table.toList = left at hStart hAll hMentioned
  cases left with
  | nil =>
    obtain ⟨middle, hNext, hWalked⟩ := hStart.run_next_nil hSet hContains.live hContains.elements
    obtain ⟨after, hYields, _⟩ := hContains.exists_walking hSet hPlain
      (fun iterator => BridgeM.contract .iterate (Host.next Host.ops iterator) >>= ForeignSet.elementValue)
      (by rw [run_bind, hNext]; rfl) hWalked
    rw [ForeignSet.anyElement_eq]
    exact ⟨none, after, hYields, rfl⟩
  | cons ref rest =>
    obtain ⟨middle, hNext, hMiddle⟩ := hStart.run_next hSet hContains.live hContains.elements
    have hFollows := hContains.follows.walks hOpens hContains.live hMiddle
    obtain ⟨value, last, hGiven, hStands⟩ := ForeignSet.exists_elementValue hFollows.unrefused
      (hMiddle.extends.mentions ref (hMentioned ref List.mem_cons_self))
    obtain ⟨after, hYields, hLater⟩ := hContains.exists_walking hSet hPlain
      (fun iterator => BridgeM.contract .iterate (Host.next Host.ops iterator) >>= ForeignSet.elementValue)
      (by rw [run_bind, hNext]; exact hGiven.run) (hMiddle.grows hGiven.grows).walked
    rw [ForeignSet.anyElement_eq]
    exact ⟨some value, after, hYields, value, rfl, hLater ref value (hAll ref List.mem_cons_self).live hStands⟩

end Walks

end Scene

end HeapBridge
