import HeapBridge.Proofs.Boundary.Blindness
import HeapBridge.Proofs.Iteration.Steps
/-!
Runs of an iterator. Between its steps anything may be done that does not step it or give it up: the set
that it goes over stays a set, since the iterator refers to it, and its own standing stays as it is. So what a
step comes to is told by the size that the set has then, the size it had at the start, and what earlier steps
came to.
-/
namespace HeapBridge

open Host (Ref SetTable)

variable {world before after : World} {number size : Nat} {source : Ref} {may : Deed → Prop}

/-- Whether an object is a set or a frozen set. -/
def Host.Heap.HasElements (heap : Host.Heap) (ref : Ref) : Prop :=
  (heap.body ref).elements?.isSome = true

namespace Host

/-- What has elements is an object that is alive. -/
theorem Heap.HasElements.exists_object {heap : Heap} {ref : Ref} (hElements : heap.HasElements ref) :
    ∃ address object, ref = .object address ∧ heap.object? address = some object ∧
      object.body.elements?.isSome = true := by
  cases ref with
  | atom value => cases value <;> cases hElements
  | object address =>
    cases hObject : heap.object? address with
    | none =>
      simp [HasElements, body, view, hObject, Body.elements?] at hElements
    | some object =>
      rw [HasElements, body, view_of_object? hObject] at hElements
      exact ⟨address, object, rfl, hObject, hElements⟩

theorem Heap.hasElements_of_object? {heap : Heap} {address : Nat} {object : Object}
    (hObject : heap.object? address = some object) (hElements : object.body.elements?.isSome = true) :
    heap.HasElements (.object address) := by
  rwa [HasElements, body, view_of_object? hObject]

theorem Body.elements_of_canBecome {old new : Body} (hBecome : old.canBecome new = true)
    (hElements : old.elements?.isSome = true) : new.elements?.isSome = true := by
  cases old <;> cases new <;> simp_all [canBecome, elements?]

theorem Object.Becomes.elements {old new : Object} (hBecomes : old.Becomes new)
    (hElements : old.body.elements?.isSome = true) : new.body.elements?.isSome = true := by
  rcases hBecomes.2 with hSame | hBecome
  · rwa [hSame]
  · exact Body.elements_of_canBecome hBecome hElements

/-- A set that something refers to stays a set. -/
theorem Change.hasElements {ref : Ref} (change : Change before after)
    (hReferenced : before.isReferenced ref = true) (hElements : before.host.HasElements ref) :
    after.host.HasElements ref := by
  obtain ⟨address, object, rfl, hObject, hBody⟩ := hElements.exists_object
  cases change with
  | allocate new _ _ =>
    have hIn := Heap.lt_size_of_object? hObject
    exact Heap.hasElements_of_object? ((Heap.object?_allocate_of_lt hIn).trans hObject) hBody
  | @put other old new hOld hNew =>
    have hPut := Heap.object?_put hOld new address
    split at hPut
    next hSame =>
      obtain rfl : object = old := by simpa [hSame, hOld] using hObject.symm
      exact Heap.hasElements_of_object? hPut (hNew.elements hBody)
    next => exact Heap.hasElements_of_object? (hPut.trans hObject) hBody
  | @giveUp other hLive hFree =>
    have hOther : other ≠ address := by
      rintro rfl
      rw [hReferenced] at hFree
      cases hFree
    rw [World.reclaim_host]
    exact Heap.hasElements_of_object? ((Heap.object?_free_of_ne hOther).trans hObject) hBody
  | _ => exact hElements

end Host

/-- What leaves an iterator alone: it stands where it stood, and what it goes over stays a set. -/
structure World.Aside (number : Nat) (before after : World) : Prop where
  started : number < after.cursors.size
  cursor : after.cursor number = before.cursor number
  elements : ∀ source ∈ (before.cursor number).references,
    before.host.HasElements source → after.host.HasElements source

namespace World.Aside

theorem refl (hStarted : number < world.cursors.size) : Aside number world world :=
  ⟨hStarted, rfl, fun _ _ hElements => hElements⟩

theorem trans {middle : World} (first : Aside number before middle)
    (second : Aside number middle after) : Aside number before after :=
  ⟨second.started, second.cursor.trans first.cursor, fun source hSource hElements =>
    second.elements source (first.cursor.symm ▸ hSource) (first.elements source hSource hElements)⟩

/-- What changes neither the host heap nor iterators. -/
theorem of_eq (hStarted : number < before.cursors.size) (hHost : after.host = before.host)
    (hCursors : after.cursors = before.cursors) : Aside number before after := by
  refine ⟨hCursors ▸ hStarted, ?_, fun source _ hElements => hHost ▸ hElements⟩
  simp only [World.cursor, hCursors]

end World.Aside

/-- A set is kept alive by an iterator that is under way. -/
theorem World.isReferenced_of_cursor (hStarted : number < world.cursors.size)
    (hSource : source ∈ (world.cursor number).references) : world.isReferenced source = true := by
  have hAny : world.cursors.any (·.references.contains source) = true := by
    refine Array.any_eq_true.mpr ⟨number, hStarted, ?_⟩
    have hCursor : world.cursor number = world.cursors[number] := by
      simp [World.cursor, hStarted]
    rw [← hCursor, List.contains_iff_mem]
    exact hSource
  simp only [World.isReferenced, hAny, Bool.or_true, Bool.true_or]

theorem Host.Change.aside (change : Host.Change before after)
    (hStarted : number < before.cursors.size) : World.Aside number before after where
  started := change.cursors_registry.1 ▸ hStarted
  cursor := by simp only [World.cursor, change.cursors_registry.1]
  elements _ hSource := change.hasElements (World.isReferenced_of_cursor hStarted hSource)

theorem Host.Changes.aside (changes : Host.Changes before after)
    (hStarted : number < before.cursors.size) : World.Aside number before after := by
  induction changes with
  | refl => exact .refl hStarted
  | step _ last ih => exact ih.trans (last.aside ih.started)

/-- Moves that do not move an iterator leave it alone. -/
theorem Move.aside {start finish : Account} (move : Move may start finish)
    (hMay : ¬ may (.cursor number)) (hStarted : number < start.world.cursors.size) :
    World.Aside number start.world finish.world := by
  cases move with
  | host change => exact change.aside hStarted
  | drop address _ =>
    exact .of_eq hStarted (World.dropNative_host address _) (World.aside_dropNative address _).2.1
  | handle handle _ _ =>
    refine ⟨hStarted, rfl, fun source _ hElements => ?_⟩
    obtain ⟨address, object, rfl, hObject, hBody⟩ := hElements.exists_object
    have hIn := Host.Heap.lt_size_of_object? hObject
    exact Host.Heap.hasElements_of_object?
      ((Host.Heap.object?_allocate_of_lt hIn).trans hObject) hBody
  | startCursor cursor =>
    exact ⟨by simpa [World.startCursor] using Nat.lt_succ_of_lt hStarted,
      World.cursor_startCursor_of_lt hStarted cursor, fun _ _ hElements => hElements⟩
  | moveCursor other cursor hOther =>
    have hNumber : other ≠ number := by
      rintro rfl
      exact hMay hOther
    exact ⟨by simpa using hStarted, World.cursor_moveCursor_of_ne hNumber cursor,
      fun _ _ hElements => hElements⟩
  | _ => exact .of_eq hStarted rfl rfl

theorem Moves.aside {start finish : Account} (moves : Moves may start finish)
    (hMay : ¬ may (.cursor number)) (hStarted : number < start.world.cursors.size) :
    World.Aside number start.world finish.world := by
  induction moves with
  | refl => exact .refl hStarted
  | step _ last ih => exact ih.trans (last.aside hMay ih.started)

/-- An operation that does not move an iterator leaves it alone. -/
theorem Transfers.aside {σ α ε : Type} [Holder σ] {others taken : Estate} {state : σ}
    {operation : ExceptT ε (StateM σ) α} {given : α → Estate}
    (hOperation : Transfers may others state taken operation given) (hMay : ¬ may (.cursor number))
    (hStarted : number < (Holder.world state).cursors.size) :
    World.Aside number (Holder.world state) (Holder.world (operation.run.run state).2) :=
  (Steps.moves hOperation).aside hMay hStarted

/-- Iterators that were started stay known. -/
theorem Move.size_cursors {start finish : Account} (move : Move may start finish) :
    start.world.cursors.size ≤ finish.world.cursors.size := by
  cases move with
  | host change => rw [change.cursors_registry.1]
  | drop address _ => rw [(World.aside_dropNative address _).2.1]
  | startCursor cursor => simp [World.startCursor]
  | moveCursor number cursor _ => simp
  | _ => exact Nat.le_refl _

theorem Moves.size_cursors {start finish : Account} (moves : Moves may start finish) :
    start.world.cursors.size ≤ finish.world.cursors.size := by
  induction moves with
  | refl => exact Nat.le_refl _
  | step _ last ih => exact ih.trans last.size_cursors

abbrev Told := Except BridgeError (Option Ref)

/-- A step as the exported function reports it: a status, and what it stores for the caller. -/
def Told.reported : Told → Int × Option Ref
  | .ok (some ref) => (1, some ref)
  | .ok none => (0, none)
  | .error _ => (-1, none)

/-- What the exported function leaves behind after a step: the element is held, and the thread is told of
an error. -/
def Told.leave (thread : Thread) (world : World) : Told → World
  | .ok (some ref) => (world.clearLastError thread).hold ref
  | .ok none => world.clearLastError thread
  | .error error => world.setLastError thread error.message

/-- What a step tells is left with the thread, beside all iterators. -/
theorem Told.aside_leave {thread : Thread} (hStarted : number < world.cursors.size) (told : Told) :
    World.Aside number world (told.leave thread world) := by
  rcases told with error | _ | ref
  · unfold leave World.setLastError
    dsimp only
    split <;> exact .of_eq hStarted rfl rfl
  · exact .of_eq hStarted rfl rfl
  · exact .of_eq hStarted rfl rfl

/-- What the next step of an iterator comes to. -/
def World.told (world : World) (number : Nat) : Told := ((ForeignSet.next number).run.run world).1

def World.stepped (world : World) (number : Nat) : World :=
  ((ForeignSet.next number).run.run world).2

/-- The ways to step an iterator. -/
inductive Stepper where
  /-- For the next host object. -/
  | cursor
  /-- For the next native value. -/
  | native
  /-- By the exported function. -/
  | exported (thread : Thread)

def Stepper.step (stepper : Stepper) (number : Nat) (world : World) : World :=
  match stepper with
  | cursor => world.stepped number
  | native => ((ForeignSet.nextValue number).run.run world).2
  | exported thread => ((Export.iteratorNext thread (some number) true).run world).2

/-- A step starts no iterator and loses none. -/
theorem Stepper.started_step (stepper : Stepper) (hStarted : number < world.cursors.size) :
    number < (stepper.step number world).cursors.size := by
  cases stepper with
  | cursor =>
    have hSteps : Transfers (fun _ => True) 0 world 0 (ForeignSet.next number) fun _ => 0 :=
      ForeignSet.transfers_next trivial
    exact hStarted.trans_le (Steps.moves hSteps).size_cursors
  | native =>
    have hSteps : Transfers (fun _ => True) 0 world 0 (ForeignSet.nextValue number) valueEstate :=
      ForeignSet.transfers_nextValue trivial
    exact hStarted.trans_le (Steps.moves hSteps).size_cursors
  | exported thread =>
    have hSteps : Hands (fun _ => True) 0 world 0 (Export.iteratorNext thread (some number) true)
        fun result => .ofHost (refClaims result.2) := Export.hands_iteratorNext fun _ _ => trivial
    exact hStarted.trans_le (Steps.moves hSteps).size_cursors

/-- A run from a world to another one in which an iterator is stepped, with what each step came to. -/
inductive Run (number : Nat) (start : World) : List Told → World → Prop where
  | refl : Run number start [] start
  /-- Something else is done. -/
  | aside {past : List Told} {middle finish : World} (prior : Run number start past middle)
      (aside : World.Aside number middle finish) : Run number start past finish
  | step {past : List Told} {middle : World} (prior : Run number start past middle)
      (stepper : Stepper) :
      Run number start (past ++ [middle.told number]) (stepper.step number middle)

namespace Run

/-- Runs in a row are a run. -/
theorem trans {start middle finish : World} {first second : List Told}
    (hFirst : Run number start first middle) (hSecond : Run number middle second finish) :
    Run number start (first ++ second) finish := by
  induction hSecond with
  | refl => simpa using hFirst
  | aside _ hAside ih => exact .aside ih hAside
  | step _ stepper ih =>
    rw [← List.append_assoc]
    exact .step ih stepper

theorem started {start finish : World} {past : List Told} (run : Run number start past finish)
    (hStarted : number < start.cursors.size) : number < finish.cursors.size := by
  induction run with
  | refl => exact hStarted
  | aside _ hAside _ => exact hAside.started
  | step _ stepper ih => exact stepper.started_step ih

end Run

namespace ForeignSet

/-- A step for a native value is a step for a host object that is converted afterwards. -/
theorem run_nextValue (number : Nat) (world : World) :
    (nextValue number).run.run world =
      (BridgeM.finish (world.told number) >>= elementValue).run.run (world.stepped number) := by
  rw [nextValue_eq, run_bind, run_bind, BridgeM.run_finish, World.told, World.stepped]
  rcases (next number).run.run world with ⟨error | element, after⟩ <;> rfl

end ForeignSet

namespace Export

theorem told_clearLastError (thread : Thread) (number : Nat) (world : World) :
    (world.clearLastError thread).told number = world.told number := by
  have hTold := congrArg Prod.fst (ForeignSet.unaware_next number world
    (world.clearLastError thread).lastErrors)
  exact hTold

theorem stepped_clearLastError (thread : Thread) (number : Nat) (world : World) :
    (world.clearLastError thread).stepped number = (world.stepped number).clearLastError thread := by
  have hErrors := (ForeignSet.unaware_next number).lastErrors_run world
  have hStepped := congrArg Prod.snd (ForeignSet.unaware_next number world
    (world.clearLastError thread).lastErrors)
  refine hStepped.trans ?_
  rw [World.stepped, World.clearLastError_eq, World.clearLastError_eq, hErrors]
  rfl

/-- A step by the exported function is a step for a host object, which is held, or for an error that the
thread is told. -/
theorem run_iteratorNext (thread : Thread) (number : Nat) (world : World) :
    (iteratorNext thread (some number) true).run world =
      ((world.told number).reported, (world.told number).leave thread (world.stepped number)) := by
  have hOutput : (outputArgument true).run.run (world.clearLastError thread) =
      (.ok (), world.clearLastError thread) := rfl
  have hNext : (ForeignSet.next number).run.run (world.clearLastError thread) =
      (world.told number, (world.stepped number).clearLastError thread) :=
    Prod.ext (told_clearLastError thread number world) (stepped_clearLastError thread number world)
  rw [iteratorNext, run_guarded, run_bind, hOutput]
  dsimp only
  rw [run_bind, hNext]
  rcases world.told number with error | _ | ref
  · exact congrArg (Prod.mk _) (World.setLastError_clearLastError ..)
  · rfl
  · rfl

end Export

end HeapBridge
