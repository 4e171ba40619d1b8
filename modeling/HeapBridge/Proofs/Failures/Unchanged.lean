import HeapBridge.Proofs.Failures.Operations
import HeapBridge.Proofs.Surfacing.Requests
/-!
Failures that change nothing. If an operation on a set fails the set has the elements that it had, its iterators go
on as they would have, and everything is referred to by as many places as before, whatever the operation had made
and taken on its way. Host code that is run for it must change nothing by itself, the showing of a key included that
a fault is told with.
-/
namespace HeapBridge

open Host (Body Heap Object Ref SetTable)

variable {world before after : World} {ref set : Ref} {table : SetTable} {number address : Nat}

/-- What the next steps of an iterator come to. -/
def World.handsOut (number : Nat) : Nat → World → List Told
  | 0, _ => []
  | steps + 1, world => world.told number :: (world.stepped number).handsOut number steps

/-- What is in a list of cells is told by what each cell has. -/
private theorem filterMap_cells_congr (left right : List (Option Object))
    (hSame : ∀ index : Nat, left[index]?.join = right[index]?.join) : left.filterMap id = right.filterMap id := by
  have hEmpty (cells : List (Option Object)) (hNone : ∀ index : Nat, cells[index]?.join = none) :
      cells.filterMap id = [] := by
    refine List.filterMap_eq_nil_iff.mpr fun cell hCell => ?_
    obtain ⟨index, hIndex⟩ := List.mem_iff_getElem?.mp hCell
    have hThere := hNone index
    rwa [hIndex] at hThere
  induction left generalizing right with
  | nil => exact (hEmpty right fun index => (hSame index).symm).symm
  | cons first rest ih =>
    cases right with
    | nil => exact hEmpty _ hSame
    | cons other others =>
      have hFirst : first = other := hSame 0
      rw [hFirst, List.filterMap_cons, List.filterMap_cons, ih others fun index => hSame (index + 1)]

/-- Two heaps with the same objects at the same addresses have the same references. -/
theorem Host.Heap.references_congr {heap other : Heap} (hScripts : other.scripts = heap.scripts)
    (hObject : ∀ address, other.object? address = heap.object? address) : other.references = heap.references := by
  have hCells : other.cells.toList.filterMap id = heap.cells.toList.filterMap id := by
    apply filterMap_cells_congr
    intro index
    have hThere := hObject index
    simp only [Heap.object?, Array.getElem?_toList] at hThere ⊢
    exact hThere
  rw [references, references, hScripts, hCells]

namespace World

/-- Whether a world is like another one in all that host code and iterators can see, and in what refers to what. -/
structure Resembles (before after : World) : Prop where
  scripts : after.host.scripts = before.host.scripts
  object : ∀ address, after.host.object? address = before.host.object? address
  held : after.held = before.held
  native : after.native = before.native
  cursors : after.cursors = before.cursors
  registry : after.registry = before.registry

theorem Restored.resembles (hRestored : before.Restored after) : before.Resembles after := by
  have hAside := hRestored.calm.aside
  exact ⟨by rw [hAside], hRestored.calm.object, by rw [hAside], by rw [hAside], by rw [hAside], by rw [hAside]⟩

namespace Resembles

variable (hSame : before.Resembles after)

include hSame

theorem view_eq (ref : Ref) : after.host.view ref = before.host.view ref := by
  cases ref with
  | atom value => rfl
  | object address => rw [Heap.view, Heap.view, hSame.object]

theorem isLive_eq (ref : Ref) : after.host.isLive ref = before.host.isLive ref := by
  cases ref with
  | atom value => rfl
  | object address => rw [Heap.isLive, Heap.isLive, hSame.object]

theorem body_eq (ref : Ref) : after.host.body ref = before.host.body ref := congrArg Object.body (hSame.view_eq ref)

theorem refCount_eq (ref : Ref) : after.refCount ref = before.refCount ref := by
  rw [refCount, refCount, references, references, hSame.held, hSame.native, hSame.cursors, hSame.registry,
    Heap.references_congr hSame.scripts hSame.object]

theorem moveCursor (number : Nat) (cursor : Cursor) :
    (before.moveCursor number cursor).Resembles (after.moveCursor number cursor) :=
  { hSame with cursors := congrArg (·.setIfInBounds number cursor) hSame.cursors }

end Resembles

/-- What a proxy refers to may be let go of in flight. -/
theorem release_backed (hProxy : world.native.backing? address = some ref) : world.release [ref] = world := by
  obtain ⟨object, hObject, hRef⟩ := Native.Heap.mem_of_backing? hProxy
  have hReferenced : world.isReferenced ref = true := World.isReferenced_iff.mpr (.inr (.proxy hObject hRef))
  rw [release, Host.HostM.runOn,
    Host.eval_release_referenced fun other hOther _ => List.mem_singleton.mp hOther ▸ hReferenced]

/-- An iterator over a set with a proxy, or one that is at its end. -/
def GoesOver (world : World) (number : Nat) (set : Ref) : Prop :=
  world.cursor number = .finished ∨ ∃ position size broken, world.cursor number = .elements set position size broken

/-- A walk that is moved along or ends is still a walk over the set. -/
theorem GoesOver.moveCursor (hOver : world.GoesOver number set) {cursor : Cursor}
    (hCursor : cursor = .finished ∨ ∃ position size broken, cursor = .elements set position size broken) :
    (world.moveCursor number cursor).GoesOver number set := by
  by_cases hStarted : number < world.cursors.size
  · rw [GoesOver, cursor_moveCursor_self hStarted]
    exact hCursor
  · have hSame : (world.moveCursor number cursor).cursor number = world.cursor number := by
      rw [World.cursor, World.cursor, World.moveCursor, Array.setIfInBounds_eq_of_size_le (Nat.not_lt.mp hStarted)]
    rw [GoesOver, hSame]
    exact hOver

/-- An iterator over a set hands out the same where the world is the same. -/
theorem Resembles.handsOut_eq (hSame : before.Resembles after) (hProxy : before.native.backing? address = some set)
    (hTable : (before.host.body set).elements? = some table) (hOver : before.GoesOver number set) (steps : Nat) :
    after.handsOut number steps = before.handsOut number steps := by
  induction steps generalizing before after with
  | zero => rfl
  | succ steps ih =>
    have hLater : after.native.backing? address = some set := hSame.native ▸ hProxy
    have hThere : (after.host.body set).elements? = some table := by rw [hSame.body_eq]; exact hTable
    have hCursor := World.cursor_congr hSame.cursors number
    rw [handsOut, handsOut, told, told, stepped, stepped]
    rcases id hOver with hEnd | ⟨position, size, broken, hHere⟩
    · rw [ForeignSet.run_next_finished hEnd, ForeignSet.run_next_finished (hCursor.trans hEnd),
        ih hSame hProxy hTable hOver]
    · rw [ForeignSet.run_next_elements hHere hTable, ForeignSet.run_next_elements (hCursor.trans hHere) hThere]
      cases table.step position size broken with
      | changed =>
        exact congrArg _ (ih (hSame.moveCursor _ _) hProxy hTable (hOver.moveCursor (.inr ⟨_, _, _, rfl⟩)))
      | exhausted =>
        have hBefore : (before.moveCursor number .finished).release [set] = before.moveCursor number .finished :=
          release_backed hProxy
        have hAfter : (after.moveCursor number .finished).release [set] = after.moveCursor number .finished :=
          release_backed hLater
        dsimp only
        rw [hBefore, hAfter, ih (hSame.moveCursor _ _) hProxy hTable (hOver.moveCursor (.inl rfl))]
      | element next ref =>
        exact congrArg _ (ih (hSame.moveCursor _ _) hProxy hTable (hOver.moveCursor (.inr ⟨_, _, _, rfl⟩)))

/-- Whether nothing has become of a set, its iterators and the references to anything, nor of any object. -/
structure Unchanged (set : Ref) (before after : World) : Prop where
  elements : (after.host.body set).elements? = (before.host.body set).elements?
  count : ((ForeignSet.count set).run.run after).1 = ((ForeignSet.count set).run.run before).1
  iterators : ∀ number, ((before.cursor number).over? set).isSome = true →
    ∀ steps, after.handsOut number steps = before.handsOut number steps
  references : ∀ ref, after.refCount ref = before.refCount ref
  objects : ∀ ref, after.host.isLive ref = before.host.isLive ref ∧ after.host.view ref = before.host.view ref

/-- Where the world is the same nothing has changed. -/
theorem Resembles.unchanged (hSame : before.Resembles after) (hProxy : before.native.backing? address = some set)
    (hBehaves : before.host.BehavesAsSet set) : before.Unchanged set after := by
  obtain ⟨table, hTable⟩ := hBehaves.elements
  have hLater := hBehaves.congr hSame.scripts (hSame.view_eq set)
  have hElements : (after.host.body set).elements? = (before.host.body set).elements? := by rw [hSame.body_eq]
  refine ⟨hElements, ?_, fun number hOver => hSame.handsOut_eq hProxy hTable ?_, hSame.refCount_eq,
    fun ref => ⟨hSame.isLive_eq ref, hSame.view_eq ref⟩⟩
  · rw [ForeignSet.run_count (hElements.trans hTable) (hLater.unscripted "__len__" (by simp)),
      ForeignSet.run_count hTable (hBehaves.unscripted "__len__" (by simp))]
  · cases hCursor : before.cursor number with
    | elements source position size broken =>
      rw [hCursor] at hOver
      by_cases hSource : source = set
      · exact .inr ⟨position, size, broken, hSource ▸ hCursor⟩
      · rw [Cursor.over?, if_neg hSource] at hOver
        cases hOver
    | _ =>
      rw [hCursor] at hOver
      cases hOver

end World

/-- What fails for an exported function is restored, but for the last error. -/
theorem Export.resembles_guarded {operation : BridgeM Int} {thread : Thread} (hUnaware : Unaware operation)
    (hSpares : operation.Spares (fun answer => answer ≠ -1) world)
    (hRun : (Export.guarded thread (-1) operation).run world = (-1, after)) : world.Resembles after := by
  rw [Export.run_guarded_of_unaware hUnaware] at hRun
  rw [BridgeM.Spares] at hSpares
  rcases hEnd : operation.run.run world with ⟨error | answer, middle⟩ <;> rw [hEnd] at hSpares hRun
  · obtain rfl := congrArg Prod.snd hRun
    have hMiddle := hSpares.resembles
    dsimp only
    unfold World.setLastError
    dsimp only
    split <;> exact { hMiddle with }
  · obtain ⟨rfl, rfl⟩ := Prod.mk.inj hRun
    exact { (hSpares.resolve_left fun hOther => hOther rfl).resembles with }

/-- An exported function on a set takes its arguments first. -/
theorem Export.spares_arguments {α : Type} {item : Option Ref} {next : Ref → Ref → BridgeM α} {free : α → Prop}
    (hProxy : world.native.backing? address = some set) (hNext : ∀ ref ∈ item, (next set ref).Spares free world) :
    BridgeM.Spares free (do
      let backing ← Export.setArgument (.native address)
      next backing (← Export.itemArgument item)) world := by
  have hSet : (Export.setArgument (.native address)).run.run world = (.ok set, world) := by
    rw [Export.run_setArgument_native, hProxy]
  rw [BridgeM.Spares, run_bind, hSet]
  cases item with
  | none => exact World.Restored.refl world
  | some ref => exact hNext ref rfl

theorem Export.unaware_arguments {α : Type} {item : Option Ref} {next : Ref → Ref → BridgeM α}
    (hNext : ∀ backing ref, Unaware (next backing ref)) : Unaware (do
      let backing ← Export.setArgument (.native address)
      next backing (← Export.itemArgument item)) := by
  refine (Export.unaware_setArgument address).bind fun backing => ?_
  cases item with
  | none => exact .throw
  | some ref => exact hNext backing ref

/-- Whether a request changes nothing about a set and its surroundings if it fails. -/
def SetRequest.FailsHarmlessly (request : SetRequest) (set : Ref) (world : World) : Prop :=
  ∀ error after, request.run.run.run world = (.error error, after) → world.Unchanged set after

theorem SetRequest.failsHarmlessly {request : SetRequest} {free : request.Answer → Prop}
    (hProxy : world.native.backing? address = some set) (hBehaves : world.host.BehavesAsSet set)
    (hSpares : request.run.Spares free world) : request.FailsHarmlessly set world := by
  intro error after hRun
  rw [BridgeM.Spares, hRun] at hSpares
  exact (World.Restored.resembles hSpares).unchanged hProxy hBehaves

namespace ForeignSet

/-- Failed operations on a set change nothing. Nothing refers to what is gone, and the set is one of which the class
leaves to sets what is asked of it. What is looked for is quiet: host code that hashes it or compares elements with
it, or shows it as a missing key, may fail, but changes nothing. -/
theorem failures_harmless (hWhole : world.IsWhole) (hProxy : world.native.backing? address = some set)
    (hBehaves : world.host.BehavesAsSet set) :
    (∀ request ∈ [SetRequest.anyElement set, .mutableCopy set], request.FailsHarmlessly set world) ∧
    (∀ item : NativeValue, item.IsOwned world → item.IsQuiet world set →
      ∀ request ∈ [SetRequest.contains set item, .add set item, .remove set item, .member set item],
        request.FailsHarmlessly set world) ∧
    ∀ item : Option Ref, (∀ ref ∈ item, (NativeValue.host ref).IsOwned world ∧ (NativeValue.host ref).IsQuiet world set) →
      ∀ call ∈ [Export.setContains, Export.setAdd, Export.setRemove], ∀ thread after,
        (call thread (.native address) item).run world = (-1, after) → world.Unchanged set after := by
  obtain ⟨object, hObject, hRef⟩ := Native.Heap.mem_of_backing? hProxy
  have hOffers : world.Offers set := ⟨hWhole, .proxy hObject hRef, hBehaves⟩
  refine ⟨fun request hRequest => ?_, fun item hOwned hQuiet request hRequest => ?_,
    fun item hItem call hCall thread after hRun => ?_⟩
  · simp only [List.mem_cons, List.not_mem_nil, or_false] at hRequest
    rcases hRequest with rfl | rfl
    · exact SetRequest.failsHarmlessly hProxy hBehaves (spares_anyElement hOffers)
    · exact SetRequest.failsHarmlessly hProxy hBehaves (spares_mutableCopy hOffers)
  · simp only [List.mem_cons, List.not_mem_nil, or_false] at hRequest
    rcases hRequest with rfl | rfl | rfl | rfl
    · exact SetRequest.failsHarmlessly hProxy hBehaves (spares_contains hOffers hOwned hQuiet)
    · exact SetRequest.failsHarmlessly hProxy hBehaves (spares_add hOffers hOwned hQuiet)
    · exact SetRequest.failsHarmlessly hProxy hBehaves (spares_remove hOffers hOwned hQuiet)
    · exact SetRequest.failsHarmlessly hProxy hBehaves (spares_member hOffers hOwned hQuiet)
  · apply World.Resembles.unchanged _ hProxy hBehaves
    simp only [List.mem_cons, List.not_mem_nil, or_false] at hCall
    rcases hCall with rfl | rfl | rfl
    · refine Export.resembles_guarded ?_ ?_ hRun
      · exact (Export.unaware_arguments fun _ _ => unaware_contains _ _).bind fun _ => .pure
      · refine BridgeM.Spares.bind (Export.spares_arguments hProxy fun ref hRef => ?_) fun found _ _ _ => ?_
        · exact spares_contains hOffers (hItem ref hRef).1 (hItem ref hRef).2
        · exact .of_ok rfl (.inl (by cases found <;> decide))
    · refine Export.resembles_guarded ?_ ?_ hRun
      · exact (Export.unaware_arguments fun _ _ => unaware_add _ _).bind fun _ => .pure
      · refine BridgeM.Spares.followed (Export.spares_arguments hProxy fun ref hRef => ?_) fun _ _ => ?_
        · exact spares_add hOffers (hItem ref hRef).1 (hItem ref hRef).2
        · exact ⟨_, _, rfl, by decide⟩
    · refine Export.resembles_guarded ?_ ?_ hRun
      · exact (Export.unaware_arguments fun _ _ => unaware_remove _ _).bind fun _ => .pure
      · refine BridgeM.Spares.followed (Export.spares_arguments hProxy fun ref hRef => ?_) fun _ _ => ?_
        · exact spares_remove hOffers (hItem ref hRef).1 (hItem ref hRef).2
        · exact ⟨_, _, rfl, by decide⟩

/-- A set with an element that cannot be compared, and an iterator over it. -/
def incomparable : World :=
  (Session.performAll [
    .host (.bind "e" (.scripted "E" .plain none [("__hash__", .give (.int 0)), ("__eq__", .raise "ValueError" "no")])),
    .set (.create "s" (.set [.slot "e"])), .set (.cursor "s" "i")] {}).2.world

/-- A number with the hash of the element is asked for in vain, and is neither added nor taken out. -/
theorem failures_harmless_incomparable :
    (incomparable.IsWhole ∧ incomparable.native.backing? 0 = some (.object 1) ∧
      incomparable.host.BehavesAsSet (.object 1) ∧ (NativeValue.int 0).IsOwned incomparable ∧
      (NativeValue.int 0).IsQuiet incomparable (.object 1)) ∧
    ((incomparable.cursor 0).over? (.object 1)).isSome = true ∧
    ∀ request ∈ [SetRequest.contains (.object 1) (.int 0), .add (.object 1) (.int 0), .remove (.object 1) (.int 0),
        .member (.object 1) (.int 0)],
      (request.run.run.run incomparable).1.isOk = false ∧
        incomparable.Unchanged (.object 1) (request.run.run.run incomparable).2 := by
  have hWhole : incomparable.IsWhole := by
    intro ref hReferenced
    have hAll : incomparable.references.all incomparable.host.isLive = true := by decide +kernel
    rw [World.isReferenced_eq, List.contains_iff_mem] at hReferenced
    exact List.all_eq_true.mp hAll ref hReferenced
  have hProxy : incomparable.native.backing? 0 = some (.object 1) := by decide +kernel
  have hThere : (incomparable.host.body (.object 1)).elements?.map SetTable.toList = some [.object 0] := by
    decide +kernel
  obtain ⟨table, hTable, hElements⟩ := Option.map_eq_some_iff.mp hThere
  have hBehaves : incomparable.host.BehavesAsSet (.object 1) :=
    .of_isBuiltin ⟨by decide +kernel, by decide +kernel, by decide +kernel⟩ hTable
  have hOwned : (NativeValue.int 0).IsOwned incomparable := ⟨nofun, nofun⟩
  have hRefuses : incomparable.host.RefusesEquality (.object 0) :=
    ⟨by decide +kernel, "ValueError", "no", by decide +kernel⟩
  have hLive : incomparable.host.isLive (.object 0) = true := by decide +kernel
  have hQuiet : (NativeValue.int 0).IsQuiet incomparable (.object 1) := by
    refine NativeValue.isQuiet_refused rfl fun other hOther ref hRef => ?_
    obtain rfl := Option.some.inj (hOther.symm.trans hTable)
    rw [hElements] at hRef
    obtain rfl := List.mem_singleton.mp hRef
    exact ⟨hLive, hRefuses⟩
  refine ⟨⟨hWhole, hProxy, hBehaves, hOwned, hQuiet⟩, by decide +kernel, fun request hRequest => ?_⟩
  have hFails : (request.run.run.run incomparable).1.isOk = false := by
    simp only [List.mem_cons, List.not_mem_nil, or_false] at hRequest
    rcases hRequest with rfl | rfl | rfl | rfl <;> decide +kernel
  refine ⟨hFails, ?_⟩
  have hHarmless := (failures_harmless hWhole hProxy hBehaves).2.1 _ hOwned hQuiet request hRequest
  revert hFails
  rcases hRun : request.run.run.run incomparable with ⟨error | answer, after⟩ <;> intro hFails
  · exact hHarmless error after hRun
  · cases hFails

/-- A set that is asked for an object whose hash looks for a key in vain, which clears the set when it is shown. -/
def clearedKey : World :=
  (Session.performAll [.host (.bind "d" (.set [])), .host (.bind "h" (.set [.int 1])),
    .host (.bind "k" (.scripted "K" .plain none [("__repr__", .call "h" "clear" [] (.text [107]))])),
    .host (.bind "x" (.scripted "X" .plain none [("__hash__", .call "d" "remove" [.slot "k"] (.int 0))])),
    .set (.create "s" (.slot "h"))] {}).2.world

/-- A set of a class that adds what a generator yields, which fails, when it is asked for something. -/
def ownSearch : World :=
  -- What the class does is the method `update` of the set itself, told by its code points.
  (Session.performAll [
    .host (.bind "g" (.scripted "G" .plain none [("__iter__", .yield [.int 5] (some ("ValueError", "no")))])),
    .host (.bind "l" (.scripted "L" .plain none [])),
    .host (.bind "h" (.scripted "S" .set (some (.set [.int 1]))
      [("__contains__", .call "l" "f" [.slot "g"] (.bool true))])),
    .host (.call "h" "__getattribute__" [.text [117, 112, 100, 97, 116, 101]] (some "b")),
    .host (.setAttribute "l" "f" (.slot "b")), .set (.create "s" (.slot "h"))] {}).2.world

/-- Failed searches that change the number of elements. -/
theorem failures_changing :
    (((contains (.object 1) (.host (.object 3))).run.run clearedKey).1.isOk = false ∧
      ((count (.object 1)).run.run clearedKey).1 = .ok 1 ∧
      ((count (.object 1)).run.run ((contains (.object 1) (.host (.object 3))).run.run clearedKey).2).1 = .ok 0) ∧
    ((contains (.object 3) (.int 7)).run.run ownSearch).1.isOk = false ∧
      ((count (.object 3)).run.run ownSearch).1 = .ok 1 ∧
      ((count (.object 3)).run.run ((contains (.object 3) (.int 7)).run.run ownSearch).2).1 = .ok 2 := by
  refine ⟨⟨?_, ?_, ?_⟩, ?_, ?_, ?_⟩ <;> decide +kernel

end ForeignSet

end HeapBridge
