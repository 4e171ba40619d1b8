import HeapBridge.Proofs.Evaluating
import HeapBridge.Proofs.Ownership.Lasting
/-!
Pointers across the bridge. A pointer of a type of handles crosses to the host as a new handle and comes
back as it was, while NULL crosses as nil. The main statement is that the two directions are inverse for
each such type, that only handles of the type are let through on the way back, and that handles are told
apart by their types and pointers.
-/
namespace HeapBridge

open Host (Body Heap HostM Ref)

variable {world : World} {typeId : String}

def Host.Body.pointerOf? (typeId : String) : Body → Option Pointer
  | .handle found => if found.typeId = typeId then some found.pointer else none
  | _ => none

/-- The pointer that a host value stands for where a handle of a type is expected: nil stands for NULL,
and a handle of the type for its pointer. -/
def World.accepted? (world : World) (typeId : String) (value : Ref) : Option Pointer :=
  if value = .nil then some .null else (world.host.body value).pointerOf? typeId

/-- What is wrong with a host value that is no handle of a type. -/
def World.refusal (world : World) (typeId : String) (value : Ref) : Host.Cause :=
  match world.host.body value with
  | .handle handle => .otherHandle typeId handle.typeId
  | _ => .notHandle (world.host.typeName value)

/-- A handle is asked for its pointer without anything being changed. -/
theorem runOn_extractPointer (typeId : String) (value : Ref) (world : World) :
    HostM.runOn (extractPointer typeId value) world =
      (match (world.host.body value).pointerOf? typeId with
        | some pointer => .ok pointer
        | none => .error { cause := world.refusal typeId value }, world) := by
  rw [extractPointer, HostM.runOn_bind, HostM.runOn_bodyOf, World.refusal]
  cases world.host.body value with
  | handle handle =>
    dsimp only
    rw [Body.pointerOf?]
    split <;> rfl
  | _ => rfl

/-- A handle gives its pointer if its type is accepted, and is refused otherwise. Neither changes the world. -/
theorem runOn_fromHost_handle (typeId : String) (value : Ref) (world : World) :
    HostM.runOn (FromHost.run (.handle typeId) value) world =
      (match world.accepted? typeId value with
        | some pointer => .ok pointer
        | none => .error { cause := world.refusal typeId value }, world) := by
  unfold FromHost.run World.accepted? Ref.isNil
  dsimp only
  by_cases hNil : value = .nil
  · subst hNil
    rfl
  · rw [if_neg (by simpa using hNil), if_neg hNil, runOn_extractPointer]

theorem textFrom_report_refusal (typeId : String) (value : Ref) (world after : World) :
    after.textFrom (Host.report Host.ops { cause := world.refusal typeId value }) =
      ("TypeError: " ++ (world.refusal typeId value).text, after) := by
  unfold World.refusal
  split <;> rfl

namespace Host

variable {context : Context}

/-- Whether an object is a handle. Handles are of no scripted class. -/
def Heap.IsHandle (heap : Heap) (ref : Ref) (handle : Handle) : Prop :=
  heap.body ref = .handle handle ∧ (heap.view ref).script = none

theorem Heap.IsHandle.scripted? {heap : Heap} {ref : Ref} {handle : Handle}
    (hHandle : heap.IsHandle ref handle) (method : String) : heap.scripted? ref method = none := by
  rw [Heap.scripted?, script?, hHandle.2]
  rfl

variable {a b : Ref} {x y : Handle}

/-- What a handle makes of another one. -/
theorem eval_opinion_handles (ops : Ops) (hA : world.host.IsHandle a x)
    (hB : world.host.IsHandle b y) :
    (opinion ops .equal a b).eval context world =
      (.ok (some (.bool (x.pointer.number = y.pointer.number && x.typeId = y.typeId))), world) := by
  have hScripted := hA.scripted? Relation.equal.method
  simp only [opinion, HostM.eval_bind, eval_scripted?_none hScripted, builtinOpinion,
    HostM.eval_bodyOf, hA.1, Body.isComparable, if_true, kindOpinion, HostM.eval_heap, hB.1]
  rfl

/-- What comparing two handles answers. -/
theorem answers_compared_handles {host : Heap} (ops : Ops) (hA : host.IsHandle a x) (hB : host.IsHandle b y)
    (hNesting : context.nesting < nestingLimit) :
    (compared ops .equal a b).Answers context host
      (.bool (x.pointer.number = y.pointer.number && x.typeId = y.typeId)) := by
  have hDerives : host.derives b a = false := by
    have hKind : (host.view a).body.kind = .handle := by
      rw [← Heap.body, hA.1]
      rfl
    simp only [Heap.derives, hA.2, hB.2, hKind]
    rfl
  have hOpinion : (opinion ops .equal a b).Answers { context with nesting := context.nesting + 1 } host
      (some (.bool (x.pointer.number = y.pointer.number && x.typeId = y.typeId))) := by
    rintro world rfl
    exact eval_opinion_handles ops hA hB
  apply HostM.Answers.nested hNesting
  apply HostM.Answers.bind .heap
  dsimp only
  rw [hDerives, if_neg Bool.false_ne_true]
  apply HostM.Answers.bind .pure
  exact .bind hOpinion .pure

/-- Handles are equal just if their types and the numbers of their pointers are. -/
theorem runOn_equal_handles (ops : Ops) (hA : world.host.IsHandle a x)
    (hB : world.host.IsHandle b y) :
    HostM.runOn (equal ops.above a b) world =
      (.ok (x.pointer.number = y.pointer.number && x.typeId = y.typeId), world) := by
  have hCompared : (ops.above.compare .equal a b).eval {} world =
      (.ok (.bool (x.pointer.number = y.pointer.number && x.typeId = y.typeId)), world) :=
    answers_compared_handles ops hA hB (by decide) world rfl
  rw [equal, HostM.runOn_bind, HostM.runOn, hCompared]
  exact eval_decided_bool ops.above _ {} world

/-- A handle is hashed by what it stands for, and runs no script for that. -/
theorem answers_hash_handle {host : Heap} (ops : Ops) (hA : host.IsHandle a x) :
    (hash ops a).Answers context host (handleHash x) := by
  have hHashable : (host.script? a).any Script.isUnhashable = false := by
    rw [Heap.script?, hA.2]
    rfl
  apply HostM.Answers.bind (.scripted? (hA.scripted? "__hash__"))
  apply HostM.Answers.bind .heap
  rw [hHashable, if_neg Bool.false_ne_true]
  apply HostM.Answers.bind .bodyOf
  rw [hA.1]
  exact .pure

theorem runOn_hash_handle (ops : Ops) (hA : world.host.IsHandle a x) :
    HostM.runOn (hash ops a) world = (.ok (handleHash x), world) := (answers_hash_handle ops hA).runOn

theorem handleHash_congr (hType : x.typeId = y.typeId)
    (hNumber : x.pointer.number = y.pointer.number) : handleHash x = handleHash y := by
  rw [handleHash, handleHash, hType, hNumber]

/-- Handles are of no scripted class from the start, and stay so. -/
theorem lasting_unscripted :
    Lasting fun object => object.body.isHandle = true → object.script = none where
  made object hBody _ hHandle := by
    rw [hBody] at hHandle
    cases hHandle
  kept old new hOld hBecomes hHandle := by
    obtain ⟨hScript, hSame | hOther⟩ := hBecomes
    · rw [hSame] at hHandle
      exact hScript.trans (hOld hHandle)
    · revert hHandle hOther
      cases old.body <;> cases new.body <;> simp [Body.canBecome, Body.isHandle]

/-- A handle of a class without a script is nothing but a handle. -/
theorem Heap.All.isHandle {heap : Heap}
    (hAll : heap.All fun object => object.body.isHandle = true → object.script = none) {ref : Ref}
    {handle : Handle} (hBody : heap.body ref = .handle handle) : heap.IsHandle ref handle := by
  refine ⟨hBody, ?_⟩
  cases ref with
  | atom value => rfl
  | object address =>
    cases hObject : heap.object? address with
    | none =>
      rw [body, view, hObject] at hBody
      cases hBody
    | some object =>
      rw [body, view_of_object? hObject] at hBody
      rw [view_of_object? hObject]
      exact hAll address object hObject (by rw [hBody]; rfl)

end Host

/-- The converters of a type of handles, which are kept alive by a discipline if there is one. -/
def PointerWrapper.handles (typeId name : String) (ownership : Option Discipline) : PointerWrapper :=
  { typeId, name, toHost := .handle typeId name ownership, fromHost := .handle typeId }

/-- How a type of handles is registered: for borrowed pointers, or for counted handles under a
discipline, of which one derives the display name from the identifier. -/
inductive PointerWrapper.Registers (typeId : String) : String → Option Discipline → PointerWrapper → Prop
    where
  | borrowing (name : String) : Registers typeId name none (.borrowing typeId name)
  | owning (name : String) (discipline : Discipline) :
      Registers typeId name (some discipline) (.owning typeId name discipline)
  | framework : Registers typeId (TypeEncoding.handleName typeId) (some .frameworkObject)
      (.framework typeId)

theorem PointerWrapper.Registers.eq {name : String} {ownership : Option Discipline}
    {wrapper : PointerWrapper} (hRegisters : Registers typeId name ownership wrapper) :
    wrapper = .handles typeId name ownership := by
  cases hRegisters <;> rfl

variable {name : String} {ownership : Option Discipline} {pointer : Pointer}

/-- The world after a pointer of a type of handles has crossed to the host. -/
def World.handed (world : World) (handle : Handle) : World :=
  World.hold (.object world.host.cells.size) { world.retainOwned handle with
    host := (world.host.allocate { body := .handle handle }).2 }

/-- What a conversion does with a handle besides making an object for it: its discipline, if it has one,
is called to retain the pointer once, which adds a reference to a native object. -/
def World.RetainsOnce (before : World) (handle : Handle) (after : World) : Prop :=
  after.calls = before.calls ++ handle.calls .retain ∧
    match handle.ownership with
    | none | some (.external _) => after.native = before.native
    | some .nativeObject | some .frameworkObject => ∀ address object,
        handle.pointer.number = (Pointer.native address).number →
          before.native.object? address = some object → ∀ other, after.native.retainCount other =
            before.native.retainCount other + if other = address then 1 else 0

theorem World.retainOwned_host (world : World) (handle : Handle) :
    (world.retainOwned handle).host = world.host := by
  obtain ⟨_, _, pointer, ownership⟩ := handle
  rcases ownership with _ | discipline
  · rfl
  · cases discipline <;> cases pointer <;> rfl

theorem World.retainOwned_registry (world : World) (handle : Handle) :
    (world.retainOwned handle).registry = world.registry := by
  obtain ⟨_, _, pointer, ownership⟩ := handle
  rcases ownership with _ | discipline
  · rfl
  · cases discipline <;> cases pointer <;> rfl

theorem World.held_handed (world : World) (handle : Handle) :
    (world.handed handle).held = .object world.host.cells.size :: world.held := by
  obtain ⟨_, _, pointer, ownership⟩ := handle
  rcases ownership with _ | discipline
  · rfl
  · cases discipline <;> cases pointer <;> rfl

/-- A retained object has one reference more, and no other has. -/
theorem Native.Heap.retainCount_retain {heap : Native.Heap} {address : Nat} {object : Native.Object}
    (hObject : heap.object? address = some object) (other : Nat) :
    (heap.retain address).retainCount other =
      heap.retainCount other + if other = address then 1 else 0 := by
  rw [retainCount, object?_retain hObject]
  split
  next hSame => rw [hSame, retainCount_of_object? hObject, Option.map_some, Option.getD_some]
  next => rfl

/-- Handing a handle over retains what it owns, once. -/
theorem World.retainsOnce_handed {world : World} {handle : Handle}
    (hPointer : world.resolve handle.pointer = handle.pointer) :
    world.RetainsOnce handle (world.handed handle) := by
  obtain ⟨_, _, pointer, ownership⟩ := handle
  rcases ownership with _ | discipline
  · exact ⟨(List.append_nil _).symm, rfl⟩
  · refine ⟨by cases discipline <;> cases pointer <;> rfl, ?_⟩
    cases discipline with
    | external family => rfl
    | nativeObject | frameworkObject =>
      intro address object hNumber hObject other
      obtain rfl : pointer = .native address :=
        hPointer.symm.trans (resolve_eq_native (Option.isSome_of_eq_some hObject) hNumber)
      exact Native.Heap.retainCount_retain hObject other

/-- NULL crosses as nil, and any other pointer as a new handle. -/
theorem run_toHost_handles
    (hBound : world.registry.lookup typeId = .ok (.handles typeId name ownership))
    (pointer : Pointer) :
    (toHost typeId pointer).run.run world =
      if pointer.number = 0 then (.ok .nil, world.hold .nil)
      else (.ok (.object world.host.cells.size),
        world.handed { typeId, typeName := name, pointer := world.resolve pointer, ownership }) := by
  rw [toHost, run_bind, run_lookup, hBound]
  dsimp only
  rw [PointerWrapper.handles, ToHost.run, Pointer.isNull]
  by_cases hNull : pointer.number = 0
  · rw [if_pos hNull, if_pos (decide_eq_true hNull)]
    rfl
  · rw [if_neg hNull, if_neg (by simpa using hNull), run_bind, run_makeHandle]
    dsimp only
    rw [World.retainOwned_host]
    rfl

/-- What comes back is what stands for a pointer, and nothing is changed by asking for it. -/
theorem run_fromHost_handles
    (hBound : world.registry.lookup typeId = .ok (.handles typeId name ownership)) (value : Ref) :
    (fromHost typeId value).run.run world =
      (match world.accepted? typeId value with
        | some pointer => .ok pointer
        | none => .error (.conversion typeId ("TypeError: " ++ (world.refusal typeId value).text)),
        world) := by
  rw [fromHost, run_bind, run_lookup, hBound]
  dsimp only
  rw [BridgeM.run_host, PointerWrapper.handles, runOn_fromHost_handle]
  cases world.accepted? typeId value with
  | some pointer => rfl
  | none =>
    dsimp only
    rw [textFrom_report_refusal]

/-- How the pointers of a type of handles cross the bridge. -/
structure World.CrossesAsHandles (world : World) (typeId name : String)
    (ownership : Option Discipline) : Prop where
  /-- A pointer crosses as nil if it is NULL and as a new handle otherwise, and comes back as it was. -/
  toHost : ∀ pointer, ∃ ref after same, same.number = pointer.number ∧
    (HeapBridge.toHost typeId pointer).run.run world = (.ok ref, after) ∧
    (ref = .nil ↔ pointer.number = 0) ∧
    (pointer.number = 0 → after = world.hold .nil) ∧
    (pointer.number ≠ 0 → world.host.isLive ref = false ∧
      after.host.view ref = { body := .handle { typeId, typeName := name, pointer := same, ownership } } ∧
        world.RetainsOnce { typeId, typeName := name, pointer := same, ownership } after) ∧
    (HeapBridge.fromHost typeId ref).run.run after = (.ok same, after)
  /-- On the way back, only nil and handles of the type are let through, and nothing is changed. -/
  fromHost : ∀ value, (HeapBridge.fromHost typeId value).run.run world =
    (match world.accepted? typeId value with
      | some pointer => .ok pointer
      | none => .error (.conversion typeId ("TypeError: " ++ (world.refusal typeId value).text)),
      world)
  /-- The exported function stores what is let through, and nothing else. -/
  exported : ∀ thread text value, readText (some text) = .ok typeId →
    ((Export.fromHost thread (some text) (some value) true).run world).1 =
      match world.accepted? typeId value with
      | some pointer => (0, some pointer)
      | none => (-1, none)
  /-- Handles are equal just if they are of one type and carry one address, and then have one hash. -/
  equal : ∀ a b x y, world.host.body a = .handle x → world.host.body b = .handle y →
    HostM.runOn (Host.equal Host.ops a b) world =
        (.ok (decide (x.typeId = y.typeId ∧ x.pointer.number = y.pointer.number)), world) ∧
      ∃ left right, HostM.runOn (Host.hash Host.ops a) world = (.ok left, world) ∧
        HostM.runOn (Host.hash Host.ops b) world = (.ok right, world) ∧
          (x.typeId = y.typeId ∧ x.pointer.number = y.pointer.number → left = right)

/-- The null pointer crosses as nothing, any other pointer as a new handle with its number. -/
theorem World.exists_toHost_handles
    (hBound : world.registry.lookup typeId = .ok (.handles typeId name ownership))
    (pointer : Pointer) :
    ∃ ref after same, same.number = pointer.number ∧
      (HeapBridge.toHost typeId pointer).run.run world = (.ok ref, after) ∧
      (ref = .nil ↔ pointer.number = 0) ∧
      (pointer.number = 0 → after = world.hold .nil) ∧
      (pointer.number ≠ 0 → world.host.isLive ref = false ∧
        after.host.view ref = { body := .handle { typeId, typeName := name, pointer := same, ownership } } ∧
          world.RetainsOnce { typeId, typeName := name, pointer := same, ownership } after) ∧
      (HeapBridge.fromHost typeId ref).run.run after = (.ok same, after) := by
  rw [run_toHost_handles hBound]
  by_cases hNull : pointer.number = 0
  · refine ⟨.nil, world.hold .nil, .null, hNull.symm, if_pos hNull, ⟨fun _ => hNull, fun _ => rfl⟩,
      fun _ => rfl, fun hOther => (hOther hNull).elim, ?_⟩
    have hHeld : (world.hold .nil).registry.lookup typeId = .ok (.handles typeId name ownership) :=
      hBound
    exact run_fromHost_handles hHeld .nil
  · let handle : Handle :=
      { typeId, typeName := name, pointer := world.resolve pointer, ownership }
    have hView : (world.handed handle).host.view (.object world.host.cells.size) =
        { body := .handle handle } :=
      Heap.view_of_object? (Heap.object?_allocate_self world.host _)
    have hAfter : (world.handed handle).registry.lookup typeId =
        .ok (.handles typeId name ownership) := by
      rw [← hBound, ← world.retainOwned_registry handle]
      rfl
    have hRetains : world.RetainsOnce handle (world.handed handle) :=
      retainsOnce_handed (world.resolve_resolve pointer)
    refine ⟨_, _, _, world.number_resolve pointer, if_neg hNull,
      ⟨nofun, fun hOther => (hNull hOther).elim⟩, fun hOther => (hNull hOther).elim,
      fun _ => ⟨?_, hView, hRetains⟩, ?_⟩
    · simp [Heap.isLive, Heap.object?]
    · rw [run_fromHost_handles hAfter, accepted?, if_neg nofun, Heap.body, hView]
      simp only [Body.pointerOf?, handle, if_true]

/-- The exported function accepts what the bridge accepts. -/
theorem World.run_exported_fromHost
    (hBound : world.registry.lookup typeId = .ok (.handles typeId name ownership)) (thread : Thread)
    {text : List UInt8} (hText : readText (some text) = .ok typeId) (value : Ref) :
    ((Export.fromHost thread (some text) (some value) true).run world).1 =
      match world.accepted? typeId value with
      | some pointer => (0, some pointer)
      | none => (-1, none) := by
  have hText : (Export.textArgument (some text)).run.run (world.clearLastError thread) =
      (.ok typeId, world.clearLastError thread) := by
    rw [Export.textArgument, BridgeM.run_finish, hText]
  have hCleared : (world.clearLastError thread).registry.lookup typeId =
      .ok (.handles typeId name ownership) := hBound
  have hFrom := run_fromHost_handles hCleared value
  have hOutput : (Export.outputArgument true).run.run (world.clearLastError thread) =
      (.ok (), world.clearLastError thread) := rfl
  have hItem : (Export.itemArgument (some value)).run.run (world.clearLastError thread) =
      (.ok value, world.clearLastError thread) := rfl
  have hSame : (world.clearLastError thread).accepted? typeId value = world.accepted? typeId value := rfl
  rw [Export.fromHost, Export.run_guarded]
  simp only [run_bind, hText, hOutput, hItem, hFrom, hSame]
  cases world.accepted? typeId value <;> rfl

namespace Session

theorem unscripted_performAll (commands : List Command) :
    (performAll commands {}).2.world.host.All
      fun object => object.body.isHandle = true → object.script = none :=
  all_performAll Host.lasting_unscripted (fun _ _ => rfl) commands Heap.all_empty

/-- After any commands, the pointers of a type that is registered for handles cross the bridge to and
fro without loss, and are not taken for those of another type. -/
theorem pointers_cross (commands : List Command) {typeId name : String}
    {ownership : Option Discipline} {wrapper : PointerWrapper}
    (hRegisters : wrapper.Registers typeId name ownership)
    (hBound : (performAll commands {}).2.world.registry.lookup typeId = .ok wrapper) :
    (performAll commands {}).2.world.CrossesAsHandles typeId name ownership := by
  rw [hRegisters.eq] at hBound
  refine ⟨World.exists_toHost_handles hBound, run_fromHost_handles hBound,
    fun thread text value hText => World.run_exported_fromHost hBound thread hText value,
    fun a b x y hA hB => ?_⟩
  have hLeft := (unscripted_performAll commands).isHandle hA
  have hRight := (unscripted_performAll commands).isHandle hB
  have hOps : Host.ops = Host.Ops.above (.ofDepth 4999) := rfl
  refine ⟨?_, Host.handleHash x, Host.handleHash y, Host.runOn_hash_handle _ hLeft,
    Host.runOn_hash_handle _ hRight, fun hSame => Host.handleHash_congr hSame.1 hSame.2⟩
  rw [hOps, Host.runOn_equal_handles _ hLeft hRight, ← Bool.decide_and]
  simp only [and_comm]

/-- Two types of handles for one native object. -/
def oneObjectTwoTypes : List Command :=
  [.object (.create "a" .tracked), .wrapper (.registerOwning "T" "Counted" .nativeObject),
    .wrapper (.registerBorrowing "U" "Plain"), .wrapper (.toHost "U" (.native "a") (some "h"))]

theorem pointers_cross_oneObjectTwoTypes :
    PointerWrapper.Registers "T" "Counted" (some .nativeObject)
        (.owning "T" "Counted" .nativeObject) ∧
      (performAll oneObjectTwoTypes {}).2.world.registry.lookup "T" =
        .ok (.owning "T" "Counted" .nativeObject) ∧
      (performAll oneObjectTwoTypes {}).2.world.CrossesAsHandles "T" "Counted" (some .nativeObject) :=
  have hBound : (performAll oneObjectTwoTypes {}).2.world.registry.lookup "T" =
      .ok (.owning "T" "Counted" .nativeObject) := rfl
  ⟨.owning "Counted" .nativeObject, hBound,
    pointers_cross oneObjectTwoTypes (.owning "Counted" .nativeObject) hBound⟩

end Session

end HeapBridge
