import HeapBridge.Proofs.Handles.Crossing
import HeapBridge.Proofs.Ownership.Sweeping
import Mathlib.Data.List.Induction
import Mathlib.Data.List.Nodup
/-!
Handles and the calls to their disciplines. A handle is made once, comes to its end once, and is the
same in between; its discipline, if it has one, is called on both occasions and on no other. The
main statement is that in any session and at any moment the retains of a pointer exceed its releases
by the handles of that pointer that live.
-/
namespace HeapBridge

open Host (Body Heap Object Ref)

def Host.Body.handle? : Body → Option Handle
  | .handle content => some content
  | _ => none

def Host.Heap.handle? (heap : Heap) (address : Nat) : Option Handle :=
  (heap.object? address).bind (·.body.handle?)

/-- Where the handles of a pointer live that a discipline keeps. -/
def Host.Heap.wrappers (heap : Heap) (discipline : Discipline) (pointer : Pointer) : List Nat :=
  heap.addresses.filter fun address => (heap.handle? address).any fun handle =>
    handle.ownership = some discipline ∧ handle.pointer = pointer

/-- Whether retains and releases are paired: for each discipline and pointer, the retains that have
no release yet are as many as the handles that live. -/
def World.Paired (world : World) : Prop :=
  ∀ discipline pointer,
    world.calls.count { discipline, request := .retain, pointer } =
      world.calls.count { discipline, request := .release, pointer } +
        (world.host.wrappers discipline pointer).length

/-- An occasion on which the discipline of a handle is called, if the handle has one: the handle was
made at an address, or has come to its end there. -/
structure Handling where
  request : HandleRequest
  address : Nat
  handle : Handle
  deriving DecidableEq

/-- The calls that are made on an occasion. -/
def Handling.calls (handling : Handling) : List HandleCall := handling.handle.calls handling.request

/-- Where the handles are for which a call was made. -/
def Handling.addresses (history : List Handling) (call : HandleCall) : List Nat :=
  (history.filter (call ∈ ·.calls)).map (·.address)

theorem Handling.mem_calls {handling : Handling} {call : HandleCall} : call ∈ handling.calls ↔
    handling.request = call.request ∧ handling.handle.ownership = some call.discipline ∧
      handling.handle.pointer = call.pointer := by
  obtain ⟨request, address, typeId, typeName, pointer, ownership⟩ := handling
  obtain ⟨discipline, wanted, target⟩ := call
  cases ownership <;> simp [calls, Handle.calls, eq_comm, and_comm, and_left_comm]

/-- The handles for which a call was made are those that were made, or ended, with this discipline and pointer. -/
theorem Handling.mem_addresses {history : List Handling} {call : HandleCall} {address : Nat} :
    address ∈ addresses history call ↔
      ∃ handle : Handle, ⟨call.request, address, handle⟩ ∈ history ∧
        handle.ownership = some call.discipline ∧ handle.pointer = call.pointer := by
  simp only [addresses, List.mem_map, List.mem_filter, decide_eq_true_eq, mem_calls]
  constructor
  · rintro ⟨⟨request, place, handle⟩, ⟨hMember, hRequest, hHandle⟩, rfl⟩
    obtain rfl : request = call.request := hRequest
    exact ⟨handle, hMember, hHandle⟩
  · rintro ⟨handle, hMember, hHandle⟩
    exact ⟨_, ⟨hMember, rfl, hHandle⟩, rfl⟩

/-- The calls of a kind are as many as the occasions of that kind. -/
theorem Handling.count_flatMap (history : List Handling) (call : HandleCall) :
    (history.flatMap calls).count call = (addresses history call).length := by
  rw [addresses, List.length_map]
  induction history with
  | nil => rfl
  | cons handling rest ih =>
    have hOne : handling.calls.Nodup := by
      rw [calls, Handle.calls]
      cases handling.handle.ownership <;> simp
    rw [List.flatMap_cons, List.count_append, ih, hOne.count, List.filter_cons]
    by_cases hCall : call ∈ handling.calls <;> simp [hCall, Nat.add_comm]

namespace Host

theorem Body.handle?_of_isHandle_eq_false {body : Body} (hBody : body.isHandle = false) :
    body.handle? = none := by
  cases body <;> first | rfl | cases hBody

theorem Object.Becomes.handle?_eq {old new : Object} (hBecomes : old.Becomes new) :
    new.body.handle? = old.body.handle? := by
  rcases hBecomes.2 with hSame | hBecome
  · rw [hSame]
  · obtain ⟨hOld, hNew⟩ := Body.isHandle_of_canBecome hBecome
    rw [Body.handle?_of_isHandle_eq_false hOld, Body.handle?_of_isHandle_eq_false hNew]

namespace Heap

variable {heap : Heap} {address : Nat} {handle : Handle}

theorem handle?_eq_some_iff : heap.handle? address = some handle ↔
    ∃ object, heap.object? address = some object ∧ object.body = .handle handle := by
  rw [handle?, Option.bind_eq_some_iff]
  refine exists_congr fun object => and_congr_right fun _ => ?_
  cases object.body <;> simp [Body.handle?]

theorem lt_size_of_handle? (hHandle : heap.handle? address = some handle) :
    address < heap.cells.size := by
  obtain ⟨object, hObject, _⟩ := handle?_eq_some_iff.mp hHandle
  exact lt_size_of_object? hObject

theorem handle?_allocate (heap : Heap) (object : Object) (address : Nat) :
    (heap.allocate object).2.handle? address =
      if address = heap.cells.size then object.body.handle? else heap.handle? address := by
  rw [handle?, object?_allocate]
  split <;> rfl

theorem handle?_size (heap : Heap) : heap.handle? heap.cells.size = none := by
  simp [handle?, object?]

/-- Wrappers of a pointer are the live handles that go with it. -/
theorem mem_wrappers {discipline : Discipline} {pointer : Pointer} :
    address ∈ heap.wrappers discipline pointer ↔ ∃ handle, heap.handle? address = some handle ∧
      handle.ownership = some discipline ∧ handle.pointer = pointer := by
  rw [wrappers, List.mem_filter, mem_addresses, Option.any_eq_true]
  simp only [decide_eq_true_eq]
  refine and_iff_right_of_imp fun ⟨handle, hHandle, _⟩ => ?_
  obtain ⟨object, hObject, _⟩ := handle?_eq_some_iff.mp hHandle
  exact Option.isSome_of_eq_some hObject

theorem nodup_wrappers (heap : Heap) (discipline : Discipline) (pointer : Pointer) :
    (heap.wrappers discipline pointer).Nodup :=
  (List.nodup_range.filter _).filter _

theorem handle?_free (heap : Heap) (address other : Nat) :
    (heap.free address).handle? other = if other = address then none else heap.handle? other := by
  split
  next hSame => rw [hSame, handle?, object?_free_self, Option.bind_none]
  next hOther => rw [handle?, object?_free_of_ne (Ne.symm hOther), handle?]

/-- An object that changes in itself is the same handle. -/
theorem handle?_put {old new : Object} (hOld : heap.object? address = some old)
    (hBecomes : old.Becomes new) (other : Nat) :
    (heap.put address new).handle? other = heap.handle? other := by
  rw [handle?, object?_put hOld]
  split
  next hSame =>
    rw [Option.bind_some, hBecomes.handle?_eq, hSame, handle?, hOld, Option.bind_some]
  next => rfl

end Heap

end Host

namespace World

@[simp] theorem dropNative_calls (address : Nat) (world : World) :
    (world.dropNative address).2.calls = world.calls := by
  unfold dropNative
  dsimp only
  split
  next payload _ => cases payload <;> rfl
  next => rfl

@[simp] theorem dropHandle_calls (discipline : Discipline) (pointer : Pointer) (world : World) :
    (world.dropHandle discipline pointer).2.calls = world.calls := by
  cases discipline <;> cases pointer <;> simp [dropHandle]

/-- With a host object goes a call to the discipline of the handle that it was, if any. -/
theorem calls_reclaim {world : World} {address : Nat} {object : Object}
    (hObject : world.host.object? address = some object) :
    (world.reclaim address).2.calls =
      world.calls ++ object.body.handle?.elim [] (·.calls .release) := by
  unfold reclaim
  rw [Heap.view_of_object? hObject]
  dsimp only
  split
  next typeId typeName pointer discipline hBody =>
    rw [dropHandle_calls, hBody]
    rfl
  next hBody =>
    cases hHandle : object.body with
    | handle handle =>
      obtain ⟨typeId, typeName, pointer, ownership⟩ := handle
      cases ownership with
      | none => exact (List.append_nil _).symm
      | some discipline => exact (hBody typeId typeName pointer discipline hHandle).elim
    | _ => exact (List.append_nil _).symm

end World

/-- What becomes of handles between one world and another: one is made at a new address, one that
nothing refers to comes to its end, or nothing happens. -/
inductive World.Handled (may : Deed → Prop) (before after : World) : List Handling → Prop
  | made (handle : Handle) (hMay : may (.handle handle))
      (hHost : after.host = (before.host.allocate { body := .handle handle }).2)
      (hCalls : after.calls = before.calls ++ handle.calls .retain) :
      Handled may before after [⟨.retain, before.host.cells.size, handle⟩]
  | ended {address : Nat} {handle : Handle} (hLive : before.host.handle? address = some handle)
      (hFree : before.isReferenced (.object address) = false)
      (hHost : after.host = before.host.free address)
      (hCalls : after.calls = before.calls ++ handle.calls .release) :
      Handled may before after [⟨.release, address, handle⟩]
  | nothing (hHandles : ∀ address, after.host.handle? address = before.host.handle? address)
      (hSize : before.host.cells.size ≤ after.host.cells.size)
      (hCalls : after.calls = before.calls) : Handled may before after []

variable {may : Deed → Prop}

/-- There is one occasion at most between one world and the next. -/
theorem World.Handled.of_mem {before after : World} {history : List Handling} {handling : Handling}
    (hHandled : before.Handled may after history) (hMember : handling ∈ history) :
    before.Handled may after [handling] := by
  cases hHandled with
  | made handle hMay hHost hCalls =>
    exact List.mem_singleton.mp hMember ▸ .made handle hMay hHost hCalls
  | ended hLive hFree hHost hCalls =>
    exact List.mem_singleton.mp hMember ▸ .ended hLive hFree hHost hCalls
  | nothing => cases hMember

/-- Whatever host code changes, at most one handle comes to its end by it. -/
theorem Host.Change.handled {before after : World} (change : Host.Change before after) :
    ∃ history, before.Handled may after history := by
  cases change with
  | hold refs => exact ⟨[], .nothing (fun _ => rfl) (Nat.le_refl _) rfl⟩
  | unhold ref => exact ⟨[], .nothing (fun _ => rfl) (Nat.le_refl _) rfl⟩
  | define script => exact ⟨[], .nothing (fun _ => rfl) (Nat.le_refl _) rfl⟩
  | allocate object hBody hUnique =>
    refine ⟨[], .nothing (fun address => ?_) (by simp [Heap.allocate]) rfl⟩
    rw [Heap.handle?_allocate]
    split
    next hNew => rw [Body.handle?_of_isHandle_eq_false hBody, hNew, Heap.handle?_size]
    next => rfl
  | put new hOld hNew =>
    exact ⟨[], .nothing (Heap.handle?_put hOld hNew) (by simp [Heap.put]) rfl⟩
  | @giveUp address hLive hFree =>
    obtain ⟨object, hObject⟩ := Option.isSome_iff_exists.mp hLive
    have hHost := World.reclaim_host address before
    have hCalls := World.calls_reclaim hObject
    cases hHandle : object.body.handle? with
    | some handle =>
      rw [hHandle] at hCalls
      have hLives : before.host.handle? address = some handle := by
        rw [Heap.handle?, hObject, Option.bind_some, hHandle]
      exact ⟨_, .ended hLives hFree hHost hCalls⟩
    | none =>
      rw [hHandle, Option.elim_none, List.append_nil] at hCalls
      refine ⟨[], .nothing (fun other => ?_) (by simp [hHost, Heap.free]) hCalls⟩
      rw [hHost, Heap.handle?_free]
      split
      next hSame => rw [hSame, Heap.handle?, hObject, Option.bind_some, hHandle]
      next => rfl

/-- A move is to the handles what it may be. -/
theorem Move.handled {start finish : Account} (move : Move may start finish) :
    ∃ history, start.world.Handled may finish.world history := by
  cases move with
  | host change => exact change.handled
  | handle handle hMay _ => exact ⟨_, .made handle hMay rfl rfl⟩
  | drop address _ =>
    refine ⟨[], .nothing (fun _ => ?_) ?_ (World.dropNative_calls address _)⟩ <;>
      rw [World.dropNative_host]
  | _ => exact ⟨[], .nothing (fun _ => rfl) (Nat.le_refl _) rfl⟩

/-- Whether a history tells what became of handles up to now. -/
structure World.Chronicle (world : World) (history : List Handling) : Prop where
  /-- Disciplines were called on the occasions of the history and on no other. -/
  calls : world.calls = history.flatMap Handling.calls
  /-- At no address is a handle made twice, and none comes to its end twice. -/
  once : (history.map fun handling => (handling.request, handling.address)).Nodup
  known : ∀ handling ∈ history, handling.address < world.host.cells.size
  /-- A handle that has come to its end was made before, for the same pointer and discipline. -/
  first : ∀ (late : Nat) (handling : Handling), history[late]? = some handling →
    handling.request = .release → ∃ early < late,
      history[early]? = some { handling with request := .retain }
  /-- The handles that live are those that were made and have not come to their end. -/
  live : ∀ address handle, world.host.handle? address = some handle ↔
    ⟨.retain, address, handle⟩ ∈ history ∧ ⟨.release, address, handle⟩ ∉ history

namespace World.Chronicle

variable {world next : World} {history more : List Handling}

theorem empty : ({} : World).Chronicle [] where
  calls := rfl
  once := .nil
  known := nofun
  first := nofun
  live := by simp [Host.Heap.handle?, Host.Heap.object?]

theorem notMem_size (hChronicle : world.Chronicle history) (request : HandleRequest)
    (handle : Handle) : ⟨request, world.host.cells.size, handle⟩ ∉ history :=
  fun hMember => Nat.lt_irrefl _ (hChronicle.known _ hMember)

/-- At an address one handle only is ever made. -/
theorem handle_eq (hChronicle : world.Chronicle history) {request : HandleRequest} {address : Nat}
    {handle other : Handle} (hHandle : ⟨request, address, handle⟩ ∈ history)
    (hOther : ⟨request, address, other⟩ ∈ history) : handle = other := by
  have hSame := List.inj_on_of_nodup_map hChronicle.once hHandle hOther rfl
  exact (Handling.mk.inj hSame).2.2

theorem made_of_ended (hChronicle : world.Chronicle history) {address : Nat} {handle : Handle}
    (hEnded : ⟨.release, address, handle⟩ ∈ history) : ⟨.retain, address, handle⟩ ∈ history := by
  obtain ⟨late, hLate⟩ := List.mem_iff_getElem?.mp hEnded
  obtain ⟨early, -, hEarly⟩ := hChronicle.first late _ hLate rfl
  exact List.mem_iff_getElem?.mpr ⟨early, hEarly⟩

/-- For one pointer and discipline each handle is retained once and released once. -/
theorem nodup_addresses (hChronicle : world.Chronicle history) (call : HandleCall) :
    (Handling.addresses history call).Nodup := by
  refine List.Nodup.of_map (call.request, ·) ?_
  have hSame : ∀ handling ∈ history.filter (call ∈ ·.calls),
      (call.request, handling.address) = (handling.request, handling.address) := by
    intro handling hHandling
    rw [List.mem_filter, decide_eq_true_eq, Handling.mem_calls] at hHandling
    rw [hHandling.2.1]
  rw [Handling.addresses, List.map_map]
  exact List.map_congr_left hSame ▸ hChronicle.once.sublist (List.filter_sublist.map _)

/-- A chronicle goes on with one more occasion. -/
theorem snoc (hChronicle : world.Chronicle history) {handling : Handling}
    (hCalls : next.calls = world.calls ++ handling.calls)
    (hNew : ∀ handle, { handling with handle } ∉ history)
    (hSize : world.host.cells.size ≤ next.host.cells.size)
    (hKnown : handling.address < next.host.cells.size)
    (hFirst : handling.request = .release → { handling with request := .retain } ∈ history)
    (hLive : ∀ address handle, next.host.handle? address = some handle ↔
      ⟨.retain, address, handle⟩ ∈ history ++ [handling] ∧
        ⟨.release, address, handle⟩ ∉ history ++ [handling]) :
    next.Chronicle (history ++ [handling]) where
  calls := by
    rw [hCalls, hChronicle.calls, List.flatMap_append, List.flatMap_singleton]
  once := by
    rw [List.map_append, List.nodup_append]
    refine ⟨hChronicle.once, List.nodup_singleton _, ?_⟩
    rintro _ hOld _ hAdded rfl
    obtain ⟨⟨request, address, handle⟩, hMember, hSame⟩ := List.mem_map.mp hOld
    rw [List.map_singleton, List.mem_singleton, ← hSame, Prod.mk.injEq] at hAdded
    obtain ⟨rfl, rfl⟩ : request = handling.request ∧ address = handling.address := hAdded
    exact hNew handle hMember
  known := by
    intro other hOther
    rcases List.mem_append.mp hOther with hOld | hAdded
    · exact Nat.lt_of_lt_of_le (hChronicle.known other hOld) hSize
    · rwa [List.mem_singleton.mp hAdded]
  first := by
    intro late other hLate hRelease
    rcases Nat.lt_or_ge late history.length with hIn | hOut
    · rw [List.getElem?_append_left hIn] at hLate
      obtain ⟨early, hEarly, hMade⟩ := hChronicle.first late other hLate hRelease
      exact ⟨early, hEarly, by rwa [List.getElem?_append_left (hEarly.trans hIn)]⟩
    · rw [List.getElem?_append_right hOut, List.getElem?_singleton] at hLate
      split at hLate
      next =>
        obtain rfl := Option.some.inj hLate
        obtain ⟨early, hEarly, hMade⟩ := List.getElem_of_mem (hFirst hRelease)
        refine ⟨early, Nat.lt_of_lt_of_le hEarly hOut, ?_⟩
        rw [List.getElem?_append_left hEarly, List.getElem?_eq_getElem hEarly, hMade]
      next => cases hLate
  live := hLive

/-- A chronicle goes on with what becomes of handles next. -/
theorem handled (hChronicle : world.Chronicle history) (hHandled : world.Handled may next more) :
    next.Chronicle (history ++ more) := by
  cases hHandled with
  | made handle hMay hHost hCalls =>
    have hSize : next.host.cells.size = world.host.cells.size + 1 := by simp [hHost, Heap.allocate]
    refine hChronicle.snoc hCalls (hChronicle.notMem_size _) (by omega) (by simp only; omega)
      (fun hRelease => by cases hRelease) fun address other => ?_
    rw [hHost, Heap.handle?_allocate]
    split
    next hNew =>
      subst hNew
      simp [Body.handle?, hChronicle.notMem_size, eq_comm]
    next hOld => simp [hChronicle.live, hOld]
  | @ended address handle hLive hFree hHost hCalls =>
    have hMade := (hChronicle.live address handle).mp hLive
    have hSize : next.host.cells.size = world.host.cells.size := by simp [hHost, Heap.free]
    have hNew (other : Handle) : ⟨.release, address, other⟩ ∉ history := by
      intro hEnded
      obtain rfl := hChronicle.handle_eq (hChronicle.made_of_ended hEnded) hMade.1
      exact hMade.2 hEnded
    refine hChronicle.snoc hCalls hNew hSize.ge (hSize ▸ Heap.lt_size_of_handle? hLive)
      (fun _ => hMade.1) fun other found => ?_
    rw [hHost, Heap.handle?_free]
    split
    next hSame =>
      subst hSame
      refine ⟨(fun hNone => by cases hNone), ?_⟩
      rintro ⟨hRetain, hRelease⟩
      obtain rfl := hChronicle.handle_eq (by simpa using hRetain) hMade.1
      simp at hRelease
    next hOther => simp [hChronicle.live, hOther]
  | nothing hHandles hSize hCalls =>
    rw [List.append_nil]
    refine ⟨hCalls.trans hChronicle.calls, hChronicle.once, fun handling hHandling => ?_,
      hChronicle.first, fun address handle => ?_⟩
    · exact Nat.lt_of_lt_of_le (hChronicle.known handling hHandling) hSize
    · rw [hHandles, hChronicle.live]

/-- A handle that was made has come to its end or lives, so retains and releases are paired. -/
theorem paired (hChronicle : world.Chronicle history) : world.Paired := by
  intro discipline pointer
  rw [hChronicle.calls, Handling.count_flatMap, Handling.count_flatMap, ← List.length_append]
  refine List.Perm.length_eq ((List.perm_ext_iff_of_nodup (hChronicle.nodup_addresses _)
    (List.nodup_append.mpr ⟨hChronicle.nodup_addresses _, Heap.nodup_wrappers .., ?_⟩)).mpr
      fun address => ?_)
  · rintro address hEnded _ hLives rfl
    obtain ⟨other, hOther, _⟩ := Handling.mem_addresses.mp hEnded
    obtain ⟨handle, hHandle, _⟩ := Heap.mem_wrappers.mp hLives
    obtain ⟨hMade, hNot⟩ := (hChronicle.live address handle).mp hHandle
    obtain rfl := hChronicle.handle_eq (hChronicle.made_of_ended hOther) hMade
    exact hNot hOther
  · rw [List.mem_append, Handling.mem_addresses, Handling.mem_addresses, Heap.mem_wrappers]
    constructor
    · rintro ⟨handle, hMade, hHandle⟩
      by_cases hEnded : ⟨.release, address, handle⟩ ∈ history
      · exact .inl ⟨handle, hEnded, hHandle⟩
      · exact .inr ⟨handle, (hChronicle.live address handle).mpr ⟨hMade, hEnded⟩, hHandle⟩
    · rintro (⟨handle, hEnded, hHandle⟩ | ⟨handle, hLives, hHandle⟩)
      · exact ⟨handle, hChronicle.made_of_ended hEnded, hHandle⟩
      · exact ⟨handle, ((hChronicle.live address handle).mp hLives).1, hHandle⟩

end World.Chronicle

/-- The occasion on which a move on the way made a handle or ended one. -/
def Handling.Between (handling : Handling) (may : Deed → Prop) (start finish : Account) : Prop :=
  ∃ middle next, Moves may start middle ∧ middle.world.Handled may next.world [handling] ∧
    Moves may next finish

/-- The chronicle goes on through moves, each occasion of which is one of these moves. -/
theorem Moves.chronicle {start finish : Account} (moves : Moves may start finish)
    {history : List Handling} (hChronicle : start.world.Chronicle history) :
    ∃ more, finish.world.Chronicle (history ++ more) ∧
      ∀ handling ∈ more, handling.Between may start finish := by
  induction moves with
  | refl => exact ⟨[], by rwa [List.append_nil], nofun⟩
  | @step middle finish prior last ih =>
    obtain ⟨more, hMiddle, hBetween⟩ := ih
    obtain ⟨added, hAdded⟩ := last.handled
    refine ⟨more ++ added, ?_, fun handling hHandling => ?_⟩
    · rw [← List.append_assoc]
      exact hMiddle.handled hAdded
    · rcases List.mem_append.mp hHandling with hOld | hNew
      · obtain ⟨before, after, hBefore, hHandled, hAfter⟩ := hBetween handling hOld
        exact ⟨before, after, hBefore, hHandled, .step hAfter last⟩
      · exact ⟨middle, finish, prior, hAdded.of_mem hNew, .refl⟩

/-- The world of any moment is paired. -/
theorem Moves.paired {start finish : Account} (moves : Moves may start finish)
    {history : List Handling} (hChronicle : start.world.Chronicle history) :
    finish.world.Paired := by
  obtain ⟨more, hFinish, _⟩ := moves.chronicle hChronicle
  exact hFinish.paired

/-- The calls that a converter makes for a pointer, as it is resolved. -/
def ToHost.retains (converter : ToHost) (pointer : Pointer) : List HandleCall :=
  match converter with
  | .handle handleId name ownership =>
    if pointer = .null then []
    else Handle.calls { typeId := handleId, typeName := name, pointer, ownership } .retain
  | _ => []

namespace World

/-- The calls that are made when a pointer of a type is converted to a host value. -/
def retains (world : World) (typeId : String) (pointer : Pointer) : List HandleCall :=
  match world.registry.lookup typeId with
  | .ok wrapper => wrapper.toHost.retains (world.resolve pointer)
  | .error _ => []

theorem retainOwned_calls (world : World) (handle : Handle) :
    (world.retainOwned handle).calls = world.calls ++ handle.calls .retain := by
  obtain ⟨_, _, pointer, ownership⟩ := handle
  rcases ownership with _ | discipline
  · exact (List.append_nil _).symm
  · cases discipline <;> cases pointer <;> rfl

end World

section Calls

variable (world : World)

/-- Registrations call no discipline, whatever comes of them. -/
theorem calls_register (wrapper : PointerWrapper) :
    ((register wrapper).run.run world).2.calls = world.calls := by
  have hNote : ∀ event : Option Event, (world.note event).calls = world.calls := by
    intro event
    cases event <;> rfl
  rw [register, run_get]
  dsimp only
  cases world.registry.insert wrapper <;> exact hNote _

/-- The text of an exception by name is found without host code. -/
theorem textFrom_report_ofRaise (exception text : String) :
    (world.textFrom (Host.report Host.ops { cause := .ofRaise exception text })).2 = world := by
  have hRaised (name : String) :
      (world.textFrom (Host.report Host.ops { cause := .raised name text })).2 = world := by
    have hPure : ∃ answer,
        Host.describe Host.ops { cause := .raised name text } = pure answer := by
      unfold Host.describe
      split
      next hCause => cases hCause
      next => exact ⟨_, rfl⟩
      next => exact ⟨_, rfl⟩
    obtain ⟨answer, hAnswer⟩ := hPure
    rw [Host.report, hAnswer]
    rfl
  unfold Host.Cause.ofRaise
  repeat' split
  all_goals first | rfl | exact hRaised _

/-- A converter calls for what it retains, and for nothing else. -/
theorem calls_run (converter : ToHost) (typeId : String) (pointer : Pointer) :
    ((converter.run typeId pointer).run.run world).2.calls =
      world.calls ++ converter.retains (world.resolve pointer) := by
  cases converter with
  | handle handleId name ownership =>
    rw [ToHost.run, Pointer.isNull, ToHost.retains]
    simp only [World.resolve_eq_null_iff]
    by_cases hNull : pointer.number = 0
    · simp only [hNull, if_true, decide_true, List.append_nil]
      rfl
    · simp only [hNull, if_false, decide_false, Bool.false_eq_true, run_makeHandle]
      exact World.retainOwned_calls ..
  | refuse exception text =>
    refine Eq.trans ?_ (List.append_nil _).symm
    exact congrArg World.calls (textFrom_report_ofRaise world exception text)
  | register inner =>
    have hCalls := calls_register world (.borrowing inner "Nested")
    refine Eq.trans ?_ (List.append_nil _).symm
    rw [ToHost.run, run_bind, run_tryCatch, run_bind]
    cases hRun : (register (.borrowing inner "Nested")).run.run world with
    | mk outcome after =>
      rw [hRun] at hCalls
      cases outcome <;> exact hCalls
  | object =>
    refine Eq.trans ?_ (List.append_nil _).symm
    rw [ToHost.run, run_get]
    split <;> rfl
  | _ => exact (List.append_nil _).symm

/-- A conversion to a host value calls the discipline of its type, to retain a pointer that is not
NULL, and makes no other call. -/
theorem calls_toHost (typeId : String) (pointer : Pointer) :
    ((toHost typeId pointer).run.run world).2.calls =
      world.calls ++ world.retains typeId pointer := by
  rw [toHost, run_bind, run_lookup, World.retains]
  cases world.registry.lookup typeId with
  | error error => exact (List.append_nil _).symm
  | ok wrapper =>
    have hRun := calls_run world wrapper.toHost typeId pointer
    dsimp only
    rw [run_bind]
    cases hConvert : (wrapper.toHost.run typeId pointer).run.run world with
    | mk outcome after =>
      rw [hConvert] at hRun
      cases outcome <;> exact hRun

end Calls

/-- What a history tells depends on the handles and on the calls to disciplines. -/
theorem World.Chronicle.congr {world other : World} {history : List Handling}
    (hChronicle : world.Chronicle history) (hHost : other.host = world.host)
    (hCalls : other.calls = world.calls) : other.Chronicle history where
  calls := hCalls.trans hChronicle.calls
  once := hChronicle.once
  known := hHost ▸ hChronicle.known
  first := hChronicle.first
  live := hHost ▸ hChronicle.live

/-- Whether a command converts a pointer of a type to a host value, by whatever way. -/
inductive Command.Passes : Command → String → PointerLiteral → Prop
  | named (typeId : String) (pointer : PointerLiteral) (result : Option String) :
      Passes (.wrapper (.toHost typeId pointer result)) typeId pointer
  | encoded {signature typeId : String} (pointer : PointerLiteral) (result : Option String)
      (hIdentifier : TypeEncoding.identifier? signature = some typeId) :
      Passes (.wrapper (.toHostFor signature pointer result)) typeId pointer
  | exported {text : TextArgument} {typeId : String} (object : Option String)
      (pointer : PointerLiteral) (result : Option String) (hText : readText text = .ok typeId) :
      Passes (.exported ⟨object, .toHost text pointer result⟩) typeId pointer

/-- Whether a command asks for a handle in a session: it converts a pointer that is not NULL, of a
type whose converter makes such handles, or it makes the handle by hand. -/
inductive Command.AsksFor (session : Session) (handle : Handle) : Command → Prop
  | converts {command : Command} {typeId : String} {literal : PointerLiteral}
      {wrapper : PointerWrapper} (hPasses : command.Passes typeId literal)
      (hPointer : session.pointerOf? literal = some handle.pointer) (hNull : handle.pointer ≠ .null)
      (hWrapper : session.world.registry.lookup typeId = .ok wrapper)
      (hConverter : wrapper.toHost = .handle handle.typeId handle.typeName handle.ownership) :
      AsksFor session handle command
  | byHand {literal : PointerLiteral} (result : Option String)
      (hPointer : session.pointerOf? literal = some handle.pointer) :
      AsksFor session handle (.wrapper
        (.makeHandle handle.typeId handle.typeName literal handle.ownership result))

theorem Command.asksFor_of_converts {command : Command} {session : Session} {typeId : String}
    {literal : PointerLiteral} {handle : Handle} (hPasses : command.Passes typeId literal)
    (hConverts : session.Converts typeId literal (.handle handle)) :
    command.AsksFor session handle := by
  obtain ⟨pointer, hPointer, wrapper, hWrapper, hConverter, rfl, hNull⟩ := hConverts
  exact .converts hPasses hPointer hNull hWrapper hConverter

/-- A handle is made on demand only: a command that may make one asks for it. -/
theorem Command.asksFor_of_may {command : Command} {session : Session} {handle : Handle}
    (hMay : command.May session (.handle handle)) : command.AsksFor session handle := by
  cases command with
  | wrapper command =>
    cases command with
    | toHost typeId pointer result => exact asksFor_of_converts (.named ..) hMay
    | toHostFor signature pointer result =>
      obtain ⟨typeId, hIdentifier, hConverts⟩ := hMay
      exact asksFor_of_converts (.encoded _ _ hIdentifier) hConverts
    | makeHandle typeId typeName pointer ownership result =>
      obtain ⟨found, hFound, hSame⟩ := hMay
      obtain rfl := Deed.handle.inj hSame
      exact .byHand result hFound
    | _ => simp [May, WrapperCommand.May] at hMay
  | exported call =>
    obtain ⟨object, command⟩ := call
    cases command with
    | toHost typeId pointer result =>
      obtain ⟨text, hText, hConverts⟩ := hMay
      exact asksFor_of_converts (.exported _ _ _ hText) hConverts
    | _ => simp [May, ExportCommand.May, Session.Advances] at hMay
  | set command =>
    cases command <;> simp [May, SetCommand.May, Session.Advances] at hMay
  | _ => cases hMay

namespace Session

theorem performAll_append (first second : List Command) (session : Session) :
    (performAll (first ++ second) session).2 =
      (performAll second (performAll first session).2).2 := by
  induction first generalizing session with
  | nil => rfl
  | cons command rest ih => exact ih _

theorem calls_forget (command : Command) (world : World) :
    (command.forget world).calls = world.calls := by
  unfold Command.forget
  split <;> rfl

/-- A command, with what is reclaimed after it, is made of moves. -/
theorem exists_moves_perform (command : Command) (session : Session) :
    ∃ start finish : Account, start.world = command.forget session.world ∧
      finish.world = (perform command session).2.world ∧
        Moves (command.May session) start finish := by
  obtain ⟨start, finish, hStart, hFinish, hMoves⟩ := command.exists_moves session
  refine ⟨start, ⟨finish.holdings, (perform command session).2.world⟩, hStart, rfl, ?_⟩
  rw [perform_snd, ← hFinish]
  exact hMoves.trans (.host (World.changes_settle _) _)

theorem chronicle_forget {world start : World} {history : List Handling} {command : Command}
    (hChronicle : world.Chronicle history) (hStart : start = command.forget world) :
    start.Chronicle history :=
  hStart ▸ hChronicle.congr (host_forget command _) (calls_forget command _)

/-- Whether an occasion arises in a command, and what it is to the command. -/
structure Arises (command : Command) (before : Session) (handling : Handling) : Prop where
  /-- It is one of the moves that the command makes. -/
  between : ∃ start finish, start.world = command.forget before.world ∧
    finish.world = (perform command before).2.world ∧
      handling.Between (command.May before) start finish
  /-- A handle that is made was asked for. -/
  asked : handling.request = .retain → command.AsksFor before handling.handle

/-- The chronicle goes on through a command. -/
theorem chronicle_perform {history : List Handling} {before : Session}
    (hChronicle : before.world.Chronicle history) (command : Command) :
    ∃ more, (perform command before).2.world.Chronicle (history ++ more) ∧
      ∀ handling ∈ more, Arises command before handling := by
  obtain ⟨start, finish, hStart, hFinish, hMoves⟩ := exists_moves_perform command before
  obtain ⟨more, hAfter, hBetween⟩ := hMoves.chronicle (chronicle_forget hChronicle hStart)
  rw [hFinish] at hAfter
  refine ⟨more, hAfter, fun handling hHandling =>
    ⟨⟨start, finish, hStart, hFinish, hBetween handling hHandling⟩, fun hRetain => ?_⟩⟩
  obtain ⟨middle, next, _, hHandled, _⟩ := hBetween handling hHandling
  cases hHandled with
  | made handle hMay => exact Command.asksFor_of_may hMay
  | ended => cases hRetain

/-- The chronicle of a run: each occasion arises in one of its commands. -/
theorem exists_chronicle (commands : List Command) :
    ∃ history, (performAll commands {}).2.world.Chronicle history ∧
      ∀ handling ∈ history, ∃ earlier command later, commands = earlier ++ command :: later ∧
        Arises command (performAll earlier {}).2 handling := by
  induction commands using List.reverseRecOn with
  | nil => exact ⟨[], .empty, nofun⟩
  | append_singleton earlier command ih =>
    obtain ⟨history, hEarlier, hArises⟩ := ih
    obtain ⟨more, hAfter, hMore⟩ := chronicle_perform hEarlier command
    refine ⟨history ++ more, ?_, fun handling hHandling => ?_⟩
    · rw [performAll_append]
      exact hAfter
    · rcases List.mem_append.mp hHandling with hOld | hNew
      · obtain ⟨first, other, later, rfl, hFirst⟩ := hArises handling hOld
        exact ⟨first, other, later ++ [command], by simp, hFirst⟩
      · exact ⟨earlier, command, [], rfl, hMore handling hNew⟩

/-- What the retains and releases of a run have to do with its handles, up to a further command. -/
structure Pairs (commands : List Command) (command : Command) : Prop where
  /-- Each call was made for a handle: once when it was made, which a command had asked for, and
  once when it came to its end, after nothing referred to it any more. -/
  chronicle : ∃ history more, (performAll commands {}).2.world.Chronicle history ∧
    (∀ handling ∈ history, ∃ earlier command later, commands = earlier ++ command :: later ∧
      Arises command (performAll earlier {}).2 handling) ∧
    (perform command (performAll commands {}).2).2.world.Chronicle (history ++ more) ∧
    ∀ handling ∈ more, Arises command (performAll commands {}).2 handling
  /-- Retains and releases are paired after the run and at every moment of the next command, and each of
  these is one at which a handle that is let go of comes to its end at once unless something refers to it. -/
  paired : ∃ start finish, start.world = command.forget (performAll commands {}).2.world ∧
    finish.world = (perform command (performAll commands {}).2).2.world ∧
      Moves (command.May (performAll commands {}).2) start finish ∧
        ∀ middle, Moves (command.May (performAll commands {}).2) start middle → middle.world.Paired ∧
          middle.world.Prompt
  /-- No handle outlasts the command that takes its last reference. -/
  swept : (perform command (performAll commands {}).2).2.world.Swept
  /-- Conversions retain what their type says and nothing else, whether they succeed or not. -/
  conversions : ∀ typeId pointer,
    ((toHost typeId pointer).run.run (performAll commands {}).2.world).2.calls =
      (performAll commands {}).2.world.calls ++
        (performAll commands {}).2.world.retains typeId pointer
  /-- Registrations call no discipline, whether they are accepted or not. -/
  registrations : ∀ wrapper,
    ((register wrapper).run.run (performAll commands {}).2.world).2.calls =
      (performAll commands {}).2.world.calls

/-- In every run, for every discipline and pointer, and at every moment, the retains exceed the
releases by the handles that live. -/
theorem handles_paired (commands : List Command) (command : Command) : Pairs commands command := by
  obtain ⟨history, hChronicle, hArises⟩ := exists_chronicle commands
  obtain ⟨more, hMore⟩ := chronicle_perform hChronicle command
  obtain ⟨start, finish, hStart, hFinish, hMoves⟩ :=
    exists_moves_perform command (performAll commands {}).2
  exact ⟨⟨history, more, hChronicle, hArises, hMore⟩,
    ⟨start, finish, hStart, hFinish, hMoves, fun middle hMiddle =>
      ⟨hMiddle.paired (chronicle_forget hChronicle hStart), middle.world.prompt⟩⟩,
    swept_perform _ _, calls_toHost _, calls_register _⟩

end Session

end HeapBridge
