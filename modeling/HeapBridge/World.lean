import HeapBridge.Cursor
import HeapBridge.Host.Fault
import HeapBridge.Host.Heap
import HeapBridge.Registry
/-!
The state of the bridge: both heaps, the references that are held from outside them, the iterators under
way, the registry, the exceptions that are pending, the last error of each thread, and the record of what
happened. Host objects are
counted by the places that refer to them.
-/
namespace HeapBridge

open Host (Ref)

/-- What the discipline of a handle is asked for. -/
inductive HandleRequest where
  | retain
  | release
  deriving DecidableEq, Repr

/-- A call that a handle makes to its discipline. -/
structure HandleCall where
  discipline : Discipline
  request : HandleRequest
  pointer : Pointer
  deriving DecidableEq, Repr

def HandleCall.isExternal (call : HandleCall) : Bool :=
  match call.discipline with
  | .external _ => true
  | _ => false

/-- Threads by number. -/
abbrev Thread := Nat

structure World where
  host : Host.Heap := {}
  /-- The host references held from outside both heaps, one entry for each. -/
  held : List Ref := []
  native : Native.Heap := {}
  /-- Which of the next reservations of native storage are refused, in order. -/
  refusals : List Bool := []
  /-- The iterators under way, by number. A number is not given out again. -/
  cursors : Array Cursor := #[]
  registry : Registry := {}
  /-- The exceptions of calls to the host that were not fetched, the latest first. -/
  pending : List Host.Fault := []
  lastErrors : List (Thread × String) := []
  /-- The text returned last on each thread. -/
  returned : List (Thread × String) := []
  log : List Event := []
  /-- The tags of destroyed payloads, in order. -/
  destroyed : List String := []
  /-- The calls that handles made to their disciplines, in order. -/
  calls : List HandleCall := []

instance : Inhabited World := ⟨{}⟩

/-- What the bridge keeps beside the heaps for itself: host code neither sees nor changes it. -/
structure Surroundings where
  pending : List Host.Fault
  lastErrors : List (Thread × String)
  returned : List (Thread × String)
  poisoned : Bool
  builtins : Option (Except BridgeError Unit)

namespace World

def surroundings (world : World) : Surroundings where
  pending := world.pending
  lastErrors := world.lastErrors
  returned := world.returned
  poisoned := world.registry.poisoned
  builtins := world.registry.builtins

/-- The same world in other surroundings. -/
def within (world : World) (surroundings : Surroundings) : World :=
  { world with
    registry :=
      { world.registry with poisoned := surroundings.poisoned, builtins := surroundings.builtins }
    pending := surroundings.pending
    lastErrors := surroundings.lastErrors
    returned := surroundings.returned }

@[simp] theorem within_surroundings (world : World) : world.within world.surroundings = world := rfl

@[simp] theorem surroundings_within (world : World) (surroundings : Surroundings) :
    (world.within surroundings).surroundings = surroundings := rfl

@[simp] theorem host_within (world : World) (surroundings : Surroundings) :
    (world.within surroundings).host = world.host := rfl

@[simp] theorem held_within (world : World) (surroundings : Surroundings) :
    (world.within surroundings).held = world.held := rfl

@[simp] theorem native_within (world : World) (surroundings : Surroundings) :
    (world.within surroundings).native = world.native := rfl

def emit (event : Event) (world : World) : World := { world with log := world.log ++ [event] }

def note (event : Option Event) (world : World) : World := event.elim world fun event => world.emit event

def hold (ref : Ref) (world : World) : World := { world with held := ref :: world.held }

def holdAll (refs : List Ref) (world : World) : World := { world with held := refs ++ world.held }

/-- Gives back a reference to a host object. What becomes of the object is left open. -/
def unhold (ref : Ref) (world : World) : World := { world with held := world.held.erase ref }

def unholdAll (refs : List Ref) (world : World) : World :=
  refs.foldl (fun world ref => world.unhold ref) world

def references (world : World) : List Ref :=
  world.held ++ world.native.references ++ world.cursors.toList.flatMap Cursor.references ++
    world.registry.references ++ world.host.references

def refCount (world : World) (ref : Ref) : Nat := world.references.count ref

def isReferenced (world : World) (ref : Ref) : Bool :=
  world.held.contains ref || world.native.references.contains ref ||
    world.cursors.any (·.references.contains ref) || world.registry.references.contains ref ||
    world.host.refersTo ref

theorem unholdAll_cons (ref : Ref) (refs : List Ref) (world : World) :
    world.unholdAll (ref :: refs) = (world.unhold ref).unholdAll refs := rfl

/-- Giving back what was taken leaves what was held beside it. -/
theorem held_unhold {ref : Ref} {rest : List Ref} {world : World}
    (hHeld : world.held.Perm (ref :: rest)) : (world.unhold ref).held.Perm rest := by
  have hErase := hHeld.erase ref
  rwa [List.erase_cons_head] at hErase

/-- What was held for a time is given back, and the rest is still held. -/
theorem held_unholdAll {refs rest : List Ref} {world : World}
    (hHeld : world.held.Perm (refs ++ rest)) : (world.unholdAll refs).held.Perm rest := by
  induction refs generalizing world with
  | nil => exact hHeld
  | cons ref others ih =>
    rw [unholdAll_cons]
    exact ih (held_unhold hHeld)

theorem isReferenced_eq (world : World) (ref : Ref) :
    world.isReferenced ref = world.references.contains ref := by
  have hCursors : world.cursors.any (·.references.contains ref) =
      (world.cursors.toList.flatMap Cursor.references).contains ref := by
    rw [← Array.any_toList, Bool.eq_iff_iff, List.any_eq_true, List.contains_iff_mem,
      List.mem_flatMap]
    simp only [List.contains_iff_mem]
  simp only [isReferenced, references, List.contains_append, Host.Heap.refersTo_eq, hCursors]

@[simp] theorem references_within (world : World) (surroundings : Surroundings) :
    (world.within surroundings).references = world.references := rfl

@[simp] theorem isReferenced_within (world : World) (surroundings : Surroundings) (ref : Ref) :
    (world.within surroundings).isReferenced ref = world.isReferenced ref := rfl

theorem unholdAll_within (refs : List Ref) (world : World) (surroundings : Surroundings) :
    (world.within surroundings).unholdAll refs = (world.unholdAll refs).within surroundings := by
  induction refs generalizing world with
  | nil => rfl
  | cons ref rest ih => exact ih (world.unhold ref)

/-- Destroys a payload whose last reference is gone. The host reference it held is in flight. -/
def destroy (payload : Native.Payload) (world : World) : List Ref × World :=
  match payload with
  | .plain => ([], world)
  | .tracked tag => ([], { world with destroyed := world.destroyed ++ [tag] })
  | .foreignSet backing => ([backing], world.emit .setReleased)

/-- Reserves native storage for an object of a class, unless that is refused. -/
def reserve (nativeClass : Native.NativeClass) (world : World) : Option Nat × World :=
  match world.refusals with
  | true :: refusals => (none, { world with refusals })
  | refusals =>
    let (address, native) := world.native.reserve nativeClass
    (some address, { world with native, refusals := refusals.tail })

/-- The iterator with a number; one that was never started has nothing to hand out. -/
def cursor (number : Nat) (world : World) : Cursor := world.cursors.getD number .finished

def startCursor (cursor : Cursor) (world : World) : Nat × World :=
  (world.cursors.size, { world with cursors := world.cursors.push cursor })

def moveCursor (number : Nat) (cursor : Cursor) (world : World) : World :=
  { world with cursors := world.cursors.setIfInBounds number cursor }

def retainNative (address : Nat) (world : World) : World :=
  { world with native := world.native.retain address }

/-- Takes a reference to a native object away. The host references that the object held are in flight
if it was the last one. -/
def dropNative (address : Nat) (world : World) : List Ref × World :=
  let (payload, native) := world.native.release address
  let world := { world with native }
  match payload with
  | some payload => world.destroy payload
  | none => ([], world)

def isThere (world : World) : Pointer → Bool
  | .native address => (world.native.object? address).isSome
  | .host ref => world.host.isLive ref
  | .null | .word _ => false

/-- The pointer that a machine word is: NULL if it is zero, and a pointer to an object if it is the
address of one that is there. -/
def resolve (world : World) (pointer : Pointer) : Pointer :=
  match pointer with
  | .word n =>
    if n = 0 then .null else ((Pointer.ofAddress? n).filter world.isThere).getD (.word n)
  | .null | .native _ | .host _ => pointer

@[simp] theorem resolve_within (world : World) (surroundings : Surroundings) (pointer : Pointer) :
    (world.within surroundings).resolve pointer = world.resolve pointer := rfl

/-- A word is that of an object only if the object is there. -/
theorem isThere_of_resolve_word {world : World} {n : Nat} {pointer : Pointer}
    (hResolve : world.resolve (.word n) = pointer) :
    pointer = .null ∨ pointer = .word n ∨ world.isThere pointer = true := by
  unfold resolve at hResolve
  dsimp only at hResolve
  split at hResolve
  next => exact .inl hResolve.symm
  next =>
    cases hFound : (Pointer.ofAddress? n).filter world.isThere with
    | none =>
      rw [hFound] at hResolve
      exact .inr (.inl hResolve.symm)
    | some found =>
      rw [hFound] at hResolve
      obtain rfl : found = pointer := hResolve
      exact .inr (.inr (Option.filter_eq_some_iff.mp hFound).2)

/-- A number leads to a native object only while that lives. -/
theorem isSome_object?_of_resolve_word {world : World} {n address : Nat}
    (hResolve : world.resolve (.word n) = .native address) :
    (world.native.object? address).isSome = true := by
  rcases isThere_of_resolve_word hResolve with hNull | hWord | hThere
  · cases hNull
  · cases hWord
  · exact hThere

/-- A pointer keeps its number whatever it turns out to lead to. -/
@[simp] theorem number_resolve (world : World) (pointer : Pointer) :
    (world.resolve pointer).number = pointer.number := by
  cases pointer with
  | word n =>
    unfold resolve
    dsimp only
    split
    next hZero => exact hZero.symm
    next =>
      cases hFound : (Pointer.ofAddress? n).filter world.isThere with
      | none => rfl
      | some found => exact Pointer.number_of_ofAddress? (Option.filter_eq_some_iff.mp hFound).1
  | null | native address | host ref => rfl

/-- A pointer is resolved once and for all. -/
@[simp] theorem resolve_resolve (world : World) (pointer : Pointer) :
    world.resolve (world.resolve pointer) = world.resolve pointer := by
  cases pointer with
  | word n =>
    rcases isThere_of_resolve_word (rfl : world.resolve (.word n) = _) with hNull | hWord | hThere
    · rw [hNull, resolve]
    · rw [hWord, hWord]
    · cases hResolved : world.resolve (.word n) with
      | word other =>
        rw [hResolved] at hThere
        cases hThere
      | null | native address | host ref => rfl
  | null | native address | host ref => rfl

/-- Just the pointers whose number is zero are NULL. -/
theorem resolve_eq_null_iff {world : World} {pointer : Pointer} :
    world.resolve pointer = .null ↔ pointer.number = 0 := by
  constructor
  · intro hNull
    rw [← world.number_resolve pointer, hNull, Pointer.number]
  · intro hZero
    cases pointer with
    | null => rfl
    | word n => exact if_pos hZero
    | native address | host ref =>
      rw [Pointer.number, Pointer.base] at hZero
      omega

theorem resolve_word {world : World} {pointer : Pointer}
    (hAddress : Pointer.ofAddress? pointer.number = some pointer) (hZero : pointer.number ≠ 0)
    (hThere : world.isThere pointer = true) : world.resolve (.word pointer.number) = pointer := by
  rw [resolve, if_neg hZero, hAddress, Option.filter_some, if_pos hThere, Option.getD_some]

/-- Whatever has the number of a native object that is there leads to it. -/
theorem resolve_eq_native {world : World} {pointer : Pointer} {address : Nat}
    (hLive : (world.native.object? address).isSome = true)
    (hNumber : pointer.number = (Pointer.native address).number) :
    world.resolve pointer = .native address := by
  rcases Pointer.eq_native_of_number_eq hNumber with hSame | hWord
  · rw [hSame, resolve]
  · rw [hWord]
    exact resolve_word (Pointer.ofAddress?_native address) (Pointer.number_native_ne_zero address) hLive

def noteCall (call : HandleCall) (world : World) : World :=
  { world with calls := world.calls ++ [call] }

/-- Retains a handle of the family that a discipline manages. What an external family makes of it is
its own concern. -/
def retainHandle (discipline : Discipline) (pointer : Pointer) (world : World) : World :=
  match discipline, pointer with
  | .external _, _ => world
  | _, .native address => world.retainNative address
  | _, _ => world

def retainOwned (handle : Handle) (world : World) : World :=
  match handle.ownership with
  | some discipline =>
    (world.noteCall { discipline, request := .retain, pointer := handle.pointer }).retainHandle
      discipline handle.pointer
  | none => world

/-- Releases a handle. The host references that are given up with it are in flight. -/
def dropHandle (discipline : Discipline) (pointer : Pointer) (world : World) : List Ref × World :=
  match discipline, pointer with
  | .external _, _ => ([], world)
  | _, .native address => world.dropNative address
  | _, _ => ([], world)

/-- Gives up the host object at an address. What it referred to is in flight, in the order in which
it is let go of; a handle that owns a reference releases it. -/
def reclaim (address : Nat) (world : World) : List Ref × World :=
  let object := world.host.view (.object address)
  let world := { world with host := world.host.free address }
  match object.body with
  | .handle { typeId, pointer, ownership := some discipline, .. } =>
    ((world.emit (.handleReleased typeId)).noteCall
      { discipline, request := .release, pointer }).dropHandle discipline pointer
  | _ => (object.references, world)

theorem destroy_within (payload : Native.Payload) (world : World) (surroundings : Surroundings) :
    (world.within surroundings).destroy payload =
      ((world.destroy payload).1, (world.destroy payload).2.within surroundings) := by
  cases payload <;> rfl

/-- Dropping a native object goes by the object alone. -/
theorem dropNative_within (address : Nat) (world : World) (surroundings : Surroundings) :
    (world.within surroundings).dropNative address =
      ((world.dropNative address).1, (world.dropNative address).2.within surroundings) := by
  unfold dropNative
  rw [native_within]
  cases hRelease : world.native.release address with
  | mk payload native =>
    cases payload with
    | none => rfl
    | some payload => exact destroy_within payload { world with native } surroundings

theorem dropHandle_within (discipline : Discipline) (pointer : Pointer) (world : World)
    (surroundings : Surroundings) :
    (world.within surroundings).dropHandle discipline pointer =
      ((world.dropHandle discipline pointer).1,
        (world.dropHandle discipline pointer).2.within surroundings) := by
  cases discipline <;> cases pointer <;> first | rfl | exact dropNative_within ..

/-- Host objects come to their ends alike in all surroundings. -/
theorem reclaim_within (address : Nat) (world : World) (surroundings : Surroundings) :
    (world.within surroundings).reclaim address =
      ((world.reclaim address).1, (world.reclaim address).2.within surroundings) := by
  unfold reclaim
  rw [host_within]
  dsimp only
  split
  next typeId _ pointer discipline _ =>
    exact dropHandle_within discipline pointer
      ((World.emit (.handleReleased typeId) { world with host := world.host.free address }).noteCall
        { discipline, request := .release, pointer }) surroundings
  next => rfl

/-- What the end of a native object does not reach. -/
theorem aside_dropNative (address : Nat) (world : World) :
    (world.dropNative address).2.held = world.held ∧
      (world.dropNative address).2.cursors = world.cursors ∧
        (world.dropNative address).2.registry = world.registry := by
  unfold dropNative
  dsimp only
  split
  next payload _ => cases payload <;> exact ⟨rfl, rfl, rfl⟩
  next => exact ⟨rfl, rfl, rfl⟩

/-- What the end of a host object does not reach. -/
private theorem aside_reclaim (address : Nat) (world : World) :
    (world.reclaim address).2.held = world.held ∧
      (world.reclaim address).2.cursors = world.cursors ∧
        (world.reclaim address).2.registry = world.registry := by
  unfold reclaim
  dsimp only
  split
  next typeId _ pointer discipline _ =>
    cases discipline <;> cases pointer <;>
      first | exact ⟨rfl, rfl, rfl⟩ | exact aside_dropNative _ _
  next => exact ⟨rfl, rfl, rfl⟩

/-- A reclaimed object was not held, and what it held is in flight. -/
theorem held_reclaim (address : Nat) (world : World) :
    (world.reclaim address).2.held = world.held :=
  (aside_reclaim address world).1

theorem cursors_registry_reclaim (address : Nat) (world : World) :
    (world.reclaim address).2.cursors = world.cursors ∧
      (world.reclaim address).2.registry = world.registry :=
  (aside_reclaim address world).2

def lastError? (world : World) (thread : Thread) : Option String := world.lastErrors.lookup thread

def clearLastError (thread : Thread) (world : World) : World :=
  { world with lastErrors := world.lastErrors.filter fun entry => entry.1 ≠ thread }

/-- Sets the last error of a thread. A text that a reader would not see in full is not kept. -/
def setLastError (thread : Thread) (text : String) (world : World) : World :=
  let world := world.clearLastError thread
  if hasNul text then world else { world with lastErrors := (thread, text) :: world.lastErrors }

/-- Stores a text for the caller to read, as far as it can be read, and gives it back. -/
def returnText (thread : Thread) (text : String) (world : World) : String × World :=
  let visible := visibleText text
  let others := world.returned.filter fun entry => entry.1 ≠ thread
  (visible, { world with returned := (thread, visible) :: others })

end World

end HeapBridge
