import HeapBridge.Proofs.Boundary.Blindness
import HeapBridge.Proofs.Custody.Releases
import HeapBridge.Proofs.Ownership.Exports
/-!
Adoption. Four calls are handed over the reference to a host value and make a proxy of it, or fail to. The
reference is used up once in either case: it goes to the new proxy, or is given back. Storage that a call is
handed over becomes the proxy or is gone. To make a proxy in one step or in two comes to the same.
-/
namespace HeapBridge

open Host (Ref)
open Native (NativeClass Payload)
open Estate

variable {world : World} {value : Option Ref} {storage made : Option Nat}

namespace Native.Heap

/-- A release makes no proxy. -/
theorem backing?_of_release {heap : Heap} {released address : Nat} {ref : Ref}
    (hBacking : (heap.release released).2.backing? address = some ref) :
    heap.backing? address = some ref := by
  cases hObject : heap.object? released with
  | none => rwa [release, hObject] at hBacking
  | some object =>
    unfold backing? at hBacking ⊢
    rw [object?_release hObject] at hBacking
    rcases eq_or_ne address released with rfl | hOther
    · rw [if_pos rfl] at hBacking
      rw [hObject]
      obtain ⟨retainCount, payload⟩ := object
      split at hBacking
      next hMore =>
        split at hMore
        · cases hMore
        · cases hMore
          exact hBacking
      next => cases hBacking
    · rwa [if_neg hOther] at hBacking

theorem backing?_reserve (heap : Heap) (nativeClass : NativeClass) (address : Nat) :
    (heap.reserve nativeClass).2.backing? address = heap.backing? address := by
  simp only [backing?, object?_reserve]

theorem backing?_discard {heap : Heap} {address : Nat} {nativeClass : NativeClass}
    (hCell : heap.cell? address = some (.reserved nativeClass)) (other : Nat) :
    (heap.discard address).backing? other = heap.backing? other := by
  simp only [backing?, object?_discard hCell]

/-- Storage that is given back at once leaves no reference behind. -/
theorem references_discard_reserve (heap : Heap) (nativeClass : NativeClass) :
    (((heap.reserve nativeClass).2.discard heap.cells.size).references : Multiset Ref) =
      heap.references := by
  have hCell := (heap.cell?_reserve nativeClass heap.cells.size).trans (if_pos rfl)
  rw [references_discard hCell, references_reserve]

end Native.Heap

/-- Host code makes no proxy. -/
theorem Host.Change.backing? {before after : World} (change : Host.Change before after)
    {address : Nat} {ref : Ref} (hBacking : after.native.backing? address = some ref) :
    before.native.backing? address = some ref := by
  cases change with
  | giveUp =>
    unfold World.reclaim at hBacking
    dsimp only at hBacking
    split at hBacking
    next typeId _ pointer discipline _ =>
      cases discipline <;> cases pointer <;>
        simp only [World.dropHandle, World.dropNative_native] at hBacking <;>
        first
        | exact hBacking
        | exact Native.Heap.backing?_of_release hBacking
    next => exact hBacking
  | _ => exact hBacking

theorem Host.Changes.backing? {before after : World} (changes : Host.Changes before after)
    {address : Nat} {ref : Ref} (hBacking : after.native.backing? address = some ref) :
    before.native.backing? address = some ref := by
  induction changes with
  | refl => exact hBacking
  | step _ last ih => exact ih (last.backing? hBacking)

/-- A reservation is refused, or gives storage that was not there before. -/
theorem World.reserve_cases (nativeClass : NativeClass) (world : World) :
    (∃ refusals, world.reserve nativeClass = (none, { world with refusals })) ∨
      ∃ refusals, world.reserve nativeClass = (some world.native.cells.size,
        { world with native := (world.native.reserve nativeClass).2, refusals }) := by
  unfold World.reserve
  split
  next refusals _ => exact .inl ⟨refusals, rfl⟩
  next => exact .inr ⟨_, rfl⟩

def Native.Heap.Reserved (heap : Native.Heap) (storage : Option Nat) : Prop :=
  ∀ address, storage = some address → ∃ nativeClass, heap.cell? address = some (.reserved nativeClass)

/-- What becomes of the native heap by a call that is handed over storage, and a reference to a host value
that it makes a proxy of. -/
structure Native.Heap.Makes (value : Option Ref) (storage : Option Nat) (before after : Native.Heap)
    (made : Option Nat) : Prop where
  /-- A proxy is new, has one reference itself, and holds just the one to its host value. -/
  adopted : ∀ address, made = some address → ∃ ref, value = some ref ∧
    before.object? address = none ∧
      after.object? address = some { retainCount := 1, payload := .foreignSet ref } ∧
        (after.references : Multiset Ref) = {ref} + (before.references : Multiset Ref)
  /-- A call that fails makes no proxy. -/
  refused : made = none → ∀ address ref,
    after.backing? address = some ref → before.backing? address = some ref
  /-- Storage becomes the proxy or is gone. -/
  stored : ∀ address, storage = some address →
    made = some address ∨ made = none ∧ after.Vacated address

namespace Native.Heap.Makes

variable {heap after : Native.Heap}

/-- Without a value there is no proxy, and storage is given back. -/
theorem discard (hReserved : heap.Reserved storage) :
    Makes none storage heap (storage.elim heap heap.discard) none where
  adopted := nofun
  refused _ address ref hBacking := by
    cases storage with
    | none => exact hBacking
    | some stored =>
      obtain ⟨nativeClass, hCell⟩ := hReserved stored rfl
      rwa [Option.elim_some, backing?_discard hCell] at hBacking
  stored address hStorage := by
    subst hStorage
    obtain ⟨nativeClass, hCell⟩ := hReserved address rfl
    refine .inr ⟨rfl, ?_, ?_⟩
    · rw [Option.elim_some, cell?_discard hCell, if_pos rfl]
    · simpa using lt_size_of_cell? hCell

/-- The payload moves into storage, and the reference into the payload. -/
theorem install {address : Nat} (hReserved : heap.Reserved (some address)) (ref : Ref) :
    Makes (some ref) (some address) heap (heap.install address (.foreignSet ref)) (some address) where
  adopted _ hMade := by
    obtain rfl := Option.some.inj hMade
    obtain ⟨nativeClass, hCell⟩ := hReserved address rfl
    refine ⟨ref, rfl, object?_of_reserved hCell, ?_, references_install hCell _⟩
    rw [object?_install hCell, if_pos rfl]
  refused := nofun
  stored _ hStorage := .inl hStorage

/-- Storage that was reserved for the call alone is nothing to the caller. -/
theorem ofReserve {nativeClass : NativeClass}
    (hMakes : Makes value storage (heap.reserve nativeClass).2 after made) :
    Makes value none heap after made where
  adopted address hMade := by
    obtain ⟨ref, hValue, hNew, hObject, hReferences⟩ := hMakes.adopted address hMade
    rw [object?_reserve] at hNew
    rw [references_reserve] at hReferences
    exact ⟨ref, hValue, hNew, hObject, hReferences⟩
  refused hMade address ref hBacking := by
    have hBefore := hMakes.refused hMade address ref hBacking
    rwa [backing?_reserve] at hBefore
  stored := nofun

end Native.Heap.Makes

namespace ForeignSet

theorem run_initialise_none (value : Ref) (world : World) :
    (initialise none value).run.run world =
      (.error (.allocationFailed .foreignSet), world.letGo value) := rfl

/-- An initialisation uses up its storage whatever comes of it. -/
theorem makes_initialise (hReserved : world.native.Reserved storage) (ref : Ref) :
    Native.Heap.Makes (some ref) storage world.native
      ((initialise storage ref).run.run world).2.native
      ((initialise storage ref).run.run world).1.toOption := by
  cases storage with
  | some address => exact .install hReserved ref
  | none =>
    rw [run_initialise_none]
    exact ⟨nofun, fun _ _ _ hBacking => (World.changes_letGo ref world).backing? hBacking, nofun⟩

/-- A creation is an initialisation of storage that is reserved for it. -/
theorem run_create (ref : Ref) (world : World) :
    (create ref).run.run world =
      (initialise (world.reserve .foreignSet).1 ref).run.run (world.reserve .foreignSet).2 := rfl

/-- A creation reserves storage of its own and uses that up. -/
theorem makes_create (ref : Ref) (world : World) :
    Native.Heap.Makes (some ref) none world.native ((create ref).run.run world).2.native
      ((create ref).run.run world).1.toOption := by
  rw [run_create]
  obtain ⟨refusals, hReserve⟩ | ⟨refusals, hReserve⟩ := world.reserve_cases .foreignSet <;>
    rw [hReserve]
  · exact @makes_initialise { world with refusals } none nofun ref
  · let reserved := { world with native := (world.native.reserve .foreignSet).2, refusals }
    have hReserved : reserved.native.Reserved (some world.native.cells.size) := by
      intro address hAddress
      obtain rfl := Option.some.inj hAddress
      exact ⟨.foreignSet, by rw [Native.Heap.cell?_reserve, if_pos rfl]⟩
    exact (makes_initialise hReserved ref).ofReserve

end ForeignSet

namespace Export

theorem native_setLastError (thread : Thread) (text : String) (world : World) :
    (world.setLastError thread text).native = world.native := by
  unfold World.setLastError
  dsimp only
  split <;> rfl

/-- The guard around an operation is nothing to the native heap. -/
theorem makes_guarded {operation : BridgeM Nat} {thread : Thread}
    (hMakes : Native.Heap.Makes value storage world.native
      (operation.run.run (world.clearLastError thread)).2.native
      (operation.run.run (world.clearLastError thread)).1.toOption) :
    Native.Heap.Makes value storage world.native
      ((guarded thread none (do return some (← operation))).run world).2.native
      ((guarded thread none (do return some (← operation))).run world).1 := by
  rw [run_guarded, run_bind]
  rcases hRun : operation.run.run (world.clearLastError thread) with ⟨error | address, after⟩ <;>
    rw [hRun] at hMakes
  · dsimp only
    rw [native_setLastError]
    exact hMakes
  · exact hMakes

theorem run_setNew_none (thread : Thread) (world : World) :
    (setNew thread none).run world =
      (none, (world.clearLastError thread).setLastError thread BridgeError.nullHostValue.message) :=
  rfl

theorem run_setInit_none (thread : Thread) (storage : Option Nat) (world : World) :
    (setInit thread storage none).run world =
      (none, World.setLastError thread BridgeError.nullHostValue.message
        { world.clearLastError thread with
          native := storage.elim world.native world.native.discard }) :=
  rfl

/-- The exported call makes a proxy of its argument, or nothing at all. -/
theorem makes_setNew (thread : Thread) (value : Option Ref) (world : World) :
    Native.Heap.Makes value none world.native ((setNew thread value).run world).2.native
      ((setNew thread value).run world).1 := by
  cases value with
  | none =>
    rw [run_setNew_none, native_setLastError]
    exact .discard nofun
  | some ref => exact makes_guarded (ForeignSet.makes_create ref (world.clearLastError thread))

/-- The exported form checks its arguments, and gives storage back if there is no value. -/
theorem makes_setInit (thread : Thread) (value : Option Ref)
    (hReserved : world.native.Reserved storage) :
    Native.Heap.Makes value storage world.native ((setInit thread storage value).run world).2.native
      ((setInit thread storage value).run world).1 := by
  cases value with
  | none =>
    rw [run_setInit_none, native_setLastError]
    exact .discard hReserved
  | some ref =>
    have hInitialise := @ForeignSet.makes_initialise (world.clearLastError thread) _ hReserved ref
    exact makes_guarded hInitialise

end Export

inductive Adoption where
  | create (value : Ref)
  | initialise (storage : Option Nat) (value : Ref)
  | setNew (thread : Thread) (value : Option Ref)
  | setInit (thread : Thread) (storage : Option Nat) (value : Option Ref)

namespace Adoption

def value? : Adoption → Option Ref
  | create value | initialise _ value => some value
  | setNew _ value | setInit _ _ value => value

/-- The storage that a call is handed over as well. -/
def storage? : Adoption → Option Nat
  | create _ | setNew _ _ => none
  | initialise storage _ | setInit _ storage _ => storage

def run : Adoption → World → Option Nat × World
  | create value, world =>
    (((ForeignSet.create value).run.run world).1.toOption, ((ForeignSet.create value).run.run world).2)
  | initialise storage value, world =>
    (((ForeignSet.initialise storage value).run.run world).1.toOption,
      ((ForeignSet.initialise storage value).run.run world).2)
  | setNew thread value, world => (Export.setNew thread value).run world
  | setInit thread storage value, world => (Export.setInit thread storage value).run world

/-- The reference that a call is handed over is used up, once, whatever comes of the call. -/
theorem held_run (adoption : Adoption) {world : World} {rest : Multiset Ref}
    (hHeld : (world.held : Multiset Ref) = refClaims adoption.value? + rest) :
    ((adoption.run world).2.held : Multiset Ref) = rest := by
  have hAdopted (outcome : Except BridgeError Nat) : (onSuccess oneReference outcome).2 = 0 := by
    cases outcome <;> rfl
  have hMade (made : Option Nat) : (objectEstate made).2 = 0 := by
    cases made <;> rfl
  cases adoption with
  | create value =>
    have hHands := @ForeignSet.transfers_create (fun _ => True) (ofHost rest) world value
    exact (hHands.held hHeld).trans (by rw [hAdopted, zero_add]; rfl)
  | initialise storage value =>
    have hHands := @ForeignSet.transfers_initialise (fun _ => True) (ofHost rest) world storage value
    refine (hHands.held ?_).trans (by rw [hAdopted, zero_add]; rfl)
    rw [storageEstate, snd_ofNative_add]
    exact hHeld
  | setNew thread value =>
    have hHands := @Export.hands_setNew (fun _ => True) (ofHost rest) world thread value
    exact (hHands.held hHeld).trans (by rw [hMade, zero_add]; rfl)
  | setInit thread storage value =>
    have hHands := @Export.hands_setInit (fun _ => True) (ofHost rest) world thread storage value
    refine (hHands.held ?_).trans (by rw [hMade, zero_add]; rfl)
    rw [storageEstate, snd_ofNative_add]
    exact hHeld

/-- Each way of making a proxy does so. -/
theorem makes_run (adoption : Adoption) {world : World}
    (hReserved : world.native.Reserved adoption.storage?) :
    Native.Heap.Makes adoption.value? adoption.storage? world.native (adoption.run world).2.native
      (adoption.run world).1 := by
  cases adoption with
  | create value => exact ForeignSet.makes_create value world
  | initialise storage value => exact ForeignSet.makes_initialise hReserved value
  | setNew thread value => exact Export.makes_setNew thread value world
  | setInit thread storage value => exact Export.makes_setInit thread value hReserved

end Adoption

/-- Whether two worlds have the same references to each host object, the same record and the same last
errors. -/
structure World.Alike (first second : World) : Prop where
  refCount : ∀ ref, first.refCount ref = second.refCount ref
  log : first.log = second.log
  lastErrors : first.lastErrors = second.lastErrors

namespace World

theorem clearLastError_setLastError (thread : Thread) (text : String) (world : World) :
    (world.setLastError thread text).clearLastError thread = world.clearLastError thread := by
  unfold setLastError
  dsimp only
  split
  · exact clearLastError_clearLastError thread world
  · simp [clearLastError]

theorem Alike.refl (world : World) : Alike world world := ⟨fun _ => rfl, rfl, rfl⟩

/-- It does not matter what the allocator does, and what there is without a reference to a host object. -/
theorem alike_of_native {native : Native.Heap} (refusals : List Bool)
    (hReferences : (native.references : Multiset Ref) = world.native.references) :
    Alike world { world with native, refusals } := by
  refine ⟨fun ref => ?_, rfl, rfl⟩
  have hCount := (Multiset.coe_eq_coe.mp hReferences).count_eq ref
  simp only [refCount, references, List.count_append, hCount]

theorem Alike.setLastError {first second : World} (hAlike : Alike first second) (thread : Thread)
    (text : String) : Alike (first.setLastError thread text) (second.setLastError thread text) := by
  obtain ⟨hCount, hLog, hErrors⟩ := hAlike
  unfold World.setLastError
  dsimp only
  split
  · exact ⟨hCount, hLog, by simp only [clearLastError, hErrors]⟩
  · exact ⟨hCount, hLog, by simp only [clearLastError, hErrors]⟩

end World

namespace Export

def setNewInSteps (thread : Thread) (value : Option Ref) : ExportM (Option Nat) := do
  setInit thread (← setAllocate thread) value

/-- A reservation leaves behind what the next call finds as if there had been none but the reservation. -/
theorem run_setAllocate (thread : Thread) (world : World) :
    ((setAllocate thread).run world).1 = ((world.clearLastError thread).reserve .foreignSet).1 ∧
      ((setAllocate thread).run world).2.clearLastError thread =
        ((world.clearLastError thread).reserve .foreignSet).2.clearLastError thread := by
  have hModify : (modifyGet (World.reserve .foreignSet) : BridgeM (Option Nat)).run.run
        (world.clearLastError thread) =
      (.ok ((world.clearLastError thread).reserve .foreignSet).1,
        ((world.clearLastError thread).reserve .foreignSet).2) := rfl
  rw [setAllocate, run_guarded, run_bind, hModify]
  rcases (world.clearLastError thread).reserve .foreignSet with ⟨address | address, after⟩
  · exact ⟨rfl, World.clearLastError_setLastError ..⟩
  · exact ⟨rfl, rfl⟩

theorem run_setInit_congr (thread : Thread) (storage : Option Nat) (value : Option Ref)
    {first second : World} (hSame : first.clearLastError thread = second.clearLastError thread) :
    (setInit thread storage value).run first = (setInit thread storage value).run second := by
  simp only [setInit, run_guarded, hSame]

/-- Made in two steps, a proxy is made in storage that was reserved a step before. -/
theorem run_setNewInSteps (thread : Thread) (value : Option Ref) (world : World) :
    (setNewInSteps thread value).run world =
      (setInit thread ((world.clearLastError thread).reserve .foreignSet).1 value).run
        ((world.clearLastError thread).reserve .foreignSet).2 := by
  obtain ⟨hStorage, hWorld⟩ := run_setAllocate thread world
  change (setInit thread ((setAllocate thread).run world).1 value).run
    ((setAllocate thread).run world).2 = _
  rw [hStorage]
  exact run_setInit_congr thread _ value hWorld

/-- A reservation does not bring back the last error that was cleared before it. -/
theorem clearLastError_reserve (thread : Thread) (nativeClass : NativeClass) (world : World) :
    ((world.clearLastError thread).reserve nativeClass).2.clearLastError thread =
      ((world.clearLastError thread).reserve nativeClass).2 := by
  obtain ⟨refusals, hReserve⟩ | ⟨refusals, hReserve⟩ :=
      (world.clearLastError thread).reserve_cases nativeClass <;> rw [hReserve]
  · exact World.clearLastError_clearLastError thread { world with refusals }
  · exact World.clearLastError_clearLastError thread
      { world with native := (world.native.reserve nativeClass).2, refusals }

/-- Making a proxy in two steps comes to what making it at once does. -/
theorem run_setNewInSteps_some (thread : Thread) (ref : Ref) (world : World) :
    (setNewInSteps thread (some ref)).run world = (setNew thread (some ref)).run world := by
  have hInit (storage : Option Nat) : setInit thread storage (some ref) =
      guarded thread none (do return some (← ForeignSet.initialise storage ref)) := rfl
  have hNew : setNew thread (some ref) =
      guarded thread none (do return some (← ForeignSet.create ref)) := rfl
  rw [run_setNewInSteps, hInit, hNew, run_guarded, run_guarded, clearLastError_reserve, run_bind,
    run_bind, ← ForeignSet.run_create]

/-- Making a proxy in two steps comes to the same as making it in one. -/
theorem setNewInSteps_alike (thread : Thread) (value : Option Ref) (world : World) :
    ((setNewInSteps thread value).run world).1 = ((setNew thread value).run world).1 ∧
      World.Alike ((setNew thread value).run world).2 ((setNewInSteps thread value).run world).2 := by
  cases value with
  | some ref =>
    rw [run_setNewInSteps_some]
    exact ⟨rfl, .refl _⟩
  | none =>
    rw [run_setNewInSteps, run_setNew_none, run_setInit_none, clearLastError_reserve]
    refine ⟨rfl, ?_⟩
    dsimp only
    refine World.Alike.setLastError ?_ thread _
    obtain ⟨refusals, hReserve⟩ | ⟨refusals, hReserve⟩ :=
        (world.clearLastError thread).reserve_cases .foreignSet <;> rw [hReserve]
    · exact World.alike_of_native refusals rfl
    · exact World.alike_of_native refusals
        (Native.Heap.references_discard_reserve world.native .foreignSet)

end Export

end HeapBridge
