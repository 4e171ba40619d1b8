import HeapBridge.Proofs.Boundary.LastError
import HeapBridge.Proofs.Handles.Provenance
/-!
Display names for native callers. A caller that gets no name has to tell from the last error why: a text that
cannot be read leaves one, an encoding without an identifier and a type without a wrapper leave none, and
neither does a poisoned registry, whose own error is lost on the way. A name that is returned is kept for
reading, one for each thread, until the next one takes its place.
-/
namespace HeapBridge

open Host (HostM Ref)

variable {α β : Type}

/-- Whether an operation leaves the texts alone that are kept for reading. -/
def Reticent (operation : BridgeM α) : Prop :=
  ∀ world, (operation.run.run world).2.returned = world.returned

namespace Reticent

/-- What overlooks every change of the surroundings leaves them as they are. -/
theorem of_overlooks {operation : BridgeM α}
    (hOperation : ∀ change, Overlooks (World.alter change) operation) : Reticent operation :=
  fun world => congrArg Surroundings.returned (surroundings_of_overlooks hOperation world)

theorem pure {value : α} : Reticent (pure value : BridgeM α) := fun _ => rfl

theorem throw {error : BridgeError} : Reticent (throw error : BridgeM α) := fun _ => rfl

/-- Text that callers have been given stays theirs through operations in a row, if each leaves it alone. -/
theorem bind {first : BridgeM α} {next : α → BridgeM β} (hFirst : Reticent first)
    (hNext : ∀ value, Reticent (next value)) : Reticent (first >>= next) := by
  intro world
  have hDone := hFirst world
  revert hDone
  rw [run_bind]
  rcases first.run.run world with ⟨error | value, after⟩ <;> intro hDone
  · exact hDone
  · exact (hNext value after).trans hDone

theorem get {next : World → BridgeM α} (hNext : ∀ world, Reticent (next world)) :
    Reticent (get >>= next) :=
  fun world => hNext world world

theorem modify {change : World → World} (hChange : ∀ world, (change world).returned = world.returned) :
    Reticent (modify change : BridgeM Unit) :=
  hChange

/-- An operation with a handler for errors gives no text out if neither of the two does. -/
theorem handled {operation : BridgeM α} {handler : BridgeError → BridgeM α}
    (hOperation : Reticent operation) (hHandler : ∀ error, Reticent (handler error)) :
    Reticent (tryCatch operation handler) := by
  intro world
  have hDone := hOperation world
  revert hDone
  rw [run_tryCatch]
  rcases operation.run.run world with ⟨error | value, after⟩ <;> intro hDone
  · exact (hHandler error after).trans hDone
  · exact hDone

theorem attempt {operation : BridgeM α} (hOperation : Reticent operation) :
    Reticent (tryCatch (Except.ok <$> operation) fun error => Pure.pure (Except.error error) :
      BridgeM (Except BridgeError α)) := by
  intro world
  rw [run_attempt]
  exact hOperation world

end Reticent

/-! Operations on the registry. -/

theorem World.returned_note (event : Option Event) (world : World) :
    (world.note event).returned = world.returned := by
  cases event <;> rfl

theorem reticent_register (wrapper : PointerWrapper) : Reticent (register wrapper) := by
  refine .get fun world => .bind (.modify (World.returned_note _)) fun _ => ?_
  split
  · exact .modify fun _ => rfl
  · exact .throw

theorem reticent_registerAll (wrappers : List PointerWrapper) : Reticent (registerAll wrappers) := by
  induction wrappers with
  | nil => exact .pure
  | cons wrapper rest ih => exact .bind (reticent_register wrapper).attempt fun _ => .bind ih fun _ => .pure

theorem reticent_finish (outcome : Except BridgeError α) : Reticent (BridgeM.finish outcome) :=
  .of_overlooks fun _ => BridgeM.overlooks_finish outcome

theorem reticent_installBuiltins : Reticent installBuiltins := by
  refine .get fun world => ?_
  split
  · exact reticent_finish _
  · refine .bind (.bind (reticent_registerAll _) fun _ => ?_) fun outcome => reticent_finish outcome
    exact .bind (.modify (World.returned_note _)) fun _ => .bind (.modify fun _ => rfl) fun _ => .pure

theorem reticent_lookup (typeId : String) : Reticent (lookup typeId) :=
  .get fun _ => reticent_finish _

/-- Converters give no text out. -/
theorem ToHost.reticent_run (converter : ToHost) (typeId : String) (pointer : Pointer) :
    Reticent (converter.run typeId pointer) := by
  cases converter with
  | register inner =>
    exact .bind (.handled (.bind (reticent_register _) fun _ => .pure) fun _ => .pure)
      fun _ => .of_overlooks fun _ => BridgeM.overlooks_make _
  | number => exact .of_overlooks fun _ => BridgeM.overlooks_make _
  | refuse exception text => exact .of_overlooks fun _ => BridgeM.overlooks_explained _ _
  | constant ref => exact .pure
  | nil => exact .pure
  | handle handleId name discipline =>
    unfold ToHost.run
    dsimp only
    split
    · exact .pure
    · exact .of_overlooks fun _ => overlooks_makeHandle _ _ _ _
  | object =>
    refine .get fun world => ?_
    split <;> exact .pure

theorem reticent_toHost (typeId : String) (pointer : Pointer) : Reticent (toHost typeId pointer) :=
  .bind (reticent_lookup typeId) fun wrapper => .bind (wrapper.toHost.reticent_run typeId pointer)
    fun _ => .bind (.modify fun _ => rfl) fun _ => .pure

theorem reticent_fromHost (typeId : String) (value : Ref) : Reticent (fromHost typeId value) :=
  .bind (reticent_lookup typeId) fun _ => .of_overlooks fun _ => BridgeM.overlooks_host _ _

theorem World.returned_releaseNative (address : Nat) (world : World) :
    (world.releaseNative address).returned = world.returned :=
  congrArg Surroundings.returned (surroundings_of_overlooks
    (fun _ => .modify (World.commutes_releaseNative address)) world)

theorem World.returned_dropIterator (number : Nat) (world : World) :
    (ForeignSet.dropIterator number world).returned = world.returned :=
  congrArg Surroundings.returned (surroundings_of_overlooks
    (fun _ => .modify (World.commutes_dropIterator number)) world)

namespace Export

/-- No request gives text out on its own. -/
theorem Request.reticent_run (request : Request) : Reticent request.run := by
  cases request with
  | installBuiltins => exact reticent_installBuiltins.bind fun _ => .pure
  | reserve =>
    refine .bind (.of_overlooks fun _ => .modifyGet (World.reserve_alter .foreignSet)) fun storage => ?_
    cases storage with
    | some address => exact .pure
    | none => exact .throw
  | create value => exact .bind (.of_overlooks fun _ => ForeignSet.overlooks_create value) fun _ => .pure
  | initialise storage value =>
    exact .bind (.of_overlooks fun _ => ForeignSet.overlooks_initialise storage value) fun _ => .pure
  | contains backing item =>
    exact .bind (.of_overlooks fun _ => ForeignSet.overlooks_contains _ _) fun _ => .pure
  | add backing item => exact .bind (.of_overlooks fun _ => ForeignSet.overlooks_add _ _) fun _ => .pure
  | remove backing item =>
    exact .bind (.of_overlooks fun _ => ForeignSet.overlooks_remove _ _) fun _ => .pure
  | count backing => exact .bind (.of_overlooks fun _ => ForeignSet.overlooks_count _) fun _ => .pure
  | iterate backing => exact .bind (.of_overlooks fun _ => ForeignSet.overlooks_iterate _) fun _ => .pure
  | next iterator => exact .bind (.of_overlooks fun _ => ForeignSet.overlooks_next _) fun _ => .pure
  | dropIterator iterator =>
    refine .bind (.modify fun world => ?_) fun _ => .pure
    cases iterator with
    | none => rfl
    | some number => exact World.returned_dropIterator number world
  | release address =>
    refine .bind (.modify fun world => ?_) fun _ => .pure
    cases address with
    | none => rfl
    | some address => exact World.returned_releaseNative address world
  | register wrapper => exact .bind (reticent_register wrapper) fun _ => .pure
  | toHost typeId pointer => exact .bind (reticent_toHost typeId pointer) fun _ => .pure
  | fromHost typeId value => exact .bind (reticent_fromHost typeId value) fun _ => .pure
  | hasWrapper typeId => exact .get fun _ => .pure
  | describe signature => exact .get fun _ => .pure
  | hostValue backing => exact .pure
  | isForeignSet answer => exact .pure

def Outcome.text? : Outcome → Option String
  | .name found => found.map visibleText
  | _ => none

def Returned.text? : Returned → Option String
  | .text found => found
  | _ => none

/-- What can happen between two calls: functions are called on any threads, those on plain objects among them,
and the host runs code of its own. -/
inductive Interlude where
  | function (caller : Thread) (called : Function)
  | objectNew
  | objectRetain (object : Pointer)
  | objectRelease (object : Pointer)
  | objectRetainCount (object : Pointer)
  | host (operation : HostM Unit)

namespace Interlude

def after : Interlude → World → World
  | .function caller called, world => called.after caller world
  | .objectNew, world => (Export.objectNew.run world).2
  | .objectRetain object, world => ((Export.objectRetain object).run world).2
  | .objectRelease object, world => ((Export.objectRelease object).run world).2
  | .objectRetainCount object, world => ((Export.objectRetainCount object).run world).2
  | .host operation, world => (HostM.runOn operation world).2

def afterAll : List Interlude → World → World
  | [], world => world
  | interlude :: rest, world => afterAll rest (interlude.after world)

end Interlude

end Export

end HeapBridge
