import HeapBridge.Proofs.Ownership.Conversions
/-!
What the exported functions take over and hand on. They leave a last error behind, which is nothing to anyone
who owns anything, and otherwise do what the operation behind them does. A release takes over one reference if
it says that it did, and a function that makes a proxy uses up in any case what it is given for it.
-/
namespace HeapBridge

open Host (Ref)
open Estate

variable {α : Type} {may : Deed → Prop} {others taken : Estate} {world : World}

/-- Whether a function leaves alone what is owned outside, wherever it runs. -/
def Quiet {σ : Type} [Holder σ] (function : StateM σ α) : Prop :=
  ∀ may others state, Hands may others state 0 function fun _ => 0

def Pointer.reference : Pointer → Estate
  | .native address => oneReference address
  | _ => 0

def objectEstate (object : Option Nat) : Estate := object.elim 0 oneReference

/-- The references that come with a host object, if there is one. -/
def refClaims (ref : Option Ref) : Multiset Ref := ref.elim 0 fun ref => {ref}

namespace Export

/-- A failed operation leaves its message with the thread, and answers by the sentinel. -/
theorem run_guarded (thread : Thread) (failed : α) (operation : BridgeM α) (world : World) :
    (guarded thread failed operation).run world =
      match operation.run.run (world.clearLastError thread) with
      | (.ok value, after) => (value, after)
      | (.error error, after) => (failed, after.setLastError thread error.message) := by
  unfold guarded
  rw [StateT.run_bind]
  change (operation.run >>= _ : ExportM α).run (world.clearLastError thread) = _
  rw [StateT.run_bind]
  rcases operation.run.run (world.clearLastError thread) with ⟨error | value, after⟩ <;> rfl

/-- A guarded operation takes over and hands on what the operation does; a failure hands on nothing. -/
theorem hands_guarded {thread : Thread} {failed : α} {operation : BridgeM α}
    {given : α → Estate} (hFailed : given failed = 0)
    (hOperation : Transfers may others (world.clearLastError thread) taken operation given) :
    Hands may others world taken (guarded thread failed operation) given := by
  unfold Hands
  rw [run_guarded]
  unfold Transfers Hands at hOperation
  have hClear : Steps may (Holder.ledger (taken + others) world)
      (Holder.ledger (taken + others) (world.clearLastError thread)) := by
    simp only [ledger_world]
    exact world.steps_lastErrors _
  rcases hRun : operation.run.run (world.clearLastError thread) with ⟨error | value, after⟩ <;>
    rw [hRun] at hOperation
  · refine (hClear.trans hOperation).trans ?_
    simpa only [onSuccess_error, hFailed, ledger_world] using after.steps_setLastError thread _
  · exact hClear.trans hOperation

theorem quiet_guarded {operation : BridgeM α} (thread : Thread) (failed : α)
    (hOperation : Neutral operation) : Quiet (guarded thread failed operation) :=
  fun may others _ => hands_guarded rfl (hOperation may others _)

theorem quiet_status {operation : BridgeM Unit} (thread : Thread) (hOperation : Neutral operation) :
    Quiet (status thread operation) :=
  quiet_guarded thread _ (.bind hOperation fun _ => .pure)

theorem quiet_flag {operation : BridgeM Bool} (thread : Thread) (hOperation : Neutral operation) :
    Quiet (flag thread operation) :=
  quiet_guarded thread _ (.bind hOperation fun _ => .pure)

theorem hands_status {thread : Thread} {operation : BridgeM Unit}
    (hOperation : Transfers may others (world.clearLastError thread) 0 operation fun _ => 0) :
    Hands may others world 0 (status thread operation) fun _ => 0 :=
  hands_guarded rfl (.bind hOperation fun _ _ _ => .pure rfl)

theorem neutral_setArgument (set : Pointer) : Neutral (setArgument set) := by
  cases set with
  | native address =>
    refine .get fun world => ?_
    split
    · exact .pure
    · exact .throw
  | _ => exact .throw

theorem neutral_itemArgument (item : Option Ref) : Neutral (itemArgument item) := by
  cases item with
  | none => exact .throw
  | some ref => exact .pure

theorem run_textArgument (text : Option (List UInt8)) (world : World) :
    (textArgument text).run.run world = (readText text, world) :=
  BridgeM.run_finish _ world

theorem neutral_textArgument (text : Option (List UInt8)) : Neutral (textArgument text) :=
  fun _ _ _ => BridgeM.transfers_finish (onSuccess_zero _).symm

/-- What follows a text argument runs with the text that was read. -/
theorem transfers_textArgument {text : Option (List UInt8)} {next : String → BridgeM α}
    {given : α → Estate}
    (hNext : ∀ read, readText text = .ok read → Transfers may others world 0 (next read) given) :
    Transfers may others world 0 (textArgument text >>= next) given := by
  refine .bind (neutral_textArgument text may others world) fun read middle hRun => ?_
  rw [run_textArgument, Prod.mk.injEq] at hRun
  obtain ⟨hRead, rfl⟩ := hRun
  exact hNext read hRead

theorem neutral_outputArgument (given : Bool) : Neutral (outputArgument given) := by
  cases given with
  | false => exact .throw
  | true => exact .pure

theorem hands_init (thread : Thread)
    (hMay : ∀ wrapper ∈ builtinWrappers, may (.registration wrapper)) (hBuiltins : may .builtins) :
    Hands may others world 0 (init thread) fun _ => 0 :=
  hands_status (transfers_installBuiltins hMay hBuiltins)

/-- The reference to the host value is used up, whether a proxy comes of it or not. -/
theorem hands_setNew (thread : Thread) (value : Option Ref) :
    Hands may others world (ofHost (refClaims value)) (setNew thread value) objectEstate := by
  refine hands_guarded rfl ?_
  cases value with
  | none => exact .bind (neutral_itemArgument none may others _) fun _ _ hRun => by cases hRun
  | some ref =>
    exact .via (fun found => ofHost {found}) (.pure rfl) fun found _ _ =>
      .bind (ForeignSet.transfers_create found) fun _ _ _ => .pure rfl

theorem hands_setAllocate (thread : Thread) :
    Hands may others world 0 (setAllocate thread) storageEstate := by
  refine hands_guarded rfl (.bind (ForeignSet.transfers_reserve .foreignSet) fun storage _ _ => ?_)
  cases storage with
  | some address => exact .pure (add_zero _)
  | none => exact .throw

/-- Storage is used up or given back, whatever comes of the initialisation, and so is the reference to the host
value. -/
theorem hands_setInit (thread : Thread) (storage : Option Nat) (value : Option Ref) :
    Hands may others world (storageEstate storage + ofHost (refClaims value)) (setInit thread storage value)
      objectEstate := by
  refine hands_guarded rfl ?_
  cases value with
  | some value =>
    exact .bind (ForeignSet.transfers_initialise storage value) fun _ _ _ => .pure rfl
  | none =>
    rw [refClaims, Option.elim_none, ofHost_zero, add_zero]
    refine .via (fun _ => 0) (transfers_modify ?_) fun _ _ _ => .throw
    rw [zero_add]
    cases storage with
    | none => exact (zero_add others).symm ▸ .refl
    | some address => exact (Step.discard address rfl).toSteps

theorem quiet_setHostObject (thread : Thread) (set : Pointer) : Quiet (setHostObject thread set) :=
  quiet_guarded thread _ (.bind (neutral_setArgument set) fun _ => .pure)

theorem quiet_isForeignSet (thread : Thread) (object : Pointer) :
    Quiet (isForeignSet thread object) := by
  refine quiet_guarded thread _ ?_
  cases object with
  | native address => exact .get fun _ => .pure
  | _ => exact .pure

theorem quiet_setContains (thread : Thread) (set : Pointer) (item : Option Ref) :
    Quiet (setContains thread set item) :=
  quiet_flag thread <|
    .bind (neutral_setArgument set) fun _ =>
      .bind (neutral_itemArgument item) fun _ => ForeignSet.neutral_contains _ _

theorem quiet_setAdd (thread : Thread) (set : Pointer) (item : Option Ref) :
    Quiet (setAdd thread set item) :=
  quiet_status thread <|
    .bind (neutral_setArgument set) fun _ =>
      .bind (neutral_itemArgument item) fun _ => ForeignSet.neutral_add _ _

theorem quiet_setRemove (thread : Thread) (set : Pointer) (item : Option Ref) :
    Quiet (setRemove thread set item) :=
  quiet_status thread <|
    .bind (neutral_setArgument set) fun _ =>
      .bind (neutral_itemArgument item) fun _ => ForeignSet.neutral_remove _ _

theorem quiet_setCount (thread : Thread) (set : Pointer) : Quiet (setCount thread set) :=
  quiet_guarded thread _ <|
    .bind (neutral_setArgument set) fun _ =>
      .bind (ForeignSet.neutral_count _) fun _ => .pure

theorem quiet_setIterate (thread : Thread) (set : Pointer) : Quiet (setIterate thread set) :=
  quiet_guarded thread _ <|
    .bind (neutral_setArgument set) fun _ => .bind (ForeignSet.neutral_iterate _) fun _ => .pure

/-- What an iterator hands out, the caller has a reference to. -/
theorem hands_iteratorNext {thread : Thread} {iterator : Option Nat} {output : Bool}
    (hMay : ∀ number, iterator = some number → may (.cursor number)) :
    Hands may others world 0 (iteratorNext thread iterator output)
      fun outcome => ofHost (refClaims outcome.2) := by
  refine hands_guarded rfl ?_
  cases iterator with
  | none => exact .throw
  | some number =>
    refine .bind (neutral_outputArgument output _ _ _) fun _ _ _ =>
      .bind (ForeignSet.transfers_next (hMay number rfl)) fun element _ _ => ?_
    cases element with
    | none => exact .pure rfl
    | some element => exact .bind (transfers_hold element) fun _ _ _ => .pure rfl

/-- Giving an iterator up needs leave for its cursor. -/
theorem hands_iteratorFree {thread : Thread} {iterator : Option Nat}
    (hMay : ∀ number, iterator = some number → may (.cursor number)) :
    Hands may others world 0 (iteratorFree thread iterator) fun _ => 0 := by
  refine hands_guarded rfl ?_
  cases iterator with
  | none => exact .pure rfl
  | some number =>
    exact transfers_modify (ForeignSet.steps_dropIterator (hMay number rfl) _)

/-- A native address is a set as long as a live object with a backing is stored there. -/
theorem run_setArgument_native (address : Nat) (world : World) :
    (setArgument (.native address)).run.run world =
      (match world.native.backing? address with
        | some backing => .ok backing
        | none => .error (.invalidArgument .notForeignSet), world) := by
  simp only [setArgument]
  change (match world.native.backing? address with
    | some backing => pure backing
    | none => throw _ : BridgeM Ref).run.run world = _
  cases world.native.backing? address <;> rfl

/-- Releasing through the set interface is refused for all that is not a set, and leaves such objects alone. -/
theorem run_setRelease_native (thread : Thread) (address : Nat) (world : World) :
    (setRelease thread (.native address)).run world =
      match world.native.backing? address with
      | some _ => (true, (world.clearLastError thread).releaseNative address)
      | none => (false, (world.clearLastError thread).setLastError thread
          (BridgeError.invalidArgument .notForeignSet).message) := by
  rw [setRelease, run_guarded, run_bind, run_setArgument_native,
    show (world.clearLastError thread).native = world.native from rfl]
  cases world.native.backing? address <;> rfl

/-- A release of a foreign set takes over a reference to it; a release of anything else takes over
nothing, and says so. -/
theorem hands_setRelease (thread : Thread) (set : Pointer) :
    Hands may others world (if ((setRelease thread set).run world).1 then set.reference else 0)
      (setRelease thread set) fun _ => 0 := by
  cases set with
  | native address =>
    unfold Hands
    rw [run_setRelease_native]
    cases world.native.backing? address with
    | some backing =>
      simp only [ledger_world, zero_add, if_true]
      exact (world.steps_lastErrors _).trans (World.steps_releaseNative address _)
    | none =>
      simp only [ledger_world, zero_add, Bool.false_eq_true, if_false]
      exact (world.steps_lastErrors _).trans (World.steps_setLastError thread _ _)
  | null => exact quiet_guarded thread _ .pure may others world
  | _ => exact quiet_guarded thread _ .throw may others world

/-- A registration may be refused for its texts or for a converter that is missing before the registry is asked. -/
theorem hands_register {thread : Thread} {typeId name : Option (List UInt8)}
    {toHost : Option ToHost} {fromHost : Option FromHost}
    (hMay : ∀ typeIdText nameText outward inward, readText typeId = .ok typeIdText →
      readText name = .ok nameText → toHost = some outward → fromHost = some inward →
      may (.registration ⟨typeIdText, nameText, outward, inward⟩)) :
    Hands may others world 0 (register thread typeId name toHost fromHost) fun _ => 0 := by
  refine hands_status (transfers_textArgument fun typeIdText hTypeId =>
    transfers_textArgument fun nameText hName => ?_)
  split
  next outward inward =>
    exact transfers_register (hMay typeIdText nameText outward inward hTypeId hName rfl rfl)
  next => exact .throw

/-- Counted types are registered with the discipline of native objects. -/
theorem hands_registerCounted {thread : Thread} {typeId name : Option (List UInt8)}
    (hMay : ∀ typeIdText nameText, readText typeId = .ok typeIdText → readText name = .ok nameText →
      may (.registration (.owning typeIdText nameText .nativeObject))) :
    Hands may others world 0 (registerCounted thread typeId name) fun _ => 0 :=
  hands_status <| transfers_textArgument fun typeIdText hTypeId =>
    transfers_textArgument fun nameText hName =>
      transfers_register (hMay typeIdText nameText hTypeId hName)

theorem hands_registerFramework {thread : Thread} {typeId : Option (List UInt8)}
    (hMay : ∀ text, readText typeId = .ok text → may (.registration (.framework text))) :
    Hands may others world 0 (registerFramework thread typeId) fun _ => 0 :=
  hands_status <| transfers_textArgument fun text hText => transfers_register (hMay text hText)

/-- A conversion hands over one reference if it succeeds. -/
theorem hands_toHost {thread : Thread} {typeId : Option (List UInt8)} {pointer : Pointer}
    (hMay : ∀ text, readText typeId = .ok text →
      ∀ deed, world.registry.Converts text (world.resolve pointer) deed → may deed)
    (hKept : pointer.KeptIn ⟨others.1, world⟩) :
    Hands may others world 0 (toHost thread typeId pointer) fun ref => ofHost (refClaims ref) :=
  hands_guarded rfl <| transfers_textArgument fun text hText =>
    .bind (transfers_toHost (hMay text hText) hKept) fun _ _ _ => .pure rfl

/-- Going inward takes nothing from the caller, who goes on owning the host value. -/
theorem quiet_fromHost (thread : Thread) (typeId : Option (List UInt8)) (value : Option Ref)
    (output : Bool) : Quiet (fromHost thread typeId value output) :=
  quiet_guarded thread _ <|
    .bind (neutral_textArgument typeId) fun typeId =>
      .bind (neutral_outputArgument output) fun _ =>
        .bind (neutral_itemArgument value) fun value =>
          .bind (neutral_fromHost typeId value) fun _ => .pure

theorem quiet_hasWrapper (thread : Thread) (typeId : Option (List UInt8)) :
    Quiet (hasWrapper thread typeId) := by
  refine quiet_guarded thread _ ?_
  split
  · exact .get fun _ => .pure
  · exact .pure

/-- Describing looks the wrapper up, and makes a text at most. -/
theorem quiet_describe (thread : Thread) (signature : Option (List UInt8)) :
    Quiet (describe thread signature) := by
  refine quiet_guarded thread _ (.bind (neutral_textArgument signature) fun signature =>
    .get fun world => ?_)
  split
  · rw [map_eq_pure_bind]
    refine .bind (fun may others world => .stepsGet ?_) fun _ => .pure
    simp only [ledger_world, zero_add]
    exact (Step.told world.lastErrors _).toSteps
  · exact .pure

/-- A plain object is there once its storage could be reserved. -/
theorem run_objectNew (world : World) :
    objectNew.run world =
      match world.reserve .plain with
      | (some address, after) =>
        (some address, { after with native := after.native.install address .plain })
      | (none, after) => (none, after) := by
  have hReserve : (modifyGet (World.reserve .plain) : ExportM (Option Nat)).run world =
      world.reserve .plain := rfl
  rw [objectNew, StateT.run_bind, hReserve]
  rcases world.reserve .plain with ⟨_ | address, after⟩ <;> rfl

/-- The caller has the one reference to the object. -/
theorem hands_objectNew : Hands may others world 0 objectNew objectEstate := by
  have hReserve : Steps may ⟨others, world⟩
      ⟨storageEstate (world.reserve .plain).1 + others, (world.reserve .plain).2⟩ :=
    (Step.reserve .plain rfl).toSteps
  unfold Hands
  rw [run_objectNew]
  rcases hRun : world.reserve .plain with ⟨_ | address, after⟩ <;> rw [hRun] at hReserve
  · simp only [ledger_world, zero_add]
    exact hReserve
  · simp only [ledger_world, zero_add]
    exact hReserve.tail (.install address (by decide) rfl rfl)

theorem steps_retainPointer {object : Pointer} (hKept : object.KeptIn ⟨others.1, world⟩) :
    Steps may ⟨others, world⟩
      ⟨object.reference + others, world.retainHandle .nativeObject object⟩ := by
  cases object with
  | native address => exact (Step.retain address (hKept address rfl) rfl).toSteps
  | _ => exact (zero_add others).symm ▸ .refl

theorem hands_objectRetain {object : Pointer} (hKept : object.KeptIn ⟨others.1, world⟩) :
    Hands may others world 0 (objectRetain object) Pointer.reference := by
  unfold Hands
  simp only [ledger_world, zero_add]
  exact steps_retainPointer hKept

/-- A release uses up the reference of the caller. -/
theorem hands_objectRelease (object : Pointer) :
    Hands may others world object.reference (objectRelease object) fun _ => 0 := by
  unfold Hands
  simp only [ledger_world, zero_add]
  cases object with
  | native address => exact World.steps_releaseNative address world
  | _ => exact (zero_add others).symm ▸ .refl

theorem quiet_objectRetainCount (object : Pointer) : Quiet (objectRetainCount object) := by
  cases object <;> exact fun _ _ _ => .refl

end Export

end HeapBridge
