import HeapBridge.Session.Run
/-!
Running operations that have a state and can fail. What a composed operation comes to is told by what
its parts come to; a failure keeps the state as it was left. A call to the host comes to what the host makes
of it.
-/
namespace HeapBridge

open Host (HostM Ref)

variable {σ α β ε : Type}

/-- An operation goes on with what the one before it has left, unless that has failed. -/
theorem run_bind (first : ExceptT ε (StateM σ) α) (next : α → ExceptT ε (StateM σ) β) (state : σ) :
    (first >>= next).run.run state =
      match first.run.run state with
      | (.ok value, after) => (next value).run.run after
      | (.error error, after) => (.error error, after) := by
  rw [ExceptT.run_bind, StateT.run_bind]
  rcases first.run.run state with ⟨error | value, after⟩ <;> rfl

theorem run_get (next : σ → ExceptT ε (StateM σ) α) (state : σ) :
    (get >>= next).run.run state = (next state).run.run state := rfl

/-- A handler starts where the failed operation stopped. -/
theorem run_tryCatch (operation : ExceptT ε (StateM σ) α) (handler : ε → ExceptT ε (StateM σ) α)
    (state : σ) :
    (tryCatch operation handler).run.run state =
      match operation.run.run state with
      | (.ok value, after) => (.ok value, after)
      | (.error error, after) => (handler error).run.run after := by
  simp only [tryCatch, tryCatchThe, MonadExceptOf.tryCatch, ExceptT.tryCatch, ExceptT.mk, ExceptT.run,
    StateT.run, bind, StateT.bind]
  rcases operation state with ⟨error | value, after⟩ <;> rfl

/-- An error that is taken for a result. -/
theorem run_attempt (operation : ExceptT ε (StateM σ) α) (state : σ) :
    (tryCatch (Except.ok <$> operation) fun error => pure (Except.error error) :
      ExceptT ε (StateM σ) (Except ε α)).run.run state =
      (.ok (operation.run.run state).1, (operation.run.run state).2) := by
  rw [run_tryCatch, ExceptT.run_map, StateT.run_map]
  rcases operation.run.run state with ⟨error | value, after⟩ <;> rfl

/-- What is done at the end is done whatever has come of the operation. -/
theorem run_finally (operation : ExceptT ε (StateM σ) α) (change : σ → σ) (state : σ) :
    (tryFinally operation (modify change) : ExceptT ε (StateM σ) α).run.run state =
      ((operation.run.run state).1, change (operation.run.run state).2) := by
  rcases hRun : operation.run.run state with ⟨error | value, after⟩ <;>
    simp only [ExceptT.run, StateT.run] at hRun <;>
    simp [tryFinally, MonadFinally.tryFinally', ExceptT.mk, ExceptT.run, ExceptT.map, StateT.run,
      StateT.bind, Functor.map, bind, hRun] <;>
    rfl

namespace BridgeM

/-- The exception of a call that faults is fetched, so what is pending afterwards was so before. -/
theorem run_attempt_host (operation : HostM α) (world : World) :
    (attempt operation).run.run world =
      (.ok (HostM.runOn operation world).1, (HostM.runOn operation world).2) := by
  have hCall : (modifyGet (World.call operation) : BridgeM (Option α)).run.run world =
      (.ok (world.call operation).1, (world.call operation).2) := rfl
  rw [attempt, run_bind, hCall, World.call]
  rcases HostM.runOn operation world with ⟨fault | value, after⟩ <;> rfl

theorem attempt_eq (operation : HostM α) : attempt operation = modifyGet (HostM.runOn operation) :=
  funext (run_attempt_host operation)

/-- A host operation as a part of an operation of the bridge: a fault is reported. -/
theorem run_host (explain : String → BridgeError) (operation : HostM α) (world : World) :
    (host explain operation).run.run world =
      match HostM.runOn operation world with
      | (.ok value, after) => (.ok value, after)
      | (.error fault, after) =>
        (.error (explain (after.textFrom (Host.report Host.ops fault)).1),
          (after.textFrom (Host.report Host.ops fault)).2) := by
  rw [host, run_bind, run_attempt_host]
  rcases HostM.runOn operation world with ⟨fault | value, after⟩ <;> rfl

end BridgeM

namespace HostCall

/-- An iteration over a set of its own starts without the host; any other asks the host for an iterator. -/
theorem run_started (set : Ref) (world : World) :
    (started set).run.run world =
      match ForeignSet.ownElements? set world.host with
      | some table =>
        (.ok (.ok world.cursors.size), (world.startCursor (.elements set 0 table.size false)).2)
      | none =>
        match HostM.runOn (Host.iterate Host.ops set) world with
        | (.ok iterator, after) => (.ok (.ok after.cursors.size), (after.startCursor (.object iterator)).2)
        | (.error fault, after) => (.ok (.error fault), after) := by
  rw [started, run_get]
  cases ForeignSet.ownElements? set world.host with
  | some table => rfl
  | none =>
    dsimp only
    rw [run_bind, BridgeM.run_attempt_host]
    rcases HostM.runOn (Host.iterate Host.ops set) world with ⟨fault | iterator, after⟩ <;> rfl

/-- What is made of a call: an answer stays one, and a fault is reported. -/
theorem run_contract (call : HostCall) (world : World) :
    call.contract.run.run world =
      match call.outcome.run.run world with
      | (.ok (.ok answer), after) => (.ok answer, after)
      | (.ok (.error fault), after) =>
        (.error (.contractViolation call.operation (after.textFrom (Host.report Host.ops fault)).1),
          (after.textFrom (Host.report Host.ops fault)).2)
      | (.error error, after) => (.error error, after) := by
  rw [contract, run_bind]
  rcases call.outcome.run.run world with ⟨error | fault | answer, after⟩ <;> rfl

end HostCall

/-! What the bridge makes of the programs for foreign sets: each call is one of an operation of the host. -/

namespace ForeignSet

theorem contains_eq (backing : Ref) (item : NativeValue) :
    contains backing item = (do
      let item ← item.toHost
      BridgeM.keeping [item] (BridgeM.contract .contains (Host.contains Host.ops backing item))) := rfl

theorem add_eq (backing : Ref) (item : NativeValue) :
    add backing item = (do
      let item ← item.toHost
      SetProgram.command [item] (BridgeM.contract .add (Host.call Host.ops backing "add" [item]))) := rfl

theorem remove_eq (backing : Ref) (item : NativeValue) :
    remove backing item = (do
      let item ← item.toHost
      SetProgram.command [item] (BridgeM.contract .remove (Host.call Host.ops backing "discard" [item]))) := rfl

theorem removeAll_eq (backing : Ref) :
    removeAll backing =
      SetProgram.command [] (BridgeM.contract .removeAll (Host.call Host.ops backing "clear" [])) := rfl

theorem count_eq (backing : Ref) :
    count backing = BridgeM.contract .count (Host.length Host.ops backing) := rfl

/-- Iterating as one program: with a table at hand the host is not asked. -/
theorem iterate_eq (backing : Ref) :
    iterate backing = (do
      match ownElements? backing (← get).host with
      | some table => modifyGet (World.startCursor (.elements backing 0 table.size false))
      | none =>
        let iterator ← BridgeM.contract .iterate (Host.iterate Host.ops backing)
        modifyGet (World.startCursor (.object iterator))) := by
  refine funext fun world => ?_
  change (HostCall.start backing).contract.run.run world = _
  rw [HostCall.run_contract, HostCall.outcome, HostCall.run_started]
  change _ = (get >>= fun world => _ : BridgeM Nat).run.run world
  rw [run_get]
  cases ownElements? backing world.host with
  | some table => rfl
  | none =>
    dsimp only
    rw [run_bind, BridgeM.contract, BridgeM.run_host]
    rcases HostM.runOn (Host.iterate Host.ops backing) world with ⟨fault | iterator, after⟩ <;> rfl

theorem nextValue_eq (number : Nat) : nextValue number = next number >>= elementValue := rfl

/-- The search goes on past each element that does not match, and gives it back first. -/
theorem findEqual_succ (iterator needle : Ref) (steps : Nat) :
    findEqual iterator needle (steps + 1) = (do
      match ← BridgeM.contract .iterate (Host.next Host.ops iterator) with
      | none => return none
      | some element =>
        match ← BridgeM.keeping [element] (matched? element needle) with
        | some value => return some value
        | none => findEqual iterator needle steps) := by
  refine bind_congr fun element => ?_
  cases element with
  | none => rfl
  | some element =>
    refine bind_congr fun found => ?_
    cases found <;> rfl

theorem anyElement_eq (backing : Ref) :
    anyElement backing = (do
      let iterator ← BridgeM.contract .iterate (Host.iterate Host.ops backing)
      BridgeM.keeping [iterator]
        (BridgeM.contract .iterate (Host.next Host.ops iterator) >>= elementValue)) := rfl

theorem mutableCopy_eq (backing : Ref) :
    mutableCopy backing = (do
      let copy ← BridgeM.contract .copy (Host.call Host.ops backing "copy" [])
      modify (·.hold copy)
      create copy) := rfl

end ForeignSet

end HeapBridge
