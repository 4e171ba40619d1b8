import HeapBridge.Proofs.Registration.Poisoning
/-!
A poisoned registry is out of reach for everything that does not ask it. Whether it is poisoned makes no
difference to the commands on host objects, native objects, values, sets and iterators, nor to handles that
were made before: a run of such commands has the same replies, and that the registry is poisoned is the only
difference between what it leaves behind.
-/
namespace HeapBridge

open Host (HostM Ref)

variable {α β : Type} {poisoned : Bool} {session : Session}

namespace Export

theorem commutes_setLastError (thread : Thread) (text : String) :
    Commutes (World.poison poisoned) (World.setLastError thread text) := by
  intro world
  unfold World.setLastError
  dsimp only
  split <;> rfl

/-- A guarded call clears, fails and reports alike whatever state the lock is in. -/
theorem ignores_guarded {operation : BridgeM α}
    (hOperation : Overlooks (World.poison poisoned) operation) (thread : Thread) (failed : α) :
    Ignores (World.poison poisoned) (guarded thread failed operation) := by
  intro world
  have hRun := hOperation (world.clearLastError thread)
  rw [run_guarded, run_guarded]
  rw [show (world.poison poisoned).clearLastError thread =
    (world.clearLastError thread).poison poisoned from rfl, hRun]
  rcases operation.run.run (world.clearLastError thread) with ⟨error | value, after⟩
  · exact congrArg (Prod.mk failed) (commutes_setLastError thread error.message after)
  · rfl

theorem ignores_flag {operation : BridgeM Bool}
    (hOperation : Overlooks (World.poison poisoned) operation) (thread : Thread) :
    Ignores (World.poison poisoned) (flag thread operation) :=
  ignores_guarded (.bind hOperation fun _ => .pure) thread (-1)

theorem ignores_status {operation : BridgeM Unit}
    (hOperation : Overlooks (World.poison poisoned) operation) (thread : Thread) :
    Ignores (World.poison poisoned) (status thread operation) :=
  ignores_guarded (.bind hOperation fun _ => .pure) thread (-1)

/-- Arguments are checked without the registry. -/
theorem overlooks_setArgument (set : Pointer) :
    Overlooks (World.poison poisoned) (setArgument set) := by
  cases set with
  | native address =>
    refine .get (fun _ => rfl) fun world => ?_
    cases world.native.backing? address with
    | some backing => exact .pure
    | none => exact .throw
  | _ => exact .throw

theorem overlooks_itemArgument (item : Option Ref) :
    Overlooks (World.poison poisoned) (itemArgument item) := by
  cases item with
  | some ref => exact .pure
  | none => exact .throw

theorem overlooks_outputArgument (given : Bool) :
    Overlooks (World.poison poisoned) (outputArgument given) := by
  cases given with
  | true => exact .pure
  | false => exact .throw

theorem ignores_setNew (thread : Thread) (value : Option Ref) :
    Ignores (World.poison poisoned) (setNew thread value) :=
  ignores_guarded (.bind (overlooks_itemArgument value) fun ref =>
    .bind (ForeignSet.overlooks_create ref) fun _ => .pure) thread none

theorem ignores_setAllocate (thread : Thread) :
    Ignores (World.poison poisoned) (setAllocate thread) := by
  refine ignores_guarded (.bind (.modifyGet (World.reserve_alter .foreignSet)) fun storage => ?_)
    thread none
  cases storage with
  | some address => exact .pure
  | none => exact .throw

theorem ignores_setInit (thread : Thread) (storage : Option Nat) (value : Option Ref) :
    Ignores (World.poison poisoned) (setInit thread storage value) := by
  refine ignores_guarded ?_ thread none
  cases value with
  | some ref => exact .bind (ForeignSet.overlooks_initialise storage ref) fun _ => .pure
  | none => exact .bind (.modify fun _ => rfl) fun _ => .throw

theorem ignores_setHostObject (thread : Thread) (set : Pointer) :
    Ignores (World.poison poisoned) (setHostObject thread set) :=
  ignores_guarded (.bind (overlooks_setArgument set) fun _ => .pure) thread none

theorem ignores_isForeignSet (thread : Thread) (object : Pointer) :
    Ignores (World.poison poisoned) (isForeignSet thread object) := by
  refine ignores_guarded ?_ thread 0
  cases object with
  | native address => exact .get (fun _ => rfl) fun _ => .pure
  | _ => exact .pure

theorem ignores_setContains (thread : Thread) (set : Pointer) (item : Option Ref) :
    Ignores (World.poison poisoned) (setContains thread set item) :=
  ignores_flag (.bind (overlooks_setArgument set) fun _ =>
    .bind (overlooks_itemArgument item) fun _ => ForeignSet.overlooks_contains _ _) thread

theorem ignores_setAdd (thread : Thread) (set : Pointer) (item : Option Ref) :
    Ignores (World.poison poisoned) (setAdd thread set item) :=
  ignores_status (.bind (overlooks_setArgument set) fun _ =>
    .bind (overlooks_itemArgument item) fun _ => ForeignSet.overlooks_add _ _) thread

theorem ignores_setRemove (thread : Thread) (set : Pointer) (item : Option Ref) :
    Ignores (World.poison poisoned) (setRemove thread set item) :=
  ignores_status (.bind (overlooks_setArgument set) fun _ =>
    .bind (overlooks_itemArgument item) fun _ => ForeignSet.overlooks_remove _ _) thread

theorem ignores_setCount (thread : Thread) (set : Pointer) :
    Ignores (World.poison poisoned) (setCount thread set) :=
  ignores_guarded (.bind (overlooks_setArgument set) fun _ =>
    .bind (ForeignSet.overlooks_count _) fun _ => .pure) thread (-1)

theorem ignores_setIterate (thread : Thread) (set : Pointer) :
    Ignores (World.poison poisoned) (setIterate thread set) :=
  ignores_guarded (.bind (overlooks_setArgument set) fun _ =>
    .bind (ForeignSet.overlooks_iterate _) fun _ => .pure) thread none

/-- Iterators do without it as well. -/
theorem ignores_iteratorNext (thread : Thread) (iterator : Option Nat) (output : Bool) :
    Ignores (World.poison poisoned) (iteratorNext thread iterator output) := by
  refine ignores_guarded ?_ thread (-1, none)
  cases iterator with
  | none => exact .throw
  | some iterator =>
    refine .bind (overlooks_outputArgument output) fun _ =>
      .bind (ForeignSet.overlooks_next iterator) fun element => ?_
    cases element with
    | some ref => exact .bind (overlooks_hold ref) fun _ => .pure
    | none => exact .pure

theorem ignores_iteratorFree (thread : Thread) (iterator : Option Nat) :
    Ignores (World.poison poisoned) (iteratorFree thread iterator) := by
  refine ignores_guarded ?_ thread ()
  cases iterator with
  | some number => exact .modify (World.commutes_dropIterator number)
  | none => exact .pure

/-- So do releases. -/
theorem ignores_setRelease (thread : Thread) (set : Pointer) :
    Ignores (World.poison poisoned) (setRelease thread set) := by
  refine ignores_guarded ?_ thread false
  cases set with
  | null => exact .pure
  | native address =>
    exact .bind (overlooks_setArgument _) fun _ =>
      .bind (.modify (World.commutes_releaseNative address)) fun _ => .pure
  | _ => exact .throw

theorem ignores_objectNew : Ignores (World.poison poisoned) objectNew := by
  intro world
  have hReserve : (world.poison poisoned).reserve .plain =
      ((world.reserve .plain).1, (world.reserve .plain).2.poison poisoned) :=
    World.reserve_alter .plain world
  rw [run_objectNew, run_objectNew, hReserve]
  rcases world.reserve .plain with ⟨_ | address, after⟩ <;> rfl

theorem ignores_objectRetain (object : Pointer) :
    Ignores (World.poison poisoned) (objectRetain object) :=
  fun world => congrArg (Prod.mk object) (World.commutes_retainHandle .nativeObject object world)

theorem ignores_objectRelease (object : Pointer) :
    Ignores (World.poison poisoned) (objectRelease object) := by
  intro world
  cases object with
  | native address => exact congrArg (Prod.mk ()) (World.commutes_releaseNative address world)
  | _ => rfl

theorem ignores_objectRetainCount (object : Pointer) :
    Ignores (World.poison poisoned) (objectRetainCount object) := by
  intro world
  cases object <;> rfl

end Export

namespace Session

def poison (poisoned : Bool) (session : Session) : Session :=
  { session with world := session.world.poison poisoned }

/-- Slots that know nothing of the lock are read the same. -/
theorem overlooks_content {slots : Session → Slots α}
    (hSlots : ∀ session, slots (poison poisoned session) = slots session) (name : String) :
    Overlooks (poison poisoned) (content slots name) := by
  refine .get (fun session => by rw [hSlots]) fun session => ?_
  cases (slots session).get? name with
  | some found => exact .pure
  | none => exact .throw

theorem overlooks_modifyWorld {step : World → World} (hStep : Commutes (World.poison poisoned) step) :
    Overlooks (poison poisoned) (modifyWorld step) :=
  .modify fun session => congrArg (fun world => { session with world }) (hStep session.world)

/-- Commands overlook what the operations of the bridge overlook. -/
theorem overlooks_bridge {operation : BridgeM α}
    (hOperation : Overlooks (World.poison poisoned) operation) :
    Overlooks (poison poisoned) (bridge operation) := by
  intro session
  have hRun := hOperation session.world
  rw [run_bridge, run_bridge]
  rw [show (poison poisoned session).world = session.world.poison poisoned from rfl, hRun]
  rfl

/-- The same for exported functions, which do not fail. -/
theorem overlooks_exported {function : Export.ExportM α}
    (hFunction : Ignores (World.poison poisoned) function) :
    Overlooks (poison poisoned) (exported function) := by
  intro session
  have hRun := hFunction session.world
  rw [run_exported, run_exported]
  rw [show (poison poisoned session).world = session.world.poison poisoned from rfl, hRun]
  rfl

theorem overlooks_modifyGetWorld {step : World → α × World}
    (hStep : ∀ world, step (world.poison poisoned) = ((step world).1, (step world).2.poison poisoned)) :
    Overlooks (poison poisoned) (modifyGet (fun session =>
      ((step session.world).1, { session with world := (step session.world).2 })) : SessionM α) := by
  refine .modifyGet fun session => ?_
  rw [show (poison poisoned session).world = session.world.poison poisoned from rfl, hStep]
  rfl

theorem overlooks_failFor (fault : Host.Fault) :
    Overlooks (poison poisoned) (failFor fault : SessionM α) :=
  .bind (overlooks_modifyGetWorld (World.textFrom_alter _)) fun _ => .throw

theorem overlooks_host (operation : HostM α) : Overlooks (poison poisoned) (host operation) := by
  refine .bind (overlooks_modifyGetWorld (HostM.runOn_alter operation)) fun result => ?_
  cases result with
  | ok value => exact .pure
  | error fault => exact overlooks_failFor fault

theorem overlooks_build (literal : Host.Literal) : Overlooks (poison poisoned) (build literal) := by
  refine .get (fun _ => rfl) fun session => .bind (overlooks_host _) fun built => ?_
  cases built with
  | ok ref => exact .pure
  | error name => exact .throw

theorem overlooks_buildEach (literals : List Host.Literal) :
    Overlooks (poison poisoned) (buildEach literals) := by
  induction literals with
  | nil => exact .pure
  | cons literal rest ih => exact .bind (overlooks_build literal) fun _ => .bind ih fun _ => .pure

theorem overlooks_hold (ref : Ref) : Overlooks (poison poisoned) (modifyWorld (World.hold ref)) :=
  overlooks_modifyWorld fun _ => rfl

theorem overlooks_unhold (ref : Ref) : Overlooks (poison poisoned) (modifyWorld (World.unhold ref)) :=
  overlooks_modifyWorld fun _ => rfl

theorem overlooks_letGo (ref : Ref) : Overlooks (poison poisoned) (modifyWorld (World.letGo ref)) :=
  overlooks_modifyWorld (World.commutes_letGo ref)

/-- Arguments are borrowed before the call and given back after it, registry or not. -/
theorem overlooks_withArguments {action : SessionM Ref} (arguments : List Ref)
    (hAction : Overlooks (poison poisoned) action) :
    Overlooks (poison poisoned) (withArguments arguments action) := by
  have hLetGo : Overlooks (poison poisoned) (modifyWorld fun world =>
      arguments.foldl (fun world ref => world.letGo ref) world) :=
    overlooks_modifyWorld (World.commutes_letGoAll arguments)
  refine .bind (overlooks_modifyWorld fun _ => rfl) fun _ => ?_
  refine .bind (hAction.handled fun failure => .bind hLetGo fun _ => .throw) fun answer => ?_
  exact .bind (overlooks_hold answer) fun _ => .bind hLetGo fun _ =>
    .bind (overlooks_unhold answer) fun _ => .pure

theorem overlooks_keepHost (name : String) (ref : Ref) :
    Overlooks (poison poisoned) (keepHost name ref) := by
  refine .get (fun _ => rfl) fun session => .bind (overlooks_hold ref) fun _ =>
    .bind (.modify fun _ => rfl) fun _ => ?_
  cases session.hosts.get? name with
  | some slot => exact overlooks_letGo slot.ref
  | none => exact .pure

theorem overlooks_showAndKeep (name : Option String) (ref : Ref) :
    Overlooks (poison poisoned) (showAndKeep name ref) := by
  cases name with
  | some name => exact .bind (overlooks_keepHost name ref) fun _ => .get (fun _ => rfl) fun _ => .pure
  | none =>
    exact .get (fun _ => rfl) fun _ =>
      .bind (overlooks_modifyWorld (World.commutes_release [ref])) fun _ => .pure

theorem overlooks_keepObject (name : String) (address : Nat) :
    Overlooks (poison poisoned) (keepObject name address) := by
  refine .get (fun _ => rfl) fun session => .bind (.modify fun _ => rfl) fun _ => ?_
  cases session.objects.get? name with
  | some slot =>
    exact overlooks_modifyWorld (.repeat (World.commutes_releaseNative slot.address) slot.owned)
  | none => exact .pure

theorem overlooks_dropNative (value : NativeValue) :
    Overlooks (poison poisoned) (modifyWorld value.drop) :=
  overlooks_modifyWorld value.commutes_drop

/-- Slots are filled without it. -/
theorem overlooks_keepValue (name : Option String) (value : NativeValue) :
    Overlooks (poison poisoned) (keepValue name value) := by
  cases name with
  | some name =>
    refine .get (fun _ => rfl) fun session => .bind (.modify fun _ => rfl) fun _ => ?_
    cases session.values.get? name with
    | some old => exact overlooks_dropNative old
    | none => exact .pure
  | none => exact overlooks_dropNative value

theorem overlooks_showAndKeepValue (name : Option String) (value : NativeValue) :
    Overlooks (poison poisoned) (showAndKeepValue name value) := by
  refine .get (fun session => ?_) fun session => .bind (overlooks_keepValue name value) fun _ => .pure
  cases value <;> rfl

theorem overlooks_backing (name : String) : Overlooks (poison poisoned) (backing name) := by
  refine .bind (overlooks_content (fun _ => rfl) name) fun slot => .get (fun _ => rfl) fun session => ?_
  cases session.world.native.backing? slot.address with
  | some ref => exact .pure
  | none => exact .throw

theorem overlooks_hostOf (name : String) : Overlooks (poison poisoned) (hostOf name) :=
  .bind (overlooks_content (fun _ => rfl) name) fun _ => .pure

theorem overlooks_dropHost (name : String) : Overlooks (poison poisoned) (dropHost name) := by
  refine .get (fun _ => rfl) fun session => ?_
  cases session.hosts.get? name with
  | some slot => exact .bind (.modify fun _ => rfl) fun _ => .bind (overlooks_letGo slot.ref) fun _ => .pure
  | none => exact .pure

theorem overlooks_attributeOf (ref : Ref) (name : String) :
    Overlooks (poison poisoned) (attributeOf ref name) := by
  refine .get (fun _ => rfl) fun session => ?_
  split
  · exact .pure
  · exact .bind (overlooks_host _) fun found => .bind (overlooks_showAndKeep none found) fun _ => .pure

/-- Values are made of literals without it as well. -/
theorem overlooks_makeValue (literal : NativeLiteral) :
    Overlooks (poison poisoned) (makeValue literal) := by
  cases literal with
  | host value => exact .bind (overlooks_build value) fun ref => .bind (overlooks_hold ref) fun _ => .pure
  | set name =>
    refine .bind (overlooks_content (fun _ => rfl) name) fun slot => .get (fun _ => rfl) fun session => ?_
    cases session.world.native.backing? slot.address with
    | some ref => exact .bind (overlooks_modifyWorld fun _ => rfl) fun _ => .pure
    | none => exact .throw
  | slot name =>
    refine .bind (overlooks_content (fun _ => rfl) name) fun value =>
      .bind (overlooks_modifyWorld ?_) fun _ => .pure
    cases value <;> exact fun _ => rfl
  | _ => exact .pure

theorem overlooks_usingValue {action : NativeValue → SessionM α} (literal : NativeLiteral)
    (hAction : ∀ value, Overlooks (poison poisoned) (action value)) :
    Overlooks (poison poisoned) (usingValue literal action) :=
  .bind (overlooks_makeValue literal) fun value => .tryFinally (hAction value) fun session =>
    congrArg (fun world => { session with world }) (value.commutes_drop session.world)

theorem overlooks_dropValue (name : String) : Overlooks (poison poisoned) (dropValue name) := by
  refine .get (fun _ => rfl) fun session => ?_
  cases session.values.get? name with
  | some value =>
    exact .bind (.modify fun _ => rfl) fun _ => .bind (overlooks_dropNative value) fun _ => .pure
  | none => exact .pure

theorem overlooks_buildOwned (literal : Host.Literal) :
    Overlooks (poison poisoned) (buildOwned literal) :=
  .bind (overlooks_build literal) fun ref => .bind (overlooks_hold ref) fun _ => .pure

theorem overlooks_takeStorage (name : String) (nativeClass : Native.NativeClass) :
    Overlooks (poison poisoned) (takeStorage name nativeClass) := by
  refine .get (fun _ => rfl) fun session => ?_
  split
  · split
    · exact .bind (.modify fun _ => rfl) fun _ => .pure
    · exact .pure
  · exact .pure

theorem overlooks_reserve? (nativeClass : Native.NativeClass) :
    Overlooks (poison poisoned) (reserve? nativeClass) :=
  overlooks_modifyGetWorld (World.reserve_alter nativeClass)

theorem overlooks_reserve (nativeClass : Native.NativeClass) :
    Overlooks (poison poisoned) (reserve nativeClass) := by
  refine .bind (overlooks_reserve? nativeClass) fun storage => ?_
  cases storage with
  | some address => exact .pure
  | none => exact .throw

theorem overlooks_chosenStorage (choice : StorageChoice) :
    Overlooks (poison poisoned) (chosenStorage choice) := by
  cases choice with
  | unavailable => exact .pure
  | fresh => exact overlooks_reserve? .foreignSet
  | slot name => exact overlooks_takeStorage name .foreignSet

theorem overlooks_withItem {action : Ref → NativeValue → BridgeM α} (slot : String)
    (item : NativeLiteral)
    (hAction : ∀ ref value, Overlooks (World.poison poisoned) (action ref value)) :
    Overlooks (poison poisoned) (withItem slot item action) :=
  overlooks_usingValue item fun value => .bind (overlooks_backing slot) fun ref =>
    overlooks_bridge (hAction ref value)

theorem overlooks_dropValues (values : List NativeValue) :
    Overlooks (poison poisoned) (dropValues values) :=
  overlooks_modifyWorld (.foldl NativeValue.commutes_drop values)

/-- Draining an iterator is a row of steps. -/
theorem overlooks_collectFrom (iterator : Nat) (taken : List NativeValue) (steps : Nat) :
    Overlooks (poison poisoned) (collectFrom iterator taken steps) := by
  induction steps generalizing taken with
  | zero =>
    exact .bind (overlooks_dropValues taken) fun _ =>
      .bind (overlooks_bridge (BridgeM.overlooks_contract _ _)) nofun
  | succ steps ih =>
    refine .bind (.handled (overlooks_bridge (ForeignSet.overlooks_nextValue iterator)) fun failure =>
      .bind (overlooks_dropValues taken) fun _ => .throw) fun element => ?_
    cases element with
    | some value => exact ih (taken ++ [value])
    | none => exact .pure

theorem overlooks_allElements (ref : Ref) : Overlooks (poison poisoned) (allElements ref) :=
  .bind (overlooks_bridge (ForeignSet.overlooks_iterate ref)) fun iterator =>
    .tryFinally (overlooks_collectFrom iterator [] Host.stepLimit) fun session =>
      congrArg (fun world => { session with world }) (World.commutes_dropIterator iterator session.world)

theorem overlooks_dropIterator (number : Nat) :
    Overlooks (poison poisoned) (modifyWorld (ForeignSet.dropIterator number)) :=
  overlooks_modifyWorld (World.commutes_dropIterator number)

theorem overlooks_keepIteration (name : String) (iteration : Iteration) :
    Overlooks (poison poisoned) (keepIteration name iteration) := by
  refine .get (fun _ => rfl) fun session => .bind (.modify fun _ => rfl) fun _ => ?_
  cases session.iterations.get? name with
  | some old => exact overlooks_dropIterator old.number
  | none => exact .pure

theorem overlooks_startIteration (slot name : String) (stepping : Stepping) :
    Overlooks (poison poisoned) (startIteration slot name stepping) :=
  .bind (overlooks_backing slot) fun ref =>
    .bind (overlooks_bridge (ForeignSet.overlooks_iterate ref)) fun _ =>
      .get (fun _ => rfl) fun _ => .bind (overlooks_keepIteration name _) fun _ => .pure

theorem overlooks_dropIteration (name : String) :
    Overlooks (poison poisoned) (dropIteration name) := by
  refine .get (fun _ => rfl) fun session => ?_
  cases session.iterations.get? name with
  | some iteration =>
    exact .bind (.modify fun _ => rfl) fun _ =>
      .bind (overlooks_dropIterator iteration.number) fun _ => .pure
  | none => exact .pure

/-- Each step goes by the cursor alone. -/
theorem overlooks_stepIteration (iteration : Iteration) :
    Overlooks (poison poisoned) (stepIteration iteration) := by
  unfold stepIteration
  split
  · refine .bind (overlooks_bridge (ForeignSet.overlooks_nextValue _)) fun element => ?_
    cases element with
    | some value => exact .bind (overlooks_showAndKeepValue none value) fun _ => .pure
    | none => exact .pure
  · refine .bind (overlooks_bridge (ForeignSet.overlooks_next _)) fun element => ?_
    cases element with
    | some ref => exact .bind (overlooks_showAndKeep none ref) fun _ => .pure
    | none => exact .pure
  · refine .bind (overlooks_exported (Export.ignores_iteratorNext thread _ true)) fun result => ?_
    obtain ⟨status, element⟩ := result
    cases element with
    | some ref =>
      exact .bind (overlooks_unhold ref) fun _ => .bind (overlooks_showAndKeep none ref) fun _ => .pure
    | none => exact .pure

theorem overlooks_advance (name : String) : Overlooks (poison poisoned) (advance name) := by
  refine .bind (overlooks_content (fun _ => rfl) name) fun iteration =>
    .bind (overlooks_stepIteration iteration) fun step => ?_
  cases step with
  | element form => exact .bind (.modify fun _ => rfl) fun _ => .pure
  | finished => exact .pure
  | failed => exact .get (fun _ => rfl) fun _ => .pure

/-- An element is picked by its place in the iteration. -/
theorem overlooks_someElement (slot : String) (result : Option String) :
    Overlooks (poison poisoned) (someElement slot result) := by
  refine .bind (overlooks_backing slot) fun ref =>
    .bind (overlooks_bridge (ForeignSet.overlooks_anyElement ref)) fun element => ?_
  cases element with
  | some value =>
    refine .get (fun _ => rfl) fun session => ?_
    split
    · exact .bind (overlooks_keepValue none value) fun _ => .pure
    · exact .bind (overlooks_showAndKeepValue result value) fun _ => .pure
  | none => exact .pure

theorem overlooks_installAs (slot : String) (address : Nat) (payload : Native.Payload) :
    Overlooks (poison poisoned) (installAs slot address payload) :=
  .bind (overlooks_modifyWorld fun _ => rfl) fun _ => overlooks_keepObject slot address

theorem overlooks_referTo (address : Nat) (nativeClass : Native.NativeClass) (other : Option String) :
    Overlooks (poison poisoned) (referTo address nativeClass other) :=
  .bind (overlooks_modifyWorld fun _ => rfl) fun _ => .get (fun _ => rfl) fun _ =>
    .get (fun _ => rfl) fun _ =>
      .bind (overlooks_modifyWorld (World.commutes_releaseNative address)) fun _ =>
        .get (fun _ => rfl) fun _ => .pure

theorem overlooks_makePointer (literal : PointerLiteral) :
    Overlooks (poison poisoned) (makePointer literal) := by
  cases literal with
  | native slot => exact .bind (overlooks_content (fun _ => rfl) slot) fun _ => .pure
  | host slot => exact .bind (overlooks_hostOf slot) fun _ => .pure
  | _ => exact .pure

theorem overlooks_objectArgument (slot : Option String) :
    Overlooks (poison poisoned) (objectArgument slot) := by
  cases slot with
  | none => exact .pure
  | some slot => exact .bind (overlooks_content (fun _ => rfl) slot) fun _ => .pure

/-- What a command is handed is made before it starts. -/
theorem overlooks_withHostArgument {action : Option Ref → SessionM α} (literal : Option Host.Literal)
    (hAction : ∀ ref, Overlooks (poison poisoned) (action ref)) :
    Overlooks (poison poisoned) (withHostArgument literal action) := by
  cases literal with
  | none => exact hAction none
  | some literal =>
    exact .bind (overlooks_build literal) fun ref => .bind (overlooks_hold ref) fun _ =>
      .tryFinally (hAction (some ref)) fun session =>
        congrArg (fun world => { session with world }) (World.commutes_letGo ref session.world)

theorem overlooks_ownedArgument (literal : Option Host.Literal) :
    Overlooks (poison poisoned) (ownedArgument literal) := by
  cases literal with
  | none => exact .pure
  | some literal => exact .map some (overlooks_buildOwned literal)

theorem overlooks_iteratorArgument (name : Option String) :
    Overlooks (poison poisoned) (iteratorArgument name) := by
  refine .get (fun _ => rfl) fun session => ?_
  split <;> exact .pure

theorem overlooks_reply (answer : Answer) : Overlooks (poison poisoned) (reply answer) :=
  .get (fun _ => rfl) fun _ => .pure

theorem overlooks_slotName (name : Option String) : Overlooks (poison poisoned) (slotName name) := by
  cases name with
  | some name => exact .pure
  | none => exact .throw

theorem overlooks_replyObject (slot : Option String) (address : Option Nat) :
    Overlooks (poison poisoned) (replyObject slot address) := by
  cases address with
  | some address =>
    exact .bind (overlooks_slotName slot) fun name => .bind (overlooks_keepObject name address) fun _ =>
      overlooks_reply _
  | none => exact overlooks_reply _

theorem overlooks_replyHost (result : Option String) (ref : Option Ref) :
    Overlooks (poison poisoned) (replyHost result ref) := by
  cases ref with
  | some ref => exact .bind (overlooks_showAndKeep result ref) fun _ => overlooks_reply _
  | none => exact overlooks_reply _

theorem overlooks_onItem {function : Option Ref → Export.ExportM Int} (item : Option Host.Literal)
    (hFunction : ∀ ref, Ignores (World.poison poisoned) (function ref)) :
    Overlooks (poison poisoned) (onItem item function) :=
  overlooks_withHostArgument item fun ref =>
    .bind (overlooks_exported (hFunction ref)) fun _ => overlooks_reply _

theorem overlooks_storageArgument (slot : Option String) :
    Overlooks (poison poisoned) (storageArgument slot) := by
  cases slot with
  | none => exact .pure
  | some slot => exact overlooks_takeStorage slot .foreignSet

theorem overlooks_disownArgument (slot : Option String) :
    Overlooks (poison poisoned) (disownArgument slot) := by
  refine .modify fun session => ?_
  cases slot with
  | none => rfl
  | some name =>
    rw [Option.elim, Option.elim, poison, disowned_with_world, poison, disowned_world]

theorem overlooks_ownArgument (slot : Option String) :
    Overlooks (poison poisoned) (ownArgument slot) := by
  refine .modify fun session => ?_
  cases slot with
  | none => rfl
  | some name =>
    simp only [Option.elim, owning, poison]
    cases session.objects.get? name <;> rfl

/-- An exported iteration goes through the cursors of the world. -/
theorem overlooks_iterateExported (object : Pointer) (iteration : Option String) :
    Overlooks (poison poisoned) (iterateExported object iteration) := by
  refine .bind (overlooks_exported (Export.ignores_setIterate thread object)) fun number => ?_
  cases number with
  | some number =>
    refine .get (fun session => ?_) fun session => ?_
    · cases object <;> rfl
    · exact .bind (overlooks_slotName iteration) fun name =>
        .bind (overlooks_keepIteration name _) fun _ => overlooks_reply _
  | none => exact overlooks_reply _

end Session

open Session

/-- Host code never sees the registry. -/
theorem HostCommand.overlooks_run (command : HostCommand) :
    Overlooks (poison poisoned) command.run := by
  cases command with
  | bind slot value =>
    exact .bind (overlooks_build value) fun ref => .bind (overlooks_showAndKeep _ ref) fun _ => .pure
  | «show» slot => exact .bind (overlooks_hostOf slot) fun _ => .get (fun _ => rfl) fun _ => .pure
  | drop slot => exact .bind (overlooks_dropHost slot) fun _ => .pure
  | references slot =>
    exact .bind (overlooks_content (fun _ => rfl) slot) fun _ => .get (fun _ => rfl) fun _ => .pure
  | identical left right =>
    exact .bind (overlooks_hostOf left) fun _ => .bind (overlooks_hostOf right) fun _ => .pure
  | equal left right =>
    exact .bind (overlooks_hostOf left) fun _ => .bind (overlooks_hostOf right) fun _ =>
      .bind (overlooks_host _) fun _ => .pure
  | sameHash left right =>
    exact .bind (overlooks_hostOf left) fun _ => .bind (overlooks_hostOf right) fun _ =>
      .bind (overlooks_host _) fun _ => .bind (overlooks_host _) fun _ => .pure
  | call slot method arguments result =>
    exact .bind (overlooks_hostOf slot) fun _ => .bind (overlooks_buildEach arguments) fun _ =>
      .bind (overlooks_withArguments _ (overlooks_host _)) fun value =>
        .bind (overlooks_showAndKeep result value) fun _ => .pure
  | getAttribute slot name =>
    exact .bind (overlooks_hostOf slot) fun ref => overlooks_attributeOf ref name
  | setAttribute slot name value =>
    exact .bind (overlooks_hostOf slot) fun _ => .bind (overlooks_build value) fun _ =>
      .bind (overlooks_host _) fun _ => .pure
  | describe slot =>
    exact .bind (overlooks_hostOf slot) fun _ => .bind (overlooks_host _) fun _ =>
      .get (fun _ => rfl) fun _ => .pure

/-- Values are kept apart from it. -/
theorem ValueCommand.overlooks_run (command : ValueCommand) :
    Overlooks (poison poisoned) command.run := by
  cases command with
  | bind slot value =>
    exact .bind (overlooks_makeValue value) fun value =>
      .bind (overlooks_showAndKeepValue slot value) fun _ => .pure
  | fromHost slot value =>
    exact .bind (overlooks_build value) fun ref =>
      .bind (overlooks_bridge (BridgeM.overlooks_keeping [ref] (NativeValue.overlooks_fromHost ref)))
        fun value => .bind (overlooks_showAndKeepValue slot value) fun _ => .pure
  | toHost slot result =>
    exact .bind (overlooks_content (fun _ => rfl) slot) fun value =>
      .bind (overlooks_bridge value.overlooks_toHost) fun ref =>
        .bind (overlooks_showAndKeep result ref) fun _ => .pure
  | scalars slot => exact .bind (overlooks_content (fun _ => rfl) slot) fun _ => .pure
  | proxy slot =>
    refine .bind (overlooks_content (fun _ => rfl) slot) fun value => ?_
    cases value with
    | set address => exact .get (fun _ => rfl) fun _ => .pure
    | _ => exact .pure
  | drop slot => exact .bind (overlooks_dropValue slot) fun _ => .pure

/-- Sets are reached by address and not by identifier. -/
theorem SetCommand.overlooks_run (command : SetCommand) :
    Overlooks (poison poisoned) command.run := by
  cases command with
  | create slot value =>
    exact .bind (overlooks_buildOwned value) fun ref =>
      .bind (overlooks_bridge (ForeignSet.overlooks_create ref)) fun address =>
        .bind (overlooks_keepObject slot address) fun _ => .pure
  | initialise slot storage value =>
    exact .bind (overlooks_buildOwned value) fun ref => .bind (overlooks_chosenStorage storage) fun _ =>
      .bind (overlooks_bridge (ForeignSet.overlooks_initialise _ ref)) fun address =>
        .bind (overlooks_keepObject slot address) fun _ => .pure
  | contains slot item =>
    exact .bind (overlooks_withItem slot item fun ref value => ForeignSet.overlooks_contains ref value)
      fun _ => .pure
  | add slot item =>
    exact .bind (overlooks_withItem slot item fun ref value => ForeignSet.overlooks_add ref value)
      fun _ => .pure
  | remove slot item =>
    exact .bind (overlooks_withItem slot item fun ref value => ForeignSet.overlooks_remove ref value)
      fun _ => .pure
  | removeAll slot =>
    exact .bind (overlooks_backing slot) fun ref =>
      .bind (overlooks_bridge (ForeignSet.overlooks_removeAll ref)) fun _ => .pure
  | count slot =>
    exact .bind (overlooks_backing slot) fun ref =>
      .bind (overlooks_bridge (ForeignSet.overlooks_count ref)) fun _ => .pure
  | member slot item result =>
    refine .bind (overlooks_withItem slot item fun ref value => ForeignSet.overlooks_member ref value)
      fun found => ?_
    cases found with
    | some value => exact .bind (overlooks_showAndKeepValue result value) fun _ => .pure
    | none => exact .pure
  | anyElement slot result => exact overlooks_someElement slot result
  | copy slot result =>
    exact .bind (overlooks_backing slot) fun ref =>
      .bind (overlooks_bridge (ForeignSet.overlooks_mutableCopy ref)) fun address =>
        .bind (overlooks_keepObject result address) fun _ => .pure
  | hostValue slot result =>
    exact .bind (overlooks_backing slot) fun ref => .bind (overlooks_showAndKeep result ref) fun _ => .pure
  | collect slot =>
    refine .bind (overlooks_backing slot) fun ref => .bind (overlooks_allElements ref) fun values =>
      .get (fun session => ?_) fun session => ?_
    · have hForm : nativeFormOf (poison poisoned session) = nativeFormOf session :=
        funext fun value => by cases value <;> rfl
      rw [hForm]
    · exact .bind (overlooks_dropValues values) fun _ => .get (fun _ => rfl) fun _ => .pure
  | iterate slot iteration => exact overlooks_startIteration slot iteration .native
  | cursor slot iteration => exact overlooks_startIteration slot iteration .cursor
  | next iteration => exact overlooks_advance iteration
  | dropIteration iteration => exact .bind (overlooks_dropIteration iteration) fun _ => .pure

/-- Retaining and releasing goes by the class of an object. -/
theorem ObjectCommand.overlooks_run (command : ObjectCommand) :
    Overlooks (poison poisoned) command.run := by
  cases command with
  | create slot nativeClass =>
    exact .bind (overlooks_reserve nativeClass) fun address =>
      .bind (overlooks_installAs slot address _) fun _ => .pure
  | destroyed => exact .get (fun _ => rfl) fun _ => .bind (overlooks_modifyWorld fun _ => rfl) fun _ => .pure
  | retainAs slot other =>
    exact .bind (overlooks_content (fun _ => rfl) slot) fun _ =>
      .bind (overlooks_modifyWorld fun _ => rfl) fun _ => .bind (overlooks_keepObject other _) fun _ => .pure
  | info slot =>
    cases slot with
    | none => exact .pure
    | some slot =>
      exact .bind (overlooks_content (fun _ => rfl) slot) fun _ => .get (fun _ => rfl) fun _ => .pure
  | reference slot nativeClass other =>
    cases slot with
    | none => exact .pure
    | some slot =>
      refine .bind (overlooks_content (fun _ => rfl) slot) fun slot => .get (fun _ => rfl) fun session => ?_
      split
      · exact .bind (overlooks_referTo slot.address nativeClass other) fun _ => .pure
      · exact .pure
  | reserve slot nativeClass =>
    exact .bind (overlooks_reserve nativeClass) fun _ => .bind (.modify fun _ => rfl) fun _ => .pure
  | install storage slot =>
    refine .bind (overlooks_takeStorage storage .tracked) fun address => ?_
    cases address with
    | some address => exact .bind (overlooks_installAs slot address _) fun _ => .pure
    | none => exact .throw
  | discard storage =>
    refine .get (fun _ => rfl) fun session => ?_
    split
    · exact .bind (.modify fun _ => rfl) fun _ => .bind (overlooks_modifyWorld fun _ => rfl) fun _ => .pure
    · exact .pure

/-- The log is read as it is. -/
theorem RecordCommand.overlooks_run (command : RecordCommand) :
    Overlooks (poison poisoned) command.run := by
  cases command with
  | setLastError text =>
    exact .bind (overlooks_modifyWorld (Export.commutes_setLastError thread text)) fun _ =>
      .get (fun _ => rfl) fun _ => .pure
  | clearLastError =>
    exact .bind (overlooks_modifyWorld fun _ => rfl) fun _ => .get (fun _ => rfl) fun _ => .pure
  | lastError => exact .get (fun _ => rfl) fun _ => .pure
  | log => exact .get (fun _ => rfl) fun _ => .bind (overlooks_modifyWorld fun _ => rfl) fun _ => .pure

def WrapperCommand.consults : WrapperCommand → Bool
  | .externalCalls | .makeHandle _ _ _ _ _ | .extractPointer _ _ => false
  | _ => true

def ExportCommand.consults : ExportCommand → Bool
  | .init | .register _ _ _ _ | .registerCounted _ _ | .registerFramework _ | .hasWrapper _
  | .describe _ | .toHost _ _ _ | .fromHost _ _ _ => true
  | _ => false

/-- Whether a command asks the registry for something or registers something. -/
def Command.consults : Command → Bool
  | .wrapper command => command.consults
  | .exported call => call.command.consults
  | _ => false

/-- Of the commands on wrappers, those that consult the registry are exactly the ones set aside. -/
theorem WrapperCommand.overlooks_run {command : WrapperCommand} (hAside : command.consults = false) :
    Overlooks (Session.poison poisoned) command.run := by
  cases command with
  | externalCalls => exact .get (fun _ => rfl) fun _ => .bind (.modify fun _ => rfl) fun _ => .pure
  | makeHandle typeId name pointer discipline result =>
    exact .bind (overlooks_makePointer pointer) fun pointer =>
      .bind (overlooks_bridge (overlooks_makeHandle typeId name pointer discipline)) fun ref =>
        .bind (overlooks_showAndKeep result ref) fun _ => .pure
  | extractPointer value typeId =>
    exact .bind (overlooks_build value) fun _ => .bind (overlooks_host _) fun _ =>
      .get (fun _ => rfl) fun _ => .pure
  | _ => cases hAside

/-- Of the exported calls, those that consult it are set aside just so. -/
theorem ExportCommand.overlooks_runOn {command : ExportCommand} (hAside : command.consults = false)
    (slot : Option String) (object : Pointer) :
    Overlooks (poison poisoned) (command.runOn slot object) := by
  cases command with
  | lastError => exact .get (fun _ => rfl) fun _ => .pure
  | clearLastError => exact .bind (overlooks_modifyWorld fun _ => rfl) fun _ => overlooks_reply _
  | setNew name value =>
    exact .bind (overlooks_ownedArgument value) fun ref =>
      .bind (overlooks_exported (Export.ignores_setNew thread ref)) fun address =>
        overlooks_replyObject name address
  | setAllocate name =>
    refine .bind (overlooks_exported (Export.ignores_setAllocate thread)) fun address => ?_
    cases address with
    | some address => exact .bind (.modify fun _ => rfl) fun _ => overlooks_reply _
    | none => exact overlooks_reply _
  | setInit name storage value =>
    exact .bind (overlooks_ownedArgument value) fun ref => .bind (overlooks_storageArgument storage)
      fun address => .bind (overlooks_exported (Export.ignores_setInit thread address ref)) fun made =>
        overlooks_replyObject name made
  | setHostObject result =>
    exact .bind (overlooks_exported (Export.ignores_setHostObject thread object)) fun ref =>
      overlooks_replyHost result ref
  | isForeignSet =>
    exact .bind (overlooks_exported (Export.ignores_isForeignSet thread object)) fun _ =>
      overlooks_reply _
  | setContains item => exact overlooks_onItem item (Export.ignores_setContains thread object)
  | setAdd item => exact overlooks_onItem item (Export.ignores_setAdd thread object)
  | setRemove item => exact overlooks_onItem item (Export.ignores_setRemove thread object)
  | setCount =>
    exact .bind (overlooks_exported (Export.ignores_setCount thread object)) fun _ => overlooks_reply _
  | setIterate iteration => exact overlooks_iterateExported object iteration
  | iteratorNext iteration output =>
    refine .bind (overlooks_iteratorArgument iteration) fun iterator =>
      .bind (overlooks_exported (Export.ignores_iteratorNext thread iterator output)) fun result => ?_
    obtain ⟨status, element⟩ := result
    refine .bind (overlooks_modifyWorld ?_) fun _ => overlooks_reply _
    cases element with
    | some ref => exact World.commutes_letGo ref
    | none => exact fun _ => rfl
  | iteratorFree iteration =>
    exact .bind (overlooks_iteratorArgument iteration) fun iterator =>
      .bind (overlooks_exported (Export.ignores_iteratorFree thread iterator)) fun _ =>
        .bind (.modify fun _ => rfl) fun _ => overlooks_reply _
  | setRelease =>
    exact .bind (overlooks_exported (Export.ignores_setRelease thread object)) fun _ =>
      .bind (overlooks_disownArgument _) fun _ => overlooks_reply _
  | objectNew name =>
    exact .bind (overlooks_exported Export.ignores_objectNew) fun address =>
      overlooks_replyObject (some name) address
  | objectRetain =>
    exact .bind (overlooks_exported (Export.ignores_objectRetain object)) fun _ =>
      .bind (overlooks_ownArgument slot) fun _ => overlooks_reply _
  | objectRelease =>
    exact .bind (overlooks_exported (Export.ignores_objectRelease object)) fun _ =>
      .bind (overlooks_disownArgument slot) fun _ => overlooks_reply _
  | objectRetainCount =>
    exact .bind (overlooks_exported (Export.ignores_objectRetainCount object)) fun _ =>
      overlooks_reply _
  | unknown => exact .throw
  | _ => cases hAside

/-- All commands but those that consult the registry come to the same with the lock poisoned. -/
theorem Command.overlooks_run {command : Command} (hAside : command.consults = false) :
    Overlooks (poison poisoned) command.run := by
  cases command with
  | host command => exact command.overlooks_run
  | value command => exact command.overlooks_run
  | set command => exact command.overlooks_run
  | object command => exact command.overlooks_run
  | wrapper command => exact WrapperCommand.overlooks_run hAside
  | exported call =>
    exact .bind (overlooks_objectArgument call.object) fun object =>
      ExportCommand.overlooks_runOn hAside call.object object
  | record command => exact command.overlooks_run

/-- A writer that dies leaves nothing behind but a poisoned registry and an event, if that much. -/
theorem exists_run_dieRegistering (wrapper : PointerWrapper) (world : World) :
    ∃ (poisoned : Bool) (log : List Event), ((dieRegistering wrapper).run.run world).2 =
      World.poison poisoned { world with log } := by
  rw [run_dieRegistering]
  cases Registry.insertEvent wrapper (world.registry.insert wrapper) with
  | none => exact ⟨world.registry.poisoned, world.log, rfl⟩
  | some event =>
    dsimp only
    cases isIdentifier wrapper.typeId with
    | true => exact ⟨true, world.log ++ [event], rfl⟩
    | false => exact ⟨world.registry.poisoned, world.log ++ [event], rfl⟩

namespace Session

/-- A command that does not ask the registry comes to the same whether it is poisoned or not. -/
theorem perform_poison {command : Command} (hAside : command.consults = false) (session : Session) :
    perform command (poison poisoned session) =
      ((perform command session).1, poison poisoned (perform command session).2) := by
  have hRun : command.run.run.run (poison poisoned session) =
      ((command.run.run.run session).1, poison poisoned (command.run.run.run session).2) :=
    Command.overlooks_run hAside session
  have hPerform (session : Session) : perform command session =
      (outcome (command.run.run.run session).1, { (command.run.run.run session).2 with
        world := (command.run.run.run session).2.world.settle }) := rfl
  rw [hPerform, hPerform, hRun]
  exact congrArg (fun world => (_, { (command.run.run.run session).2 with world }))
    (World.commutes_settle (command.run.run.run session).2.world)

/-- So does a run of such commands. -/
theorem performAll_poison {commands : List Command}
    (hAside : ∀ command ∈ commands, command.consults = false) (session : Session) :
    performAll commands (poison poisoned session) =
      ((performAll commands session).1, poison poisoned (performAll commands session).2) := by
  induction commands generalizing session with
  | nil => rfl
  | cons command rest ih =>
    obtain ⟨hCommand, hRest⟩ := List.forall_mem_cons.mp hAside
    rw [performAll, performAll, perform_poison hCommand]
    dsimp only
    rw [ih hRest]

theorem performAll_cons (command : Command) (rest : List Command) (session : Session) :
    performAll (command :: rest) session =
      ((perform command session).1 :: (performAll rest (perform command session).2).1,
        (performAll rest (perform command session).2).2) := rfl

/-- A command that dies registering leaves nothing behind but a poisoned registry and an event, if that
much. -/
theorem exists_perform_poison (hSwept : session.world.Swept) (typeId : String) :
    ∃ (poisoned : Bool) (log : List Event), (perform (.wrapper (.poison typeId)) session).2 =
      poison poisoned { session with world := { session.world with log } } := by
  have hPerform : (perform (.wrapper (.poison typeId)) session).2 = { session with
      world := ((dieRegistering (.borrowing typeId "Poison")).run.run session.world).2.settle } := by
    have hRun : ((Command.wrapper (.poison typeId)).run.run.run session).2 = { session with
        world := ((dieRegistering (.borrowing typeId "Poison")).run.run session.world).2 } := by
      refine congrArg Prod.snd (run_bind _ _ session) |>.trans ?_
      rw [run_bridge]
      rcases (dieRegistering (.borrowing typeId "Poison")).run.run session.world with ⟨_ | _, world⟩ <;>
        rfl
    rw [perform_snd, hRun]
  obtain ⟨poisoned, log, hDead⟩ :=
    exists_run_dieRegistering (.borrowing typeId "Poison") session.world
  have hStill : (World.poison poisoned { session.world with log }).Swept := hSwept
  exact ⟨poisoned, log, by rw [hPerform, hDead, hStill.settle, poison]⟩

/-- In every session whose registry is poisoned, the table stays as it is over every later run, and every
registration, conversion and listing fails. A run that does not ask the registry is the same run without the
poisoning: with the registry mended, and with the writer that would have died left out of it, whose event is
all that anyone could have noticed. -/
theorem poisoned_closed_apart (earlier later : List Command) (typeId : String) :
    let session := (performAll earlier {}).2
    (session.world.registry.poisoned = true →
      let after := (performAll later session).2
      after.world.registry.wrappers = session.world.registry.wrappers ∧
        after.world.registry.poisoned = true ∧ after.world.FailsClosed) ∧
    ((∀ command ∈ later, command.consults = false) →
      (session.world.registry.poisoned = true →
        let mended := performAll later (poison false session)
        performAll later session = (mended.1, poison true mended.2)) ∧
      (performAll (.wrapper (.poison typeId) :: .record .log :: later) session).1.drop 2 =
        (performAll (.record .log :: later) session).1.drop 1) := by
  intro session
  refine ⟨fun hPoisoned => ?_, fun hAside => ⟨fun hPoisoned => ?_, ?_⟩⟩
  · obtain ⟨hTable, hStill⟩ := poisoned_performAll hPoisoned later
    exact ⟨hTable, hStill, World.failsClosed hStill⟩
  · have hMended : poison true (poison false session) = session := by
      have hSession : poison session.world.registry.poisoned session = session := rfl
      rwa [hPoisoned] at hSession
    have hLater := @performAll_poison true later hAside (poison false session)
    rwa [hMended] at hLater
  · have hEmpty : ({} : Session).world.Swept := nofun
    have hSwept : session.world.Swept := swept_performAll hEmpty earlier
    obtain ⟨poisoned, log, hDead⟩ := exists_perform_poison hSwept typeId
    have hLogged : (perform (.record .log) (perform (.wrapper (.poison typeId)) session).2).2 =
        poison poisoned (perform (.record .log) session).2 := by
      rw [hDead, perform_poison rfl]
      rfl
    have hLater := @performAll_poison poisoned later hAside (perform (.record .log) session).2
    rw [performAll_cons, performAll_cons, performAll_cons, hLogged, hLater]
    rfl

/-- A native object goes out as a handle that owns a reference, and then a writer dies. -/
def handedOut : List Command :=
  [.wrapper (.registerOwning "T" "Kept" .nativeObject), .object (.create "a" .tracked),
    .wrapper (.toHost "T" (.native "a") (some "h")), .wrapper (.poison "U")]

/-- The native object and the handle are given up. -/
def givenUp : List Command :=
  [.host (.drop "h"), .exported ⟨some "a", .objectRelease⟩]

/-- The handle still gives its reference back, and the table keeps its wrapper. -/
theorem poisoned_closed_apart_handedOut :
    (performAll handedOut {}).2.world.registry.poisoned = true ∧
      (∀ command ∈ givenUp, command.consults = false) ∧
      (performAll givenUp (performAll handedOut {}).2).2.world.FailsClosed ∧
      (performAll (.wrapper (.poison "V") :: .record .log :: givenUp)
          (performAll handedOut {}).2).1.drop 2 =
        (performAll (.record .log :: givenUp) (performAll handedOut {}).2).1.drop 1 ∧
      (performAll givenUp (performAll handedOut {}).2).2.world.destroyed = ["a"] := by
  have hPoisoned : (performAll handedOut {}).2.world.registry.poisoned = true := by decide +kernel
  have hAside : ∀ command ∈ givenUp, command.consults = false := by decide
  obtain ⟨hClosed, hApart⟩ := poisoned_closed_apart handedOut givenUp "V"
  obtain ⟨hMended, hLeftOut⟩ := hApart hAside
  have hEnd : (performAll givenUp (poison false (performAll handedOut {}).2)).2.world.destroyed =
      ["a"] := by
    decide +kernel
  refine ⟨hPoisoned, hAside, (hClosed hPoisoned).2.2, hLeftOut, ?_⟩
  rw [hMended hPoisoned]
  exact hEnd

end Session

end HeapBridge
