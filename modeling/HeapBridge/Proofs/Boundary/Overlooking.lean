import HeapBridge.Proofs.Ownership.Exports
/-!
What operations overlook. An operation overlooks a change of the state if it comes to the same before and
after the change, and the change is then the only difference between what it leaves behind. The rules follow
the structure of an operation. Host code overlooks whatever becomes of the surroundings, and so does what
the bridge makes of it as long as it asks for nothing that is kept there.
-/
namespace HeapBridge

open Host (HostM Ref)

section Rules

variable {σ ε α β : Type} {change : σ → σ}

/-- Whether it makes no difference if a step comes before a change or after it. -/
def Commutes (change step : σ → σ) : Prop := ∀ state, step (change state) = change (step state)

/-- Whether an operation comes to the same before and after a change of the state. -/
def Ignores (change : σ → σ) (operation : StateM σ α) : Prop :=
  ∀ state, operation.run (change state) = ((operation.run state).1, change (operation.run state).2)

/-- The same for an operation that can fail. -/
def Overlooks (change : σ → σ) (operation : ExceptT ε (StateM σ) α) : Prop :=
  Ignores change operation.run

/-- A change that does not matter to one step does not matter to a row of them. -/
theorem Commutes.foldl {step : β → σ → σ} (hStep : ∀ item, Commutes change (step item))
    (items : List β) : Commutes change fun state => items.foldl (fun state item => step item state) state := by
  intro state
  induction items generalizing state with
  | nil => rfl
  | cons item rest ih =>
    have hFirst := congrArg (fun state => rest.foldl (fun state item => step item state) state)
      (hStep item state)
    exact hFirst.trans (ih (step item state))

/-- What commutes with a change does so any number of times. -/
theorem Commutes.repeat {step : σ → σ} (hStep : Commutes change step) (times : Nat) :
    Commutes change (Nat.repeat step times) := by
  intro state
  induction times with
  | zero => rfl
  | succ times ih =>
    simp only [Nat.repeat]
    rw [ih, hStep]

namespace Overlooks

theorem tryFinally {operation : ExceptT ε (StateM σ) α} {last : σ → σ}
    (hOperation : Overlooks change operation) (hLast : Commutes change last) :
    Overlooks change (tryFinally operation (modify last) : ExceptT ε (StateM σ) α) := by
  intro state
  rw [run_finally, run_finally, hOperation, hLast]

theorem pure {value : α} : Overlooks change (pure value : ExceptT ε (StateM σ) α) := fun _ => rfl

theorem throw {error : ε} : Overlooks change (throw error : ExceptT ε (StateM σ) α) := fun _ => rfl

theorem bind {first : ExceptT ε (StateM σ) α} {next : α → ExceptT ε (StateM σ) β}
    (hFirst : Overlooks change first) (hNext : ∀ value, Overlooks change (next value)) :
    Overlooks change (first >>= next) := by
  intro state
  rw [run_bind, run_bind, hFirst]
  rcases first.run.run state with ⟨error | value, after⟩
  · rfl
  · exact hNext value after

theorem map {operation : ExceptT ε (StateM σ) α} (f : α → β) (hOperation : Overlooks change operation) :
    Overlooks change (f <$> operation) := by
  rw [map_eq_pure_bind]
  exact hOperation.bind fun _ => .pure

/-- What is read from the state is not what is changed. -/
theorem get {next : σ → ExceptT ε (StateM σ) β} (hBlind : ∀ state, next (change state) = next state)
    (hNext : ∀ state, Overlooks change (next state)) : Overlooks change (get >>= next) := by
  intro state
  change (next (change state)).run.run (change state) =
    (((next state).run.run state).1, change ((next state).run.run state).2)
  rw [hBlind]
  exact hNext state state

theorem modify {step : σ → σ} (hStep : Commutes change step) :
    Overlooks change (modify step : ExceptT ε (StateM σ) Unit) :=
  fun state => congrArg (Prod.mk (Except.ok ())) (hStep state)

theorem modifyGet {step : σ → α × σ}
    (hStep : ∀ state, step (change state) = ((step state).1, change (step state).2)) :
    Overlooks change (modifyGet step : ExceptT ε (StateM σ) α) := by
  intro state
  change ((Except.ok (step (change state)).1 : Except ε α), (step (change state)).2) = _
  rw [hStep]
  rfl

theorem attempt {operation : ExceptT ε (StateM σ) α} (hOperation : Overlooks change operation) :
    Overlooks change (tryCatch (Except.ok <$> operation) fun error => Pure.pure (Except.error error) :
      ExceptT ε (StateM σ) (Except ε α)) := by
  intro state
  rw [run_attempt, run_attempt, hOperation]

/-- Handlers overlook what operations and handlers both overlook. -/
theorem handled {operation : ExceptT ε (StateM σ) α} {handler : ε → ExceptT ε (StateM σ) α}
    (hOperation : Overlooks change operation) (hHandler : ∀ error, Overlooks change (handler error)) :
    Overlooks change (tryCatch operation handler) := by
  intro state
  rw [run_tryCatch, run_tryCatch, hOperation]
  rcases operation.run.run state with ⟨error | value, after⟩
  · exact hHandler error after
  · rfl

end Overlooks

end Rules

variable {α : Type} {change : Surroundings → Surroundings}

/-- The same world with its surroundings changed. -/
def World.alter (change : Surroundings → Surroundings) (world : World) : World :=
  world.within (change world.surroundings)

/-- The same world with the registry poisoned, or not. -/
abbrev World.poison (poisoned : Bool) : World → World := World.alter fun kept => { kept with poisoned }

/-- Host code leaves the surroundings as they are. -/
theorem Host.HostM.surroundings_runOn (operation : HostM α) (world : World) :
    (HostM.runOn operation world).2.surroundings = world.surroundings := by
  have hBlind := operation.blind {} world world.surroundings
  rw [World.within_surroundings] at hBlind
  have hSame := congrArg (fun result => result.2.surroundings) hBlind
  exact hSame

theorem Host.HostM.runOn_alter (operation : HostM α) (world : World) :
    HostM.runOn operation (world.alter change) =
      ((HostM.runOn operation world).1, (HostM.runOn operation world).2.alter change) := by
  have hBlind := operation.blind {} world (change world.surroundings)
  rw [World.alter, World.alter, surroundings_runOn]
  exact hBlind

/-- What overlooks the surroundings in whatever they are changed leaves them as they are. -/
theorem surroundings_of_overlooks {operation : BridgeM α}
    (hOverlooks : ∀ change, Overlooks (World.alter change) operation) (world : World) :
    (operation.run.run world).2.surroundings = world.surroundings := by
  have hSame := hOverlooks (fun _ => world.surroundings) world
  have hKept : world.alter (fun _ => world.surroundings) = world := rfl
  rw [hKept] at hSame
  rw [hSame]
  rfl

/-- A step that does not matter to any change of the surroundings leaves them alone. -/
theorem World.surroundings_of_commutes {step : World → World}
    (hCommutes : ∀ change, Commutes (alter change) step) (world : World) :
    (step world).surroundings = world.surroundings := by
  have hSame := hCommutes (fun _ => world.surroundings) world
  have hKept : world.alter (fun _ => world.surroundings) = world := rfl
  rw [hKept] at hSame
  rw [hSame]
  rfl

namespace World

theorem commutes_release (refs : List Ref) : Commutes (alter change) (release refs) :=
  fun world => congrArg Prod.snd (HostM.runOn_alter (Host.ops.release refs) world)

theorem commutes_letGo (ref : Ref) : Commutes (alter change) (letGo ref) :=
  fun world => commutes_release [ref] (world.unhold ref)

theorem commutes_letGoAll (refs : List Ref) :
    Commutes (alter change) fun world => refs.foldl (fun world ref => world.letGo ref) world :=
  .foldl commutes_letGo refs

theorem commutes_settle : Commutes (alter change) settle :=
  fun world => congrArg Prod.snd (HostM.runOn_alter (Host.settle Host.ops) world)

/-- Releasing an object goes by the object alone. -/
theorem commutes_releaseNative (address : Nat) : Commutes (alter change) (releaseNative address) := by
  intro world
  have hDrop : (world.alter change).dropNative address =
      ((world.dropNative address).1, (world.dropNative address).2.alter change) := by
    rw [alter, dropNative_within]
    have hSame : (world.dropNative address).2.surroundings = world.surroundings := by
      have hBlind := dropNative_within address world world.surroundings
      rw [within_surroundings] at hBlind
      have hAfter := congrArg (fun result => result.2.surroundings) hBlind
      exact hAfter
    rw [alter, hSame]
  unfold releaseNative
  rw [hDrop]
  exact commutes_release _ _

theorem commutes_dropIterator (number : Nat) :
    Commutes (alter change) (ForeignSet.dropIterator number) :=
  fun world => commutes_release (world.cursor number).references (world.moveCursor number .finished)

theorem commutes_retainHandle (discipline : Discipline) (pointer : Pointer) :
    Commutes (alter change) (retainHandle discipline pointer) := by
  intro world
  cases discipline <;> cases pointer <;> rfl

theorem commutes_retainOwned (handle : Handle) : Commutes (alter change) (retainOwned handle) := by
  intro world
  obtain ⟨typeId, typeName, pointer, ownership⟩ := handle
  rcases ownership with _ | discipline
  · rfl
  · cases discipline <;> cases pointer <;> rfl

theorem reserve_alter (nativeClass : Native.NativeClass) (world : World) :
    (world.alter change).reserve nativeClass =
      ((world.reserve nativeClass).1, (world.reserve nativeClass).2.alter change) := by
  unfold reserve
  rw [show (world.alter change).refusals = world.refusals from rfl]
  split <;> rfl

theorem textFrom_alter (operation : HostM String) (world : World) :
    (world.alter change).textFrom operation =
      ((world.textFrom operation).1, (world.textFrom operation).2.alter change) := by
  unfold textFrom
  rw [HostM.runOn_alter]
  rcases HostM.runOn operation world with ⟨_ | text, after⟩ <;> rfl

end World

namespace BridgeM

theorem overlooks_finish (outcome : Except BridgeError α) :
    Overlooks (World.alter change) (finish outcome) := by
  cases outcome with
  | ok value => exact .pure
  | error error => exact .throw

theorem overlooks_attempt (operation : HostM α) : Overlooks (World.alter change) (attempt operation) := by
  rw [attempt_eq]
  exact .modifyGet (HostM.runOn_alter operation)

theorem overlooks_explained (explain : String → BridgeError) (fault : Host.Fault) :
    Overlooks (World.alter change) (explained explain fault : BridgeM α) :=
  .bind (.modifyGet (World.textFrom_alter _)) fun _ => .throw

theorem overlooks_host (explain : String → BridgeError) (operation : HostM α) :
    Overlooks (World.alter change) (host explain operation) := by
  refine .bind (overlooks_attempt operation) fun outcome => ?_
  cases outcome with
  | ok value => exact .pure
  | error fault => exact overlooks_explained explain fault

theorem overlooks_contract (operation : Operation) (call : HostM α) :
    Overlooks (World.alter change) (contract operation call) :=
  overlooks_host _ call

theorem overlooks_make (body : Host.Body) : Overlooks (World.alter change) (make body) :=
  .modifyGet fun _ => rfl

theorem overlooks_release (refs : List Ref) : Overlooks (World.alter change) (release refs) :=
  .modify (World.commutes_release refs)

theorem overlooks_keeping {operation : BridgeM α} (refs : List Ref)
    (hOperation : Overlooks (World.alter change) operation) :
    Overlooks (World.alter change) (keeping refs operation) :=
  .bind (.modify fun _ => rfl) fun _ => .bind hOperation.attempt fun outcome =>
    .bind (.modify (World.commutes_letGoAll refs)) fun _ => overlooks_finish outcome

end BridgeM

open BridgeM

theorem overlooks_hold (ref : Ref) :
    Overlooks (World.alter change) (modify (World.hold ref) : BridgeM Unit) :=
  .modify fun _ => rfl

namespace ForeignSet

theorem overlooks_initialise (storage : Option Nat) (value : Ref) :
    Overlooks (World.alter change) (initialise storage value) := by
  cases storage with
  | none => exact .bind (.modify (World.commutes_letGo value)) fun _ => .throw
  | some address =>
    exact .bind (.modify fun _ => rfl) fun _ => .bind (.modify fun _ => rfl) fun _ => .pure

theorem overlooks_create (value : Ref) : Overlooks (World.alter change) (create value) :=
  .bind (.modifyGet (World.reserve_alter .foreignSet)) fun storage => overlooks_initialise storage value

end ForeignSet

namespace NativeValue

theorem overlooks_toHost (value : NativeValue) : Overlooks (World.alter change) value.toHost := by
  cases value with
  | set address => exact .get (fun _ => rfl) fun _ => .pure
  | host ref => exact .pure
  | _ =>
    unfold toHost
    exact overlooks_make _

theorem overlooks_ofRef (ref : Ref) : Overlooks (World.alter change) (ofRef ref) :=
  .bind (overlooks_hold ref) fun _ => .pure

/-- What a native value is made of is read off the host object. -/
theorem overlooks_fromHost (ref : Ref) : Overlooks (World.alter change) (fromHost ref) := by
  refine .get (fun _ => rfl) fun world => ?_
  cases world.host.body ref with
  | int value =>
    dsimp only
    split
    · exact .pure
    · exact overlooks_ofRef ref
  | text codes =>
    dsimp only
    split
    · exact .pure
    · exact overlooks_ofRef ref
  | set table =>
    exact .bind (overlooks_hold ref) fun _ => .bind (ForeignSet.overlooks_create ref) fun _ => .pure
  | nil | bool | float => exact .pure
  | _ => exact overlooks_ofRef ref

theorem commutes_drop (value : NativeValue) : Commutes (World.alter change) value.drop := by
  cases value with
  | set address => exact World.commutes_releaseNative address
  | host ref => exact World.commutes_letGo ref
  | _ => exact fun _ => rfl

end NativeValue

namespace ForeignSet

theorem overlooks_startCursor (cursor : Cursor) :
    Overlooks (World.alter change) (modifyGet (World.startCursor cursor) : BridgeM Nat) :=
  .modifyGet fun _ => rfl

end ForeignSet

namespace HostCall

theorem overlooks_started (set : Ref) : Overlooks (World.alter change) (started set) := by
  refine .get (fun _ => rfl) fun world => ?_
  split
  · exact .map _ (ForeignSet.overlooks_startCursor _)
  · refine .bind (overlooks_attempt _) fun outcome => ?_
    cases outcome with
    | ok iterator => exact .map _ (ForeignSet.overlooks_startCursor _)
    | error fault => exact .pure

/-- An iterator goes by its cursor and by the host. -/
theorem overlooks_stepped (number : Nat) : Overlooks (World.alter change) (stepped number) := by
  refine .get (fun _ => rfl) fun world => ?_
  split
  · exact .pure
  · dsimp only
    split
    · exact .bind (.modify fun _ => rfl) fun _ => overlooks_attempt _
    · exact .bind (.modify fun _ => rfl) fun _ => .bind (overlooks_release _) fun _ => .pure
    · exact .bind (.modify fun _ => rfl) fun _ => .pure
  · exact overlooks_attempt _

/-- Each call to the host overlooks the change, so whatever is built of these does. -/
theorem overlooks_contract (call : HostCall) : Overlooks (World.alter change) call.contract := by
  have hOutcome : Overlooks (World.alter change) call.outcome := by
    cases call with
    | start set => exact overlooks_started set
    | step number => exact overlooks_stepped number
    | _ => exact overlooks_attempt _
  refine hOutcome.bind fun outcome => ?_
  cases outcome with
  | ok answer => exact .pure
  | error fault => exact overlooks_explained _ fault

end HostCall

namespace ForeignSet

theorem overlooks_contains (backing : Ref) (item : NativeValue) :
    Overlooks (World.alter change) (contains backing item) :=
  .bind item.overlooks_toHost fun _ => overlooks_keeping _ (HostCall.overlooks_contract _)

theorem overlooks_command (arguments : List Ref) {answered : BridgeM Ref}
    (hAnswered : Overlooks (World.alter change) answered) :
    Overlooks (World.alter change) (SetProgram.command arguments answered) :=
  overlooks_keeping _ (.bind hAnswered fun _ => overlooks_release _)

theorem overlooks_add (backing : Ref) (item : NativeValue) :
    Overlooks (World.alter change) (add backing item) :=
  .bind item.overlooks_toHost fun _ => overlooks_command _ (HostCall.overlooks_contract _)

theorem overlooks_remove (backing : Ref) (item : NativeValue) :
    Overlooks (World.alter change) (remove backing item) :=
  .bind item.overlooks_toHost fun _ => overlooks_command _ (HostCall.overlooks_contract _)

theorem overlooks_removeAll (backing : Ref) : Overlooks (World.alter change) (removeAll backing) :=
  overlooks_command _ (HostCall.overlooks_contract _)

theorem overlooks_count (backing : Ref) : Overlooks (World.alter change) (count backing) :=
  HostCall.overlooks_contract _

theorem overlooks_iterate (backing : Ref) : Overlooks (World.alter change) (iterate backing) :=
  HostCall.overlooks_contract _

theorem overlooks_next (number : Nat) : Overlooks (World.alter change) (next number) :=
  HostCall.overlooks_contract _

theorem overlooks_elementValue (element : Option Ref) :
    Overlooks (World.alter change) (elementValue element) := by
  cases element with
  | none => exact .pure
  | some ref => exact overlooks_keeping _ (.map _ (NativeValue.overlooks_fromHost ref))

theorem overlooks_nextValue (number : Nat) : Overlooks (World.alter change) (nextValue number) :=
  .bind (overlooks_next number) overlooks_elementValue

theorem overlooks_matched? (element needle : Ref) :
    Overlooks (World.alter change) (matched? element needle) := by
  refine .bind (HostCall.overlooks_contract _) fun same => ?_
  split
  · exact .map _ (NativeValue.overlooks_fromHost element)
  · exact .pure

/-- The search goes by what the host answers. -/
theorem overlooks_findEqual (iterator needle : Ref) (steps : Nat) :
    Overlooks (World.alter change) (findEqual iterator needle steps) := by
  induction steps with
  | zero => exact .bind (HostCall.overlooks_contract _) nofun
  | succ steps ih =>
    refine .bind (HostCall.overlooks_contract _) fun element => ?_
    cases element with
    | none => exact .pure
    | some element =>
      refine .bind (overlooks_keeping _ (overlooks_matched? element needle)) fun found => ?_
      cases found with
      | some value => exact .pure
      | none => exact ih

theorem overlooks_member (backing : Ref) (item : NativeValue) :
    Overlooks (World.alter change) (member backing item) := by
  refine .bind item.overlooks_toHost fun needle => overlooks_keeping _ ?_
  refine .bind (overlooks_contains backing item) fun isThere => ?_
  split
  · exact .bind (.get (fun _ => rfl) fun _ => .pure) fun limit => .bind (HostCall.overlooks_contract _) fun iterator =>
      overlooks_keeping _ (overlooks_findEqual iterator needle limit)
  · exact .pure

theorem overlooks_anyElement (backing : Ref) : Overlooks (World.alter change) (anyElement backing) :=
  .bind (HostCall.overlooks_contract _) fun _ =>
    overlooks_keeping _ (.bind (HostCall.overlooks_contract _) overlooks_elementValue)

theorem overlooks_mutableCopy (backing : Ref) : Overlooks (World.alter change) (mutableCopy backing) :=
  .bind (HostCall.overlooks_contract _) fun copy => .bind (overlooks_hold copy) fun _ => overlooks_create copy

end ForeignSet

theorem overlooks_makeHandle (typeId typeName : String) (pointer : Pointer)
    (ownership : Option Discipline) :
    Overlooks (World.alter change) (makeHandle typeId typeName pointer ownership) :=
  .get (fun _ => rfl) fun _ =>
    .bind (.modify (World.commutes_retainOwned _)) fun _ => overlooks_make _

end HeapBridge
