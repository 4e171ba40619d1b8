import HeapBridge.Proofs.Ownership.Transfer
/-!
What the operations of the bridge take over and hand on. Host code leaves alone what is owned outside, and
so does every operation but those that make proxies and handles: a proxy takes the reference to its host value
over and is handed on with the one reference that it starts with, and a native value comes with what it owns.
-/
namespace HeapBridge

open Host (HostM Ref)
open Native (NativeClass Payload)
open Estate

variable {α : Type} {may : Deed → Prop} {others taken rest : Estate} {world : World}

def oneReference (address : Nat) : Estate := ofNative {.reference address}

def valueEstate (value : Option NativeValue) : Estate := value.elim 0 NativeValue.estate

/-- Storage that comes without an object, if there is any. -/
def storageEstate (storage : Option Nat) : Estate := ofNative (storageHoldings storage)

theorem neutral_of_visits {change : World → α × World}
    (hVisits : ∀ world, Host.Visits world (change world).2) :
    Neutral (modifyGet change : BridgeM α) :=
  fun _ _ world => .stepsGet (by simpa using (Step.host (hVisits world)).toSteps)

theorem neutral_modify {change : World → World} (hVisits : ∀ world, Host.Visits world (change world)) :
    Neutral (modify change : BridgeM Unit) :=
  fun _ _ world => .steps (by simpa using (Step.host (hVisits world)).toSteps)

/-- An operation on the world takes over and hands on what it does there. -/
theorem transfers_modify {change : World → World} {given : Estate}
    (hSteps : Steps may ⟨taken + others, world⟩ ⟨given + others, change world⟩) :
    Transfers may others world taken (modify change : BridgeM Unit) fun _ => given :=
  .steps (by simpa only [ledger_world] using hSteps)

theorem transfers_hold (ref : Ref) :
    Transfers may others world 0 (modify (World.hold ref) : BridgeM Unit) fun _ => ofHost {ref} :=
  transfers_modify (by simpa only [zero_add] using World.steps_hold ref world)

theorem transfers_letGo (ref : Ref) :
    Transfers may others world (ofHost {ref}) (modify (World.letGo ref) : BridgeM Unit) fun _ => 0 :=
  transfers_modify (by simpa only [zero_add] using World.steps_letGo ref world)

namespace BridgeM

theorem neutral_attempt (operation : HostM α) : Neutral (attempt operation) := by
  rw [attempt_eq]
  exact neutral_of_visits (HostM.visits_runOn operation)

theorem neutral_explained (explain : String → BridgeError) (fault : Host.Fault) :
    Neutral (explained explain fault : BridgeM α) :=
  .bind (neutral_of_visits (World.visits_textFrom _)) fun _ => .throw

/-- Host code leaves alone what is owned outside, also when it fails. -/
theorem neutral_host (explain : String → BridgeError) (operation : HostM α) :
    Neutral (host explain operation) :=
  .bind (neutral_attempt operation) fun outcome =>
    match outcome with
    | .ok _ => .pure
    | .error fault => neutral_explained explain fault

theorem neutral_contract (operation : Operation) (call : HostM α) :
    Neutral (contract operation call) :=
  neutral_host _ call

theorem neutral_make {body : Host.Body} (hBody : body.isHandle = false) : Neutral (make body) :=
  neutral_of_visits (Host.Visits.make hBody)

theorem neutral_release (refs : List Ref) : Neutral (release refs) :=
  neutral_modify (World.visits_release refs)

theorem run_finish (outcome : Except BridgeError α) (world : World) :
    (finish outcome).run.run world = (outcome, world) := by
  cases outcome <;> rfl

theorem transfers_finish {outcome : Except BridgeError α} {given : α → Estate}
    (hTaken : taken = onSuccess given outcome) :
    Transfers may others world taken (finish outcome) given := by
  cases outcome with
  | ok _ => exact .pure hTaken
  | error error => exact hTaken ▸ .throw

/-- Host references that are kept meanwhile are given back in any case. -/
theorem transfers_keeping {refs : List Ref} {operation : BridgeM α} {given : α → Estate}
    (hOperation : Transfers may (ofHost ↑refs + others) (world.holdAll refs) taken operation given) :
    Transfers may others world taken (keeping refs operation) given := by
  refine .via (fun _ => ofHost ↑refs + taken) (transfers_modify ?_) fun _ middle hRun => ?_
  · rw [add_assoc]
    exact (Step.hold refs rfl).toSteps
  · obtain rfl : middle = world.holdAll refs := by cases hRun; rfl
    have hKept := hOperation.attempt.carrying (ofHost ↑refs) fun error after hRun => by
      rw [run_attempt] at hRun
      cases hRun
    refine .bind hKept fun outcome after _ => ?_
    refine .via (fun _ => onSuccess given outcome) (transfers_modify ?_) fun _ _ _ => ?_
    · rw [add_assoc]
      exact World.steps_letGoAll refs after
    · exact transfers_finish rfl

theorem neutral_keeping {operation : BridgeM α} (refs : List Ref) (hOperation : Neutral operation) :
    Neutral (keeping refs operation) :=
  fun may _ _ => transfers_keeping (hOperation may _ _)

end BridgeM

namespace NativeValue

theorem neutral_toHost (value : NativeValue) : Neutral value.toHost := by
  cases value with
  | set address => exact .get fun _ => .pure
  | host ref => exact .pure
  | _ => exact BridgeM.neutral_make rfl

theorem transfers_ofRef (ref : Ref) : Transfers may others world 0 (ofRef ref) estate :=
  .bind (transfers_hold ref) fun _ _ _ => .pure rfl

end NativeValue

namespace ForeignSet

/-- A proxy is made in storage that is taken over, as is the reference to its host value, and comes with its
first reference. If it cannot be made the reference to the value is given back. -/
theorem transfers_initialise (storage : Option Nat) (value : Ref) :
    Transfers may others world (storageEstate storage + ofHost {value}) (initialise storage value)
      oneReference := by
  cases storage with
  | none =>
    rw [storageEstate, storageHoldings, Option.elim_none, ofNative_zero, zero_add]
    exact .bind (transfers_letGo value) fun _ _ _ => .throw
  | some address =>
    refine .via (fun _ => ofHost {value} + oneReference address) (transfers_modify ?_) fun _ middle _ =>
      .via (fun _ => oneReference address) (transfers_modify ?_) fun _ _ _ => .pure rfl
    · exact (Step.adopt address value (add_assoc ..) (by rw [add_comm (ofHost _), add_assoc]; rfl)).toSteps
    · rw [add_assoc]
      exact World.steps_unhold value middle

theorem transfers_reserve (nativeClass : NativeClass) :
    Transfers may others world taken (modifyGet (World.reserve nativeClass) : BridgeM (Option Nat))
      fun storage => storageEstate storage + taken := by
  refine .stepsGet ?_
  simp only [ledger_world, add_assoc]
  exact (Step.reserve nativeClass rfl).toSteps

theorem transfers_create (value : Ref) :
    Transfers may others world (ofHost {value}) (create value) oneReference :=
  .bind (transfers_reserve .foreignSet) fun storage _ _ => transfers_initialise storage value

end ForeignSet

/-- A native value comes with what it owns: a host set comes as a new proxy of it. -/
theorem NativeValue.transfers_fromHost (ref : Ref) :
    Transfers may others world 0 (fromHost ref) estate := by
  refine .get ?_
  split
  case h_1 => exact .pure rfl
  case h_2 value _ => exact .pure rfl
  case h_3 value _ =>
    split
    · exact .pure rfl
    · exact transfers_ofRef ref
  case h_4 bits _ => exact .pure rfl
  case h_5 =>
    split
    · exact .pure rfl
    · exact transfers_ofRef ref
  case h_6 =>
    exact .bind (transfers_hold ref) fun _ _ _ =>
      .bind (ForeignSet.transfers_create ref) fun address _ _ => .pure rfl
  case h_7 => exact transfers_ofRef ref

namespace ForeignSet

theorem neutral_startCursor (cursor : Cursor) :
    Neutral (modifyGet (World.startCursor cursor) : BridgeM Nat) :=
  fun _ _ world => .stepsGet (by simpa using (Step.startCursor cursor).toSteps)

theorem transfers_moveCursor {number : Nat} (hMay : may (.cursor number)) (cursor : Cursor) :
    Transfers may others world 0 (modify (World.moveCursor number cursor) : BridgeM Unit)
      fun _ => 0 :=
  transfers_modify (Step.moveCursor number cursor hMay).toSteps

end ForeignSet

namespace HostCall

theorem neutral_started (set : Ref) : Neutral (started set) := by
  refine .get fun world => ?_
  split
  · exact .map _ (ForeignSet.neutral_startCursor _)
  · refine .bind (BridgeM.neutral_attempt _) fun outcome => ?_
    cases outcome with
    | ok iterator => exact .map _ (ForeignSet.neutral_startCursor _)
    | error fault => exact .pure

/-- Asking an iterator for its next element moves no other one. -/
theorem transfers_stepped {number : Nat} (hMay : may (.cursor number)) :
    Transfers may others world 0 (stepped number) fun _ => 0 := by
  refine .get ?_
  split
  · exact .pure rfl
  · dsimp only
    split
    · exact .bind (ForeignSet.transfers_moveCursor hMay _) fun _ _ _ => BridgeM.neutral_attempt _ _ _ _
    · exact .bind (ForeignSet.transfers_moveCursor hMay _) fun _ _ _ =>
        .bind (BridgeM.neutral_release _ _ _ _) fun _ _ _ => .pure rfl
    · exact .bind (ForeignSet.transfers_moveCursor hMay _) fun _ _ _ => .pure rfl
  · exact BridgeM.neutral_attempt _ _ _ _

/-- The steps of iterators are the one thing that a call to the host needs leave for. -/
theorem transfers_contract {call : HostCall} (hMay : ∀ number, call = .step number → may (.cursor number)) :
    Transfers may others world 0 call.contract fun _ => 0 := by
  have hOutcome : Transfers may others world 0 call.outcome fun _ => 0 := by
    cases call with
    | start set => exact neutral_started set may others world
    | step number => exact transfers_stepped (hMay number rfl)
    | _ => exact BridgeM.neutral_attempt _ may others world
  refine .bind hOutcome fun outcome _ _ => ?_
  cases outcome with
  | ok answer => exact .pure rfl
  | error fault => exact BridgeM.neutral_explained _ fault may others _

/-- Only stepping an iterator moves one. -/
theorem neutral_contract {call : HostCall} (hCall : ∀ number, call ≠ .step number) : Neutral call.contract :=
  fun _ _ _ => transfers_contract fun number hStep => absurd hStep (hCall number)

end HostCall

namespace ForeignSet

theorem neutral_contains (backing : Ref) (item : NativeValue) : Neutral (contains backing item) :=
  .bind item.neutral_toHost fun _ => BridgeM.neutral_keeping _ (HostCall.neutral_contract nofun)

theorem neutral_command (arguments : List Ref) {answered : BridgeM Ref} (hAnswered : Neutral answered) :
    Neutral (SetProgram.command arguments answered) :=
  BridgeM.neutral_keeping _ (.bind hAnswered fun _ => BridgeM.neutral_release _)

theorem neutral_add (backing : Ref) (item : NativeValue) : Neutral (add backing item) :=
  .bind item.neutral_toHost fun _ => neutral_command _ (HostCall.neutral_contract nofun)

theorem neutral_remove (backing : Ref) (item : NativeValue) : Neutral (remove backing item) :=
  .bind item.neutral_toHost fun _ => neutral_command _ (HostCall.neutral_contract nofun)

theorem neutral_removeAll (backing : Ref) : Neutral (removeAll backing) :=
  neutral_command _ (HostCall.neutral_contract nofun)

theorem neutral_count (backing : Ref) : Neutral (count backing) := HostCall.neutral_contract nofun

theorem neutral_iterate (backing : Ref) : Neutral (iterate backing) := HostCall.neutral_contract nofun

/-- A new iterator gets the next number, since host code starts none. -/
theorem number_of_run_iterate {backing : Ref} {number : Nat} {after : World}
    (hRun : (iterate backing).run.run world = (.ok number, after)) :
    number = world.cursors.size := by
  have hContract : (HostCall.contract (.start backing)).run.run world = (.ok number, after) := hRun
  rw [HostCall.run_contract, HostCall.outcome, HostCall.run_started] at hContract
  cases hOwn : ForeignSet.ownElements? backing world.host with
  | some table =>
    rw [hOwn] at hContract
    cases hContract
    rfl
  | none =>
    have hSame := (HostM.changes_runOn (Host.iterate Host.ops backing) world).cursors_registry.1
    rw [hOwn] at hContract
    rcases hIterate : HostM.runOn (Host.iterate Host.ops backing) world with ⟨fault | iterator, middle⟩ <;>
      rw [hIterate] at hContract hSame <;> cases hContract
    exact congrArg Array.size hSame

theorem transfers_next {number : Nat} (hMay : may (.cursor number)) :
    Transfers may others world 0 (next number) fun _ => 0 :=
  HostCall.transfers_contract fun _ hStep => HostCall.step.inj hStep ▸ hMay

theorem steps_dropIterator {number : Nat} (hMay : may (.cursor number)) (world : World) :
    Steps may ⟨rest, world⟩ ⟨rest, dropIterator number world⟩ :=
  (Step.moveCursor number .finished hMay).toSteps.tail (.host (World.visits_release _ _))

theorem transfers_some {operation : BridgeM NativeValue}
    (hOperation : Transfers may others world taken operation NativeValue.estate) :
    Transfers may others world taken (some <$> operation) valueEstate := by
  rw [map_eq_pure_bind]
  exact .bind hOperation fun value _ _ => .pure rfl

theorem transfers_elementValue (element : Option Ref) :
    Transfers may others world 0 (elementValue element) valueEstate := by
  cases element with
  | some element =>
    exact BridgeM.transfers_keeping (transfers_some (NativeValue.transfers_fromHost element))
  | none => exact .pure rfl

theorem transfers_nextValue {number : Nat} (hMay : may (.cursor number)) :
    Transfers may others world 0 (nextValue number) valueEstate :=
  .bind (transfers_next hMay) fun element _ _ => transfers_elementValue element

theorem transfers_matched? (element needle : Ref) :
    Transfers may others world 0 (matched? element needle) valueEstate := by
  refine .bind (HostCall.transfers_contract nofun) fun same _ _ => ?_
  cases same with
  | true => exact transfers_some (NativeValue.transfers_fromHost element)
  | false => exact .pure rfl

/-- The search keeps the references to the elements that it sees for itself. -/
theorem transfers_findEqual (iterator needle : Ref) (steps : Nat) :
    Transfers may others world 0 (findEqual iterator needle steps) valueEstate := by
  induction steps generalizing world with
  | zero => exact .bind (HostCall.transfers_contract nofun) nofun
  | succ steps ih =>
    refine .bind (HostCall.transfers_contract nofun) fun element _ _ => ?_
    cases element with
    | none => exact .pure rfl
    | some element =>
      refine .bind (BridgeM.transfers_keeping (transfers_matched? element needle))
        fun found _ _ => ?_
      cases found with
      | some value => exact .pure rfl
      | none => exact ih

/-- The one that is found is handed to the caller. -/
theorem transfers_member (backing : Ref) (item : NativeValue) :
    Transfers may others world 0 (member backing item) valueEstate := by
  refine .bind (item.neutral_toHost may others world) fun needle _ _ =>
    BridgeM.transfers_keeping ?_
  refine .bind (neutral_contains backing item may _ _) fun found _ _ => ?_
  cases found with
  | true =>
    refine .via (fun _ => 0) (.get (.pure rfl)) fun limit _ _ => ?_
    exact .bind (HostCall.transfers_contract nofun) fun iterator _ _ =>
      BridgeM.transfers_keeping (transfers_findEqual iterator needle limit)
  | false => exact .pure rfl

theorem transfers_anyElement (backing : Ref) :
    Transfers may others world 0 (anyElement backing) valueEstate :=
  .bind (HostCall.transfers_contract nofun) fun _ _ _ =>
    BridgeM.transfers_keeping (.bind (HostCall.transfers_contract nofun) fun element _ _ =>
      transfers_elementValue element)

theorem transfers_mutableCopy (backing : Ref) :
    Transfers may others world 0 (mutableCopy backing) oneReference :=
  .bind (HostCall.transfers_contract nofun) fun copy _ _ =>
    .bind (transfers_hold copy) fun _ _ _ => transfers_create copy

end ForeignSet

end HeapBridge
