import HeapBridge.Proofs.Boundary.Overlooking
import HeapBridge.Proofs.Surfacing.Reports
/-!
Host calls on the record. An operation on a foreign set makes calls to its host value, one or several, and
each can end in a fault. The program of an operation can also be run so that a record is kept of these calls.
The rules follow the structure of a program: whatever is composed of calls that surface their faults, and of
steps that make none, surfaces the first fault, makes no call after it, and leaves no exception pending.
-/
namespace HeapBridge

open Host (Fault HostM Ref)

/-- A call that was made, and the world it was made in. -/
structure CallRecord where
  call : HostCall
  entered : World

namespace CallRecord

def fault? (record : CallRecord) : Option Fault :=
  match (record.call.outcome.run.run record.entered).1 with
  | .ok (.error fault) => some fault
  | _ => none

/-- The world that the call left. -/
def left (record : CallRecord) : World := (record.call.outcome.run.run record.entered).2

end CallRecord

structure Recording where
  world : World
  made : List CallRecord := []

/-- An operation of the bridge that records the calls to the host it makes. -/
abbrev RecordM := ExceptT BridgeError (StateM Recording)

def RecordM.silently {α : Type} (operation : BridgeM α) : RecordM α := ExceptT.mk fun recording =>
  let (result, world) := operation.run.run recording.world
  (result, { recording with world })

def RecordM.make (call : HostCall) : RecordM call.Answer := ExceptT.mk fun recording =>
  let (result, world) := call.contract.run.run recording.world
  (result, { world, made := recording.made ++ [{ call, entered := recording.world }] })

instance : MonadLift BridgeM RecordM := ⟨RecordM.silently⟩

instance : HostCaller RecordM := ⟨RecordM.make⟩

/-- How an operation ends that made these calls. -/
inductive Surfaced {α : Type} (made : List CallRecord) : Except BridgeError α → Prop where
  /-- It answers only if no call has ended in a fault. -/
  | answered (value : α) (hQuiet : ∀ record ∈ made, record.fault? = none) : Surfaced made (.ok value)
  /-- Without a fault it can still lack the storage for a proxy. -/
  | unallocated (nativeClass : Native.NativeClass) (hQuiet : ∀ record ∈ made, record.fault? = none) :
    Surfaced made (.error (.allocationFailed nativeClass))
  /-- A fault ends it, under the name of the very call and with the report of the fault. -/
  | violated {earlier : List CallRecord} {last : CallRecord} {fault : Fault} {traceback : String}
    (hMade : made = earlier ++ [last]) (hQuiet : ∀ record ∈ earlier, record.fault? = none)
    (hFault : last.fault? = some fault) (hCause : fault.cause ≠ .outOfSteps)
    (hTraced : fault.Traced traceback) :
    Surfaced made (.error (.contractViolation last.call.operation
      (traceback ++ (fault.exception ++ ": " ++ fault.tells last.left))))
  /-- The last call was not followed to its end. -/
  | unended {earlier : List CallRecord} {last : CallRecord} {fault : Fault} {error : BridgeError}
    (hMade : made = earlier ++ [last]) (hQuiet : ∀ record ∈ earlier, record.fault? = none)
    (hFault : last.fault? = some fault) (hCause : fault.cause = .outOfSteps) : Surfaced made (.error error)

variable {α β : Type} {made : List CallRecord} {makes : HostCall → Prop}

theorem Surfaced.of_error {error : BridgeError} (hSurfaced : Surfaced (α := α) made (.error error)) :
    Surfaced (α := β) made (.error error) := by
  cases hSurfaced with
  | unallocated nativeClass hQuiet => exact .unallocated nativeClass hQuiet
  | violated hMade hQuiet hFault hCause hTraced => exact .violated hMade hQuiet hFault hCause hTraced
  | unended hMade hQuiet hFault hCause => exact .unended hMade hQuiet hFault hCause

/-- Calls that went well may stand before the one that failed. -/
theorem Surfaced.after {earlier : List CallRecord} (hQuiet : ∀ record ∈ earlier, record.fault? = none)
    {result : Except BridgeError α} (hSurfaced : Surfaced made result) :
    Surfaced (earlier ++ made) result := by
  have hAll {more : List CallRecord} (hMore : ∀ record ∈ more, record.fault? = none) :
      ∀ record ∈ earlier ++ more, record.fault? = none := by
    intro record hRecord
    rcases List.mem_append.mp hRecord with hEarlier | hLater
    · exact hQuiet record hEarlier
    · exact hMore record hLater
  cases hSurfaced with
  | answered value hMade => exact .answered value (hAll hMade)
  | unallocated nativeClass hMade => exact .unallocated nativeClass (hAll hMade)
  | violated hMade hBefore hFault hCause hTraced =>
    exact .violated (by rw [hMade, List.append_assoc]) (hAll hBefore) hFault hCause hTraced
  | unended hMade hBefore hFault hCause =>
    exact .unended (by rw [hMade, List.append_assoc]) (hAll hBefore) hFault hCause

/-- References that are kept during an operation are let go after it, however it ends. -/
theorem BridgeM.run_keeping (refs : List Ref) (operation : BridgeM α) (world : World) :
    (BridgeM.keeping refs operation).run.run world =
      ((operation.run.run (world.holdAll refs)).1,
        refs.foldl (fun world ref => world.letGo ref) (operation.run.run (world.holdAll refs)).2) := by
  have hRun : (BridgeM.keeping refs operation).run.run world =
      ((tryCatch (Except.ok <$> operation) fun error => Pure.pure (Except.error error) :
        BridgeM (Except BridgeError α)) >>= fun result => (do
          modify fun world => refs.foldl (fun world ref => world.letGo ref) world
          BridgeM.finish result)).run.run (world.holdAll refs) := rfl
  rw [hRun, run_bind, run_attempt]
  cases (operation.run.run (world.holdAll refs)).1 <;> rfl

/-- A call comes to an answer or a fault, and to nothing else. -/
theorem HostCall.exists_run_outcome (call : HostCall) (world : World) :
    ∃ outcome after, call.outcome.run.run world = (.ok outcome, after) := by
  cases call with
  | start set =>
    rw [outcome, run_started]
    cases ForeignSet.ownElements? set world.host with
    | some table => exact ⟨_, _, rfl⟩
    | none =>
      rcases HostM.runOn (Host.iterate Host.ops set) world with ⟨fault | iterator, after⟩ <;>
        exact ⟨_, _, rfl⟩
  | step number =>
    rw [outcome, stepped, run_get]
    cases world.cursor number with
    | finished => exact ⟨_, _, rfl⟩
    | elements source position size broken =>
      dsimp only
      cases ((world.host.body source).elements?.getD .empty).step position size broken <;> exact ⟨_, _, rfl⟩
    | object iterator => exact ⟨_, _, BridgeM.run_attempt_host _ _⟩
  | _ => exact ⟨_, _, BridgeM.run_attempt_host _ _⟩

theorem RecordM.run_make (call : HostCall) (recording : Recording) :
    (HostCaller.call call : RecordM call.Answer).run.run recording =
      ((call.contract.run.run recording.world).1,
        ⟨(call.contract.run.run recording.world).2, recording.made ++ [⟨call, recording.world⟩]⟩) := rfl

/-- The same while calls are recorded. -/
theorem RecordM.run_keeping (refs : List Ref) (operation : RecordM α) (recording : Recording) :
    (BridgeM.keeping refs operation).run.run recording =
      let (result, after) :=
        operation.run.run { recording with world := recording.world.holdAll refs }
      (result, { after with world := refs.foldl (fun world ref => world.letGo ref) after.world }) := by
  have hRun : (BridgeM.keeping refs operation).run.run recording =
      ((tryCatch (Except.ok <$> operation) fun error => Pure.pure (Except.error error) :
        RecordM (Except BridgeError α)) >>= fun result => (do
          RecordM.silently (modify fun world => refs.foldl (fun world ref => world.letGo ref) world)
          RecordM.silently (BridgeM.finish result))).run.run
            { recording with world := recording.world.holdAll refs } := rfl
  rw [hRun, run_bind, run_attempt]
  rcases operation.run.run { recording with world := recording.world.holdAll refs } with
    ⟨error | value, after⟩ <;> rfl

/-- What the record tells of a run that made these calls: they are of some sort, the faults among them surface,
and what is pending at each of them and afterwards was so from the start. -/
structure Accounted (makes : HostCall → Prop) (made : List CallRecord) (start finish : Recording)
    (result : Except BridgeError α) : Prop where
  recorded : finish.made = start.made ++ made
  sorts : ∀ record ∈ made, makes record.call
  surfaced : Surfaced made result
  fetched : ∀ record ∈ made, record.entered.pending = start.world.pending
  pending : finish.world.pending = start.world.pending

/-- Whether a recorded operation does what a plain one does and accounts for the calls it makes. -/
structure Records (makes : HostCall → Prop) (recorded : RecordM α) (plain : BridgeM α) : Prop where
  erased : ∀ recording, plain.run.run recording.world =
    ((recorded.run.run recording).1, (recorded.run.run recording).2.world)
  accounted : ∀ recording, ∃ made,
    Accounted makes made recording (recorded.run.run recording).2 (recorded.run.run recording).1

/-- Whether an operation can fail only for a lack of storage. -/
def Spare (operation : BridgeM α) : Prop := ∀ world error, (operation.run.run world).1 = .error error →
  ∃ nativeClass, error = .allocationFailed nativeClass

theorem World.pending_letGoAll (refs : List Ref) (world : World) :
    (refs.foldl (fun world ref => world.letGo ref) world).pending = world.pending :=
  congrArg Surroundings.pending
    (World.surroundings_of_commutes (fun _ => World.commutes_letGoAll refs) world)

namespace Records

/-- A step that makes no call, and keeps what is beside the heaps, adds nothing to the record. -/
theorem silently {operation : BridgeM α} (hSpare : Spare operation)
    (hOverlooks : ∀ change, Overlooks (World.alter change) operation) :
    Records makes (liftM operation) operation where
  erased _ := rfl
  accounted recording := by
    refine ⟨[], (List.append_nil _).symm, List.forall_mem_nil _, ?_, List.forall_mem_nil _,
      congrArg Surroundings.pending (surroundings_of_overlooks hOverlooks recording.world)⟩
    change Surfaced [] (operation.run.run recording.world).1
    cases hResult : (operation.run.run recording.world).1 with
    | ok value => exact .answered value (List.forall_mem_nil _)
    | error error =>
      obtain ⟨nativeClass, rfl⟩ := hSpare recording.world error hResult
      exact .unallocated nativeClass (List.forall_mem_nil _)

theorem pure (value : α) : Records makes (pure value) (pure value) where
  erased _ := rfl
  accounted _ := ⟨[], (List.append_nil _).symm, List.forall_mem_nil _,
    .answered value (List.forall_mem_nil _), List.forall_mem_nil _, rfl⟩

/-- Operations in a row make the calls of both. -/
theorem bind {recorded : RecordM α} {plain : BridgeM α} {nextRecorded : α → RecordM β}
    {next : α → BridgeM β} (hFirst : Records makes recorded plain)
    (hNext : ∀ value, Records makes (nextRecorded value) (next value)) :
    Records makes (recorded >>= nextRecorded) (plain >>= next) where
  erased recording := by
    rw [run_bind, run_bind, hFirst.erased]
    rcases recorded.run.run recording with ⟨error | value, after⟩
    · rfl
    · exact (hNext value).erased after
  accounted recording := by
    obtain ⟨made, hMade⟩ := hFirst.accounted recording
    rw [run_bind]
    rcases hRun : recorded.run.run recording with ⟨error | value, after⟩ <;> rw [hRun] at hMade
    · exact ⟨made, hMade.recorded, hMade.sorts, hMade.surfaced.of_error, hMade.fetched, hMade.pending⟩
    · obtain ⟨more, hMore⟩ := (hNext value).accounted after
      cases hMade.surfaced with
      | answered _ hQuiet =>
        refine ⟨made ++ more, ?_, ?_, hMore.surfaced.after hQuiet, ?_, hMore.pending.trans hMade.pending⟩
        · rw [hMore.recorded, hMade.recorded, List.append_assoc]
        · exact List.forall_mem_append.mpr ⟨hMade.sorts, hMore.sorts⟩
        · exact List.forall_mem_append.mpr ⟨hMade.fetched, fun record hRecord =>
            (hMore.fetched record hRecord).trans hMade.pending⟩

/-- What is referred to meanwhile makes no difference to the calls. -/
theorem keeping {recorded : RecordM α} {plain : BridgeM α} (refs : List Ref)
    (hRecords : Records makes recorded plain) :
    Records makes (BridgeM.keeping refs recorded) (BridgeM.keeping refs plain) where
  erased recording := by
    rw [BridgeM.run_keeping, RecordM.run_keeping,
      hRecords.erased { recording with world := recording.world.holdAll refs }]
    rcases recorded.run.run { recording with world := recording.world.holdAll refs } with ⟨_, after⟩
    rfl
  accounted recording := by
    obtain ⟨made, hMade⟩ := hRecords.accounted { recording with world := recording.world.holdAll refs }
    rw [RecordM.run_keeping]
    exact ⟨made, hMade.recorded, hMade.sorts, hMade.surfaced, hMade.fetched,
      (World.pending_letGoAll refs _).trans hMade.pending⟩

/-- A recorded call is on the record, and its fault is reported. -/
theorem call (call : HostCall) (hMakes : makes call) :
    Records makes (HostCaller.call call) (HostCaller.call call) where
  erased _ := rfl
  accounted recording := by
    have hOnly {property : CallRecord → Prop} (hRecord : property ⟨call, recording.world⟩) :
        ∀ record ∈ [(⟨call, recording.world⟩ : CallRecord)], property record :=
      List.forall_mem_singleton.mpr hRecord
    refine ⟨[⟨call, recording.world⟩], rfl, hOnly hMakes, ?_, hOnly rfl, congrArg Surroundings.pending
      (surroundings_of_overlooks (fun _ => HostCall.overlooks_contract call) recording.world)⟩
    rw [RecordM.run_make, HostCall.run_contract]
    obtain ⟨outcome, after, hRun⟩ := call.exists_run_outcome recording.world
    rw [hRun]
    cases outcome with
    | ok answer =>
      refine .answered answer (hOnly ?_)
      rw [CallRecord.fault?, hRun]
    | error fault =>
      have hFault : CallRecord.fault? ⟨call, recording.world⟩ = some fault := by
        rw [CallRecord.fault?, hRun]
      have hLeft : CallRecord.left ⟨call, recording.world⟩ = after := by
        rw [CallRecord.left, hRun]
      dsimp only
      by_cases hCause : fault.cause = .outOfSteps
      · exact .unended (List.nil_append _).symm (List.forall_mem_nil _) hFault hCause
      · rw [Fault.textFrom_report, ← hLeft]
        exact .violated (List.nil_append _).symm (List.forall_mem_nil _) hFault hCause fault.traced

end Records

end HeapBridge
