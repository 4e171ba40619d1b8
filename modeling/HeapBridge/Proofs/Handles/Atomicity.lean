import HeapBridge.Proofs.Boundary.LastError
import HeapBridge.Proofs.Handles.Provenance
import HeapBridge.Proofs.Registration.Sessions
import HeapBridge.Proofs.Surfacing.Reports
/-!
Conversions that fail. A converter may be any code, of this side or from outside, and whatever it does to the
world is its own affair. The bridge adds nothing to it: a call that converts no pointer leaves the caller's
output alone, and the world is as the converter has left it, or as it was before if it never came to a
converter. One thing may still run on the way out: a key that was looked up in vain is shown for the report.
-/
namespace HeapBridge

open Host (Cause Fault HostM Ref)

/-- What stands behind the converters of wrappers: whatever is run for a host value in a world. -/
abbrev Converters := PointerWrapper → Ref → World → Except Fault Pointer × World

namespace Converters

def named : Converters := fun wrapper value => HostM.runOn (wrapper.fromHost.run value)

/-- A routine from outside as a converter. The routine stores into a place of its own, from which the pointer
is taken if it succeeds. -/
def ofRoutine (routine : World → RoutineResult × World) (world : World) : Except Fault Pointer × World :=
  HostM.runOn (routine world).1.pointer (routine world).2

/-- A routine goes by its status: zero for what it has stored, anything else for a failure. -/
theorem ofRoutine_eq (routine : World → RoutineResult × World) (world : World) :
    ofRoutine routine world =
      (if (routine world).1.status = 0 then .ok ((routine world).1.stored.getD .null)
        else .error ((routine world).1.pending.getD { cause := .converterFailed }),
        (routine world).2) := by
  unfold ofRoutine RoutineResult.pointer
  split <;> rfl

/-- Routines have an answer to everything: what goes wrong they tell by their status. -/
theorem exists_run_routine (behaviour : Routine) (value : Ref) (world : World) :
    ∃ result after, HostM.runOn (behaviour.run value) world = (.ok result, after) := by
  cases behaviour with
  | number =>
    rcases hNumber : HostM.runOn (extractNumber value) world with ⟨fault | pointer, after⟩
    · refine ⟨⟨none, -1, some fault⟩, after, ?_⟩
      simp only [HostM.runOn] at hNumber
      simp only [HostM.runOn, Routine.run, tryCatch, tryCatchThe, MonadExceptOf.tryCatch, HostM.tryCatch,
        HostM.eval_bind, hNumber]
      rfl
    · refine ⟨⟨some pointer, 0, none⟩, after, HostM.eval_tryCatch ?_⟩
      rw [HostM.eval_bind, show (extractNumber value).eval {} world = (.ok pointer, after) from hNumber]
      rfl
  | _ => exact ⟨_, _, rfl⟩

/-- A wrapper that names a routine has a routine for a converter. -/
theorem exists_named_eq_ofRoutine {wrapper : PointerWrapper} {behaviour : Routine}
    (hWrapper : wrapper.fromHost = .routine behaviour) (value : Ref) :
    ∃ routine, named wrapper value = ofRoutine routine := by
  choose result after hRun using exists_run_routine behaviour value
  refine ⟨fun world => (result world, after world), funext fun world => ?_⟩
  rw [named, hWrapper]
  change HostM.runOn (behaviour.run value >>= fun result => result.pointer) world = _
  rw [HostM.runOn_bind, hRun]
  rfl

end Converters

/-! The operations that convert a host value, with converters of any kind. -/

def fromHostBy (converters : Converters) (typeId : String) (value : Ref) : BridgeM Pointer := do
  let wrapper ← lookup typeId
  match ← modifyGet (converters wrapper value) with
  | .ok pointer => return pointer
  | .error fault => BridgeM.explained (.conversion typeId) fault

def fromHostForBy (converters : Converters) (signature : String) (value : Ref) : BridgeM Pointer := do
  fromHostBy converters (← identifierOf signature) value

/-- The status of a conversion, and what it stores if it succeeds. -/
def Export.fromHostBy (converters : Converters) (thread : Thread) (typeId : Option (List UInt8))
    (value : Option Ref) (output : Bool) : Export.ExportM (Int × Option Pointer) :=
  guarded thread (-1, none) do
    let typeId ← textArgument typeId
    outputArgument output
    let value ← itemArgument value
    return (0, some (← HeapBridge.fromHostBy converters typeId value))

/-- The world after the report of a fault was made. -/
def Host.Fault.reported (fault : Fault) (world : World) : World :=
  match fault.cause with
  | .missingKey key => (HostM.runOn (Host.holding [key] (Host.ops.shown key)) world).2
  | _ => world

def Host.Fault.report (fault : Fault) (world : World) : String :=
  fault.traceback ++ (fault.exception ++ ": " ++ fault.tells world)

/-- The text of a fault leaves behind what showing a key leaves behind. -/
theorem Host.Fault.describe_snd (fault : Fault) (world : World) :
    (HostM.runOn (Host.describe Host.ops fault) world).2 = fault.reported world := by
  obtain ⟨cause, frames⟩ := fault
  cases cause with
  | missingKey key =>
    simp only [HostM.runOn, Host.describe, reported, HostM.eval_bind, HostM.eval_attempt]
    rcases (Host.holding [key] (Host.ops.shown key)).eval {} world with ⟨fault | codes, after⟩ <;> rfl
  | raised exception text =>
    by_cases hKey : exception = "KeyError"
    · subst hKey
      rfl
    · simp [HostM.runOn, Host.describe, reported, hKey]
  | _ => rfl

theorem Host.Fault.textFrom_report_eq (fault : Fault) (world : World) :
    world.textFrom (Host.report Host.ops fault) = (fault.report world, fault.reported world) := by
  refine Prod.ext (fault.textFrom_report world) ?_
  have hAfter := fault.describe_snd world
  rw [World.textFrom, Host.report, HostM.runOn_bind]
  revert hAfter
  rcases HostM.runOn (Host.describe Host.ops fault) world with ⟨other | text, after⟩ <;> exact id

/-- What converting a host value comes to: no converter is asked, or the one that was found answers. -/
theorem run_fromHostBy (converters : Converters) (typeId : String) (value : Ref) (world : World) :
    (fromHostBy converters typeId value).run.run world =
      match world.registry.lookup typeId with
      | .error error => (.error error, world)
      | .ok wrapper =>
        match converters wrapper value world with
        | (.ok pointer, body) => (.ok pointer, body)
        | (.error fault, body) => (.error (.conversion typeId (fault.report body)), fault.reported body) := by
  rw [fromHostBy, run_bind, run_lookup]
  cases world.registry.lookup typeId with
  | error error => rfl
  | ok wrapper =>
    dsimp only
    rw [run_bind, show (modifyGet (converters wrapper value) : BridgeM _).run.run world =
      (.ok (converters wrapper value world).1, (converters wrapper value world).2) from rfl]
    rcases converters wrapper value world with ⟨fault | pointer, body⟩
    · dsimp only
      have hReport : (modifyGet (World.textFrom (Host.report Host.ops fault)) :
          BridgeM String).run.run body = (.ok (fault.report body), fault.reported body) :=
        congrArg (fun (told : String × World) => (Except.ok told.1, told.2)) (fault.textFrom_report_eq body)
      rw [BridgeM.explained, run_bind, hReport]
      rfl
    · rfl

/-- With the converters that wrappers name this is how the bridge converts. -/
@[simp] theorem fromHostBy_named : fromHostBy .named = fromHost := by
  funext typeId value world
  have hBy := run_fromHostBy .named typeId value world
  have hOwn : (fromHost typeId value).run.run world = (fromHostBy .named typeId value).run.run world := by
    rw [hBy, fromHost, run_bind, run_lookup]
    cases world.registry.lookup typeId with
    | error error => rfl
    | ok wrapper =>
      dsimp only
      rw [BridgeM.run_host, Converters.named]
      rcases HostM.runOn (wrapper.fromHost.run value) world with ⟨fault | pointer, body⟩
      · simp only [fault.textFrom_report_eq]
      · rfl
  exact hOwn.symm

@[simp] theorem fromHostForBy_named : fromHostForBy .named = fromHostFor := by
  funext signature value
  rw [fromHostForBy, fromHostBy_named, fromHostFor]

@[simp] theorem Export.fromHostBy_named : Export.fromHostBy .named = Export.fromHost := by
  funext thread typeId value output
  rw [Export.fromHostBy, HeapBridge.fromHostBy_named, Export.fromHost]

/-- A call that asks for the pointer of a host value, with its arguments as the caller has them. -/
inductive Conversion where
  | byType (typeId : String) (value : Ref)
  | bySignature (signature : String) (value : Ref)
  | exported (thread : Thread) (typeId : Option (List UInt8)) (value : Option Ref) (output : Bool)

namespace Conversion

/-- What a call answers: a result, or a status. -/
inductive Answer where
  | result (outcome : Except BridgeError Unit)
  | status (code : Int)

/-- What a call leaves behind: its answer, the output of the caller, and the world. -/
structure Left where
  answer : Answer
  output : Pointer
  world : World

/-- The answer of a call with this outcome. -/
def answer : Conversion → Except BridgeError Unit → Answer
  | exported _ _ _ _, .ok () => .status 0
  | exported _ _ _ _, .error _ => .status (-1)
  | _, outcome => .result outcome

/-- The thread of which a call sets the last error. -/
def thread? : Conversion → Option Thread
  | exported thread _ _ _ => some thread
  | _ => none

/-- The world in which a call does its work. -/
def entered (call : Conversion) (world : World) : World := call.thread?.elim world world.clearLastError

/-- The world in which a call has told of its error. -/
def told (call : Conversion) (error : BridgeError) (world : World) : World :=
  call.thread?.elim world fun thread => world.setLastError thread error.message

/-- The converter that a call comes to, and the host value that it is given; or why there is none. -/
def located (world : World) : Conversion → Except BridgeError (PointerWrapper × Ref)
  | byType typeId value => do return (← world.registry.lookup typeId, value)
  | bySignature signature value =>
    match TypeEncoding.identifier? signature with
    | some typeId => do return (← world.registry.lookup typeId, value)
    | none => .error (.unknownType signature)
  | exported _ typeId value output => do
    let typeId ← readText typeId
    Export.writable output
    let value ← Export.present value
    return (← world.registry.lookup typeId, value)

def store (old : Pointer) : Except BridgeError Pointer × World → Left
  | (.ok pointer, world) => ⟨.result (.ok ()), pointer, world⟩
  | (.error error, world) => ⟨.result (.error error), old, world⟩

/-- Calls for a caller whose output holds a pointer. -/
def perform (converters : Converters) (old : Pointer) (world : World) : Conversion → Left
  | byType typeId value => store old ((fromHostBy converters typeId value).run.run world)
  | bySignature signature value => store old ((fromHostForBy converters signature value).run.run world)
  | exported thread typeId value output =>
    let ((code, stored), world) := (Export.fromHostBy converters thread typeId value output).run world
    ⟨.status code, stored.getD old, world⟩

/-- With the converters that wrappers name these are the calls of the bridge. -/
theorem perform_named (call : Conversion) (old : Pointer) (world : World) :
    call.perform .named old world =
      match call with
      | byType typeId value => store old ((fromHost typeId value).run.run world)
      | bySignature signature value => store old ((fromHostFor signature value).run.run world)
      | exported thread typeId value output =>
        let ((code, stored), world) := (Export.fromHost thread typeId value output).run world
        ⟨.status code, stored.getD old, world⟩ := by
  cases call with
  | byType typeId value => rw [perform, fromHostBy_named]
  | bySignature signature value => rw [perform, fromHostForBy_named]
  | exported thread typeId value output => rw [perform, Export.fromHostBy_named]

variable (converters : Converters) (call : Conversion) (old : Pointer) (before : World)

/-- What a call leaves behind if only its converter is looked at. -/
def outcome : Left :=
  match call.located before with
  | .error error => ⟨call.answer (.error error), old, call.told error before⟩
  | .ok (wrapper, value) =>
    match converters wrapper value (call.entered before) with
    | (.ok pointer, body) => ⟨call.answer (.ok ()), pointer, body⟩
    | (.error fault, body) =>
      let error := BridgeError.conversion wrapper.typeId (fault.report body)
      ⟨call.answer (.error error), old, call.told error (fault.reported body)⟩

/-- Calls by an identifier of a type, as such and behind an encoding. -/
theorem store_fromHostBy {typeId : String} {value : Ref}
    (hAnswer : ∀ outcome, call.answer outcome = .result outcome) (hThread : call.thread? = none)
    (hLocated : call.located before = do return (← before.registry.lookup typeId, value)) :
    store old ((fromHostBy converters typeId value).run.run before) =
      call.outcome converters old before := by
  rw [run_fromHostBy, outcome, hLocated, entered, hThread]
  cases hLookup : before.registry.lookup typeId with
  | error error => simp only [store, hAnswer, told, hThread]; rfl
  | ok wrapper =>
    obtain rfl := (Registry.mem_of_lookup hLookup).2
    change store old (match converters wrapper value before with | (.ok _, _) => _ | (.error _, _) => _) =
      match converters wrapper value before with | (.ok _, _) => _ | (.error _, _) => _
    rcases converters wrapper value before with ⟨fault | pointer, body⟩
    · simp only [store, hAnswer, told, hThread]
      rfl
    · simp only [store, hAnswer]

/-- What a call leaves behind goes by its converter alone. -/
theorem perform_eq : call.perform converters old before = call.outcome converters old before := by
  cases call with
  | byType typeId value => exact store_fromHostBy converters _ old before (fun _ => rfl) rfl rfl
  | bySignature signature value =>
    rw [perform, fromHostForBy, run_bind, run_identifierOf]
    cases hIdentifier : TypeEncoding.identifier? signature with
    | none => simp only [outcome, located, hIdentifier]; rfl
    | some typeId =>
      refine store_fromHostBy converters _ old before (fun _ => rfl) rfl ?_
      simp only [located, hIdentifier]
  | exported thread text value output =>
    have hTold (error : BridgeError) : (before.clearLastError thread).setLastError thread error.message =
        (exported thread text value output).told error before :=
      World.setLastError_clearLastError thread error.message before
    rw [perform, Export.fromHostBy, Export.run_guarded]
    simp only [run_bind, Export.run_textArgument, Export.run_outputArgument, Export.run_itemArgument,
      outcome, located]
    cases readText text with
    | error error => exact congrArg (Left.mk _ _) (hTold error)
    | ok typeId =>
    cases output with
    | false => exact congrArg (Left.mk _ _) (hTold (.invalidArgument .nullOutput))
    | true =>
    cases value with
    | none => exact congrArg (Left.mk _ _) (hTold .nullHostValue)
    | some value =>
    -- the converter runs where the last error of the thread is cleared, in which the registry is the same
    have hRegistry : (before.clearLastError thread).registry = before.registry := rfl
    simp only [Export.writable, if_true, Export.present, Option.elim_some, run_fromHostBy, hRegistry, bind,
      Except.bind, pure, Except.pure, entered, thread?]
    cases hLookup : before.registry.lookup typeId with
    | error error => exact congrArg (Left.mk _ _) (hTold error)
    | ok wrapper =>
      obtain rfl := (Registry.mem_of_lookup hLookup).2
      dsimp only
      rcases converters wrapper value (before.clearLastError thread) with ⟨fault | pointer, body⟩ <;> rfl

/-- What a call leaves behind that fails: the output as it was, and the world as it is kept but for the last
error of the thread that it tells. -/
structure Left.Fails (call : Conversion) (error : BridgeError) (old : Pointer) (kept : World)
    (left : Left) : Prop where
  answer : left.answer = call.answer (.error error)
  output : left.output = old
  registry : left.world.registry = kept.registry
  retainCount (address : Nat) : left.world.native.retainCount address = kept.native.retainCount address
  refCount (ref : Ref) : left.world.refCount ref = kept.refCount ref
  /-- Nothing else differs, either. -/
  world : left.world = call.told error kept

/-- To tell of an error changes last errors and nothing else. -/
theorem told_eq_withErrors (error : BridgeError) (world : World) :
    ∃ lastErrors, call.told error world = world.withErrors lastErrors := by
  cases call with
  | exported thread text value output =>
    change ∃ lastErrors, world.setLastError thread error.message = world.withErrors lastErrors
    unfold World.setLastError
    dsimp only
    split
    · exact ⟨_, rfl⟩
    · exact ⟨(thread, error.message) :: (world.clearLastError thread).lastErrors, rfl⟩
  | _ => exact ⟨world.lastErrors, rfl⟩

theorem Left.fails (error : BridgeError) (kept : World) :
    Left.Fails call error old kept ⟨call.answer (.error error), old, call.told error kept⟩ := by
  obtain ⟨lastErrors, hTold⟩ := call.told_eq_withErrors error kept
  refine ⟨rfl, rfl, ?_, fun address => ?_, fun ref => ?_, rfl⟩ <;> dsimp only <;> rw [hTold] <;> rfl

end Conversion

namespace Host.Fault

/-- Nothing but a key is shown for a report. -/
theorem reported_of_ne_missingKey {fault : Fault} (hCause : ∀ key, fault.cause ≠ .missingKey key)
    (world : World) : fault.reported world = world := by
  obtain ⟨cause, frames⟩ := fault
  cases cause with
  | missingKey key => exact absurd rfl (hCause key)
  | _ => rfl

/-- What is run for a report is host code, which registers nothing. -/
theorem registry_reported (fault : Fault) (world : World) :
    (fault.reported world).registry = world.registry := by
  unfold reported
  split
  · exact (HostM.changes_runOn _ world).cursors_registry.2
  · rfl

end Host.Fault

namespace Conversion

variable {converters : Converters} {call : Conversion} {old : Pointer} {before : World}
  {wrapper : PointerWrapper} {value : Ref}

/-- A call that comes to no converter fails for that reason. -/
theorem perform_rejected {error : BridgeError} (hLocated : call.located before = .error error) :
    call.perform converters old before = ⟨call.answer (.error error), old, call.told error before⟩ := by
  rw [perform_eq, outcome, hLocated]

/-- The output is written by the conversion that succeeds. -/
theorem perform_converted {pointer : Pointer} {body : World}
    (hLocated : call.located before = .ok (wrapper, value))
    (hRun : converters wrapper value (call.entered before) = (.ok pointer, body)) :
    call.perform converters old before = ⟨call.answer (.ok ()), pointer, body⟩ := by
  rw [perform_eq, outcome, hLocated]
  dsimp only
  rw [hRun]

/-- A converter that fails is told of by its report. -/
theorem perform_failed {fault : Fault} {body : World}
    (hLocated : call.located before = .ok (wrapper, value))
    (hRun : converters wrapper value (call.entered before) = (.error fault, body)) :
    (call.perform converters old before).Fails call (.conversion wrapper.typeId (fault.report body)) old
      (fault.reported body) := by
  rw [perform_eq, outcome, hLocated]
  dsimp only
  rw [hRun]
  exact Left.fails call old _ _

theorem told_entered (call : Conversion) (error : BridgeError) (world : World) :
    call.told error (call.entered world) = call.told error world := by
  cases call with
  | exported thread text value output =>
    exact World.setLastError_clearLastError thread error.message world
  | _ => rfl

/-- A handle that is refused leaves everything as it was. -/
theorem perform_refused {typeId : String} (hLocated : call.located before = .ok (wrapper, value))
    (hNamed : converters wrapper value = Converters.named wrapper value)
    (hHandle : wrapper.fromHost = .handle typeId) (hRefused : before.accepted? typeId value = none) :
    (call.perform converters old before).Fails call
      (.conversion wrapper.typeId ("TypeError: " ++ (before.refusal typeId value).text)) old before := by
  have hHost : (call.entered before).host = before.host := by cases call <;> rfl
  have hRun : converters wrapper value (call.entered before) =
      (.error { cause := before.refusal typeId value }, call.entered before) := by
    rw [hNamed, Converters.named, hHandle, runOn_fromHost_handle]
    simp only [World.accepted?, World.refusal, hHost] at hRefused ⊢
    rw [hRefused]
  have hReport := (Host.Fault.textFrom_report_eq { cause := before.refusal typeId value }
    (call.entered before)).symm.trans (textFrom_report_refusal typeId value before (call.entered before))
  obtain ⟨hText, hKept⟩ := Prod.mk.inj hReport
  rw [perform_eq, outcome, hLocated]
  dsimp only
  rw [hRun]
  dsimp only
  rw [hText, hKept, told_entered]
  exact Left.fails call old _ before

/-- A call that converts no pointer changes nothing of its own, whatever the converters are. If its arguments
are rejected, or there is no converter for them, its caller's output and all of the world are as before, but
for the last error that tells why. If the converter fails, the output is as before, and the world is as the
converter has left it and its report was made, which only shows a key that was looked up in vain. If it
succeeds, the output is what it has come to. A routine from outside fails with every status but zero, whatever
it has stored, and without an exception of its own this is reported as a `ValueError`; it comes to NULL if it
succeeds without storing anything. A handle of another type, or no handle, is refused and nothing is changed. -/
theorem failures_atomic (converters : Converters) (call : Conversion) (old : Pointer) (before : World) :
    (∀ error, call.located before = .error error →
      (call.perform converters old before).Fails call error old before) ∧
    ∀ wrapper value, call.located before = .ok (wrapper, value) →
      (∀ fault body, converters wrapper value (call.entered before) = (.error fault, body) →
        (call.perform converters old before).Fails call
          (.conversion wrapper.typeId (fault.report body)) old (fault.reported body) ∧
        (fault.reported body).registry = body.registry ∧
        ((∀ key, fault.cause ≠ .missingKey key) → fault.reported body = body)) ∧
      (∀ pointer body, converters wrapper value (call.entered before) = (.ok pointer, body) →
        call.perform converters old before = ⟨call.answer (.ok ()), pointer, body⟩) ∧
      (∀ routine result body, converters wrapper value = Converters.ofRoutine routine →
        routine (call.entered before) = (result, body) →
        (result.status = 0 → call.perform converters old before =
          ⟨call.answer (.ok ()), result.stored.getD .null, body⟩) ∧
        (∀ fault, result.status ≠ 0 → result.pending = some fault →
          (call.perform converters old before).Fails call
            (.conversion wrapper.typeId (fault.report body)) old (fault.reported body)) ∧
        (result.status ≠ 0 → result.pending = none →
          (call.perform converters old before).Fails call
            (.conversion wrapper.typeId "ValueError: pointer conversion failed") old body)) ∧
      ∀ typeId, converters wrapper value = Converters.named wrapper value →
        wrapper.fromHost = .handle typeId → before.accepted? typeId value = none →
        (call.perform converters old before).Fails call
          (.conversion wrapper.typeId ("TypeError: " ++ (before.refusal typeId value).text)) old before := by
  refine ⟨fun error hLocated => ?rejected, fun wrapper value hLocated => ⟨fun fault body hRun => ?failed,
    fun pointer body hRun => perform_converted hLocated hRun, fun routine result body hRoutine hRun => ?routine,
    fun typeId => perform_refused hLocated⟩⟩
  case rejected =>
    rw [perform_rejected hLocated]
    exact Left.fails call old error before
  case failed =>
    exact ⟨perform_failed hLocated hRun, fault.registry_reported body,
      fun hCause => fault.reported_of_ne_missingKey hCause body⟩
  case routine =>
    have hConverter : converters wrapper value (call.entered before) =
        (if result.status = 0 then .ok (result.stored.getD .null)
          else .error (result.pending.getD { cause := .converterFailed }), body) := by
      rw [hRoutine, Converters.ofRoutine_eq, hRun]
    refine ⟨fun hStatus => perform_converted hLocated ?_, fun fault hStatus hPending =>
      perform_failed hLocated ?_, fun hStatus hPending => ?_⟩
    · rw [hConverter, if_pos hStatus]
    · rw [hConverter, if_neg hStatus, hPending, Option.getD_some]
    · have hSilent : converters wrapper value (call.entered before) =
          (.error { cause := .converterFailed }, body) := by
        rw [hConverter, if_neg hStatus, hPending, Option.getD_none]
      exact perform_failed hLocated hSilent

/-- A number that is asked of a script, which looks for a key in vain. A key of this kind is shown by a call
that puts an object into a list. -/
def shownKey : List Command :=
  [.host (.bind "l" (.list [])), .host (.bind "s" (.set [])), .host (.bind "o" (.list [])),
    .host (.bind "k" (.scripted "K" .plain none [("__repr__", .call "l" "append" [.slot "o"] (.text [107]))])),
    .host (.bind "x" (.scripted "X" .plain none [("__index__", .call "s" "remove" [.slot "k"] (.int 1))])),
    .wrapper (.register "T" "T" .number .number)]

/-- A failed conversion can do more than its converter: making the report shows the key, by host code that
takes one more reference to an object. -/
theorem failures_shownKey :
    let before := (Session.performAll shownKey {}).2.world
    let body := (Converters.named ⟨"T", "T", .number, .number⟩ (.object 4) before).2
    let left := (fromHost "T" (.object 4)).run.run before
    left.1.isOk = false ∧ body.refCount (.object 2) = before.refCount (.object 2) ∧
      left.2.refCount (.object 2) = before.refCount (.object 2) + 1 := by
  decide +kernel

end Conversion

end HeapBridge
