import HeapBridge.Proofs.Surfacing.HostCalls
import HeapBridge.Proofs.Surfacing.Steps
/-!
Errors of the backing value are surfaced. The program of an operation on a foreign set does the same when its
calls are put on record, whatever the host value is and does. So it answers only if none of its calls has ended
in a fault, and otherwise fails with the report of that fault under the name of the call. Nothing else is kept
of the fault.
-/
namespace HeapBridge

open Host (HostM Ref)

/-- A request to a foreign set, by its host value, or to an iterator over one, by its number. -/
inductive SetRequest where
  | contains (set : Ref) (item : NativeValue)
  | add (set : Ref) (item : NativeValue)
  | remove (set : Ref) (item : NativeValue)
  | removeAll (set : Ref)
  | count (set : Ref)
  | iterate (set : Ref)
  /-- The next element as a host object. -/
  | next (number : Nat)
  /-- The next element as a native value. -/
  | nextValue (number : Nat)
  | member (set : Ref) (item : NativeValue)
  | anyElement (set : Ref)
  | mutableCopy (set : Ref)

namespace SetRequest

@[reducible] def Answer : SetRequest → Type
  | .contains _ _ => Bool
  | .add _ _ | .remove _ _ | .removeAll _ => Unit
  | .count _ | .iterate _ | .mutableCopy _ => Nat
  | .next _ => Option Ref
  | .nextValue _ | .member _ _ | .anyElement _ => Option NativeValue

def run : (request : SetRequest) → BridgeM request.Answer
  | .contains set item => ForeignSet.contains set item
  | .add set item => ForeignSet.add set item
  | .remove set item => ForeignSet.remove set item
  | .removeAll set => ForeignSet.removeAll set
  | .count set => ForeignSet.count set
  | .iterate set => ForeignSet.iterate set
  | .next number => ForeignSet.next number
  | .nextValue number => ForeignSet.nextValue number
  | .member set item => ForeignSet.member set item
  | .anyElement set => ForeignSet.anyElement set
  | .mutableCopy set => ForeignSet.mutableCopy set

/-- The calls that a request can make. -/
def makes : SetRequest → HostCall → Prop
  | .contains set _, .contains other _ => other = set
  | .add set _, .add other _ => other = set
  | .remove set _, .discard other _ => other = set
  | .removeAll set, .clear other => other = set
  | .count set, .length other => other = set
  | .iterate set, .start other => other = set
  | .next number, .step other => other = number
  | .nextValue number, .step other => other = number
  | .member set _, .contains other _ => other = set
  | .member set _, .iterate other => other = set
  | .member _ _, .next _ => True
  | .member _ _, .equal _ _ => True
  | .member _ _, .exceed _ => True
  | .anyElement set, .iterate other => other = set
  | .anyElement _, .next _ => True
  | .mutableCopy set, .copy other => other = set
  | _, _ => False

/-- What is done for a request, by whatever makes its calls. -/
def program {m : Type → Type} [Monad m] [MonadExceptOf BridgeError m] [MonadLiftT BridgeM m] [HostCaller m] :
    (request : SetRequest) → m request.Answer
  | .contains set item => SetProgram.contains set item
  | .add set item => SetProgram.add set item
  | .remove set item => SetProgram.remove set item
  | .removeAll set => SetProgram.removeAll set
  | .count set => SetProgram.count set
  | .iterate set => HostCaller.call (.start set)
  | .next number => HostCaller.call (.step number)
  | .nextValue number => SetProgram.nextValue number
  | .member set item => SetProgram.member set item
  | .anyElement set => SetProgram.anyElement set
  | .mutableCopy set => SetProgram.mutableCopy set

def recorded (request : SetRequest) : RecordM request.Answer := request.program

theorem run_eq_program (request : SetRequest) : request.run = request.program := by
  cases request <;> rfl

end SetRequest

section Spare

variable {α β : Type}

theorem Spare.pure (value : α) : Spare (pure value) := fun _ _ hError => nomatch hError

theorem Spare.bind {first : BridgeM α} {next : α → BridgeM β} (hFirst : Spare first)
    (hNext : ∀ value, Spare (next value)) : Spare (first >>= next) := by
  intro world error hError
  rw [run_bind] at hError
  rcases hRun : first.run.run world with ⟨fault | value, after⟩ <;> rw [hRun] at hError
  · obtain rfl := Except.error.inj hError
    exact hFirst world fault (congrArg Prod.fst hRun)
  · exact hNext value after error hError

theorem Spare.map {operation : BridgeM α} (f : α → β) (hSpare : Spare operation) :
    Spare (f <$> operation) := by
  rw [map_eq_pure_bind]
  exact hSpare.bind fun value => .pure (f value)

theorem Spare.get {next : World → BridgeM α} (hNext : ∀ world, Spare (next world)) :
    Spare (get >>= next) := fun world => hNext world world

theorem Spare.modifyGet (step : World → α × World) : Spare (modifyGet step) :=
  fun _ _ hError => nomatch hError

theorem Spare.modify (step : World → World) : Spare (modify step) :=
  fun _ _ hError => nomatch hError

theorem Spare.keeping {operation : BridgeM α} (refs : List Ref) (hSpare : Spare operation) :
    Spare (BridgeM.keeping refs operation) := by
  intro world error hError
  rw [BridgeM.run_keeping] at hError
  exact hSpare _ error hError

theorem NativeValue.spare_toHost (value : NativeValue) : Spare value.toHost := by
  cases value with
  | set address => exact .get fun _ => .pure _
  | host ref => exact .pure ref
  | _ => exact .modifyGet _

/-- A proxy can only fail for want of storage. -/
theorem ForeignSet.spare_create (value : Ref) : Spare (ForeignSet.create value) := by
  refine .bind (.modifyGet _) fun storage => ?_
  cases storage with
  | none =>
    refine .bind (.modify _) fun _ world error hError => ?_
    exact ⟨_, (Except.error.inj hError).symm⟩
  | some address => exact .bind (.modify _) fun _ => .bind (.modify _) fun _ => .pure _

theorem NativeValue.spare_ofRef (ref : Ref) : Spare (NativeValue.ofRef ref) :=
  .bind (.modify _) fun _ => .pure _

/-- Reading an item makes no call to the host. -/
theorem NativeValue.spare_fromHost (ref : Ref) : Spare (NativeValue.fromHost ref) := by
  refine .get fun world => ?_
  split
  · exact .pure _
  · exact .pure _
  · split
    · exact .pure _
    · exact spare_ofRef ref
  · exact .pure _
  · split
    · exact .pure _
    · exact spare_ofRef ref
  · exact .bind (.modify _) fun _ => .bind (ForeignSet.spare_create ref) fun _ => .pure _
  · exact spare_ofRef ref

theorem ForeignSet.spare_elementValue (element : Option Ref) : Spare (ForeignSet.elementValue element) := by
  cases element with
  | some element => exact .keeping _ (.map _ (NativeValue.spare_fromHost element))
  | none => exact .pure _

end Spare

section Operations

variable {makes : HostCall → Prop}

theorem records_toHost (item : NativeValue) : Records makes (liftM item.toHost) item.toHost :=
  .silently item.spare_toHost fun _ => item.overlooks_toHost

theorem records_elementValue (element : Option Ref) :
    Records makes (liftM (ForeignSet.elementValue element)) (ForeignSet.elementValue element) :=
  .silently (ForeignSet.spare_elementValue element) fun _ => ForeignSet.overlooks_elementValue element

theorem records_contains (set : Ref) (item : NativeValue) (hMakes : ∀ ref, makes (.contains set ref)) :
    Records makes (SetProgram.contains set item) (SetProgram.contains set item) :=
  .bind (records_toHost item) fun ref => .keeping [ref] (.call (.contains set ref) (hMakes ref))

theorem records_command {recorded : RecordM Ref} {plain : BridgeM Ref} (arguments : List Ref)
    (hRecords : Records makes recorded plain) :
    Records makes (SetProgram.command arguments recorded) (SetProgram.command arguments plain) :=
  .keeping arguments (.bind hRecords fun answer =>
    .silently (.modify _) fun _ => BridgeM.overlooks_release [answer])

theorem records_matched? (element needle : Ref) (hMakes : makes (.equal element needle)) :
    Records makes (SetProgram.matched? element needle) (SetProgram.matched? element needle) := by
  refine .bind (.call (.equal element needle) hMakes) fun equal => ?_
  cases equal with
  | true =>
    exact .silently (.map _ (NativeValue.spare_fromHost element)) fun _ =>
      .map _ (NativeValue.overlooks_fromHost element)
  | false => exact .pure none

/-- The search asks for elements, compares them, and gives up if there is no end to them. -/
theorem records_findEqual (iterator needle : Ref) (hNext : makes (.next iterator))
    (hEqual : ∀ element, makes (.equal element needle)) (hExceed : makes (.exceed iterator)) (steps : Nat) :
    Records makes (SetProgram.findEqual iterator needle steps)
      (SetProgram.findEqual iterator needle steps) := by
  induction steps with
  | zero => exact .bind (.call (.exceed iterator) hExceed) nofun
  | succ steps ih =>
    refine .bind (.call (.next iterator) hNext) fun element => ?_
    cases element with
    | none => exact .pure none
    | some element =>
      refine .bind (.keeping [element] (records_matched? element needle (hEqual element))) fun found => ?_
      cases found with
      | some value => exact .pure (some value)
      | none => exact ih

/-- Membership either asks the host at once or goes through the elements. -/
theorem records_member (set : Ref) (item : NativeValue) (hContains : ∀ ref, makes (.contains set ref))
    (hIterate : makes (.iterate set)) (hNext : ∀ iterator, makes (.next iterator))
    (hEqual : ∀ element needle, makes (.equal element needle)) (hExceed : ∀ iterator, makes (.exceed iterator)) :
    Records makes (SetProgram.member set item) (SetProgram.member set item) := by
  refine .bind (records_toHost item) fun needle => .keeping [needle] ?_
  refine .bind (records_contains set item hContains) fun found => ?_
  cases found with
  | false => exact .pure none
  | true =>
    refine .bind (.silently (.get fun _ => .pure _) fun _ => .get (fun _ => rfl) fun _ => .pure)
      fun limit => ?_
    refine .bind (.call (.iterate set) hIterate) fun iterator => .keeping [iterator] ?_
    exact records_findEqual iterator needle (hNext iterator) (fun element => hEqual element needle)
      (hExceed iterator) limit

theorem records_anyElement (set : Ref) (hIterate : makes (.iterate set))
    (hNext : ∀ iterator, makes (.next iterator)) :
    Records makes (SetProgram.anyElement set) (SetProgram.anyElement set) := by
  refine .bind (.call (.iterate set) hIterate) fun iterator => .keeping [iterator] ?_
  exact .bind (.call (.next iterator) (hNext iterator)) records_elementValue

/-- Every request does the same with its calls on record, and surfaces their faults. -/
theorem SetRequest.records (request : SetRequest) :
    Records request.makes request.recorded request.run := by
  rw [run_eq_program]
  cases request with
  | contains set item => exact records_contains set item fun _ => rfl
  | add set item =>
    exact .bind (records_toHost item) fun ref => records_command [ref] (.call (.add set ref) rfl)
  | remove set item =>
    exact .bind (records_toHost item) fun ref => records_command [ref] (.call (.discard set ref) rfl)
  | removeAll set => exact records_command [] (.call (.clear set) rfl)
  | count set => exact .call (.length set) rfl
  | iterate set => exact .call (.start set) rfl
  | next number => exact .call (.step number) rfl
  | nextValue number => exact .bind (.call (.step number) rfl) records_elementValue
  | member set item =>
    exact records_member set item (fun _ => rfl) rfl (fun _ => trivial) (fun _ _ => trivial) fun _ => trivial
  | anyElement set => exact records_anyElement set rfl fun _ => trivial
  | mutableCopy set =>
    refine .bind (.call (.copy set) rfl) fun copy => ?_
    refine .bind (.silently (.modify _) fun _ => overlooks_hold copy) fun _ => ?_
    exact .silently (ForeignSet.spare_create copy) fun _ => ForeignSet.overlooks_create copy

/-- No request depends on what is pending elsewhere. -/
theorem SetRequest.overlooks_run {change : Surroundings → Surroundings} (request : SetRequest) :
    Overlooks (World.alter change) request.run := by
  cases request with
  | contains set item => exact ForeignSet.overlooks_contains set item
  | add set item => exact ForeignSet.overlooks_add set item
  | remove set item => exact ForeignSet.overlooks_remove set item
  | removeAll set => exact ForeignSet.overlooks_removeAll set
  | count set => exact ForeignSet.overlooks_count set
  | iterate set => exact ForeignSet.overlooks_iterate set
  | next number => exact ForeignSet.overlooks_next number
  | nextValue number => exact ForeignSet.overlooks_nextValue number
  | member set item => exact ForeignSet.overlooks_member set item
  | anyElement set => exact ForeignSet.overlooks_anyElement set
  | mutableCopy set => exact ForeignSet.overlooks_mutableCopy set

end Operations

/-- Whether a recorded run is also one of another operation, unless it has asked an iterator for more than it is
followed for. -/
def RecordM.Approximates {α : Type} (iterator : Ref) (short long : RecordM α) : Prop :=
  ∀ recording : Recording, short.run.run recording = long.run.run recording ∨
    ∃ earlier entered, (short.run.run recording).2.made = earlier ++ [⟨.exceed iterator, entered⟩]

end HeapBridge
