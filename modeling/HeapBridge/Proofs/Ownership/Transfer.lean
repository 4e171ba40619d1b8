import HeapBridge.Proofs.Ownership.Steps
/-!
Transfers. An operation takes over what its caller owns and hands on what comes with its result; what it does
on the way is made of steps. An operation that fails has given back what it took. The rules follow the
structure of an operation: what is bound to it is handed what it hands on.
-/
namespace HeapBridge

open Host (HostM Ref)

/-- A state around a world, with what is owned in it. -/
class Holder (σ : Type) where
  world : σ → World
  estate : σ → Estate

instance : Holder World where
  world world := world
  estate _ := 0

variable {σ α β ε : Type} [Holder σ] {may : Deed → Prop} {others taken : Estate}

def Holder.ledger (beside : Estate) (state : σ) : Ledger :=
  ⟨beside + Holder.estate state, Holder.world state⟩

open Holder (ledger)

@[simp] theorem ledger_world (beside : Estate) (world : World) : ledger beside world = ⟨beside, world⟩ := by
  simp only [ledger, Holder.estate, Holder.world, add_zero]

/-- What is handed on with an outcome; an error comes with nothing. -/
def onSuccess (given : α → Estate) : Except ε α → Estate
  | .ok value => given value
  | .error _ => 0

@[simp] theorem onSuccess_ok (given : α → Estate) (value : α) :
    onSuccess given (.ok value : Except ε α) = given value := rfl

@[simp] theorem onSuccess_error (given : α → Estate) (error : ε) :
    onSuccess given (.error error) = 0 := rfl

@[simp] theorem onSuccess_zero (outcome : Except ε α) : onSuccess (fun _ => 0) outcome = 0 := by
  cases outcome <;> rfl

theorem onSuccess_nothing : (onSuccess fun _ => 0 : Except ε α → Estate) = fun _ => 0 :=
  funext onSuccess_zero

/-- Whether an operation on a state takes over `taken` and hands on what `given` says, by steps that may
do what `may` allows. What else is owned is `others`. -/
def Hands (may : Deed → Prop) (others : Estate) (state : σ) (taken : Estate)
    (operation : StateM σ α) (given : α → Estate) : Prop :=
  Steps may (ledger (taken + others) state)
    (ledger (given (operation.run state).1 + others) (operation.run state).2)

/-- The same for an operation that can fail. -/
def Transfers (may : Deed → Prop) (others : Estate) (state : σ)
    (taken : Estate) (operation : ExceptT ε (StateM σ) α)
    (given : α → Estate) : Prop :=
  Hands may others state taken operation.run (onSuccess given)

/-- What an operation on a world does to the native heap is made of moves. -/
theorem Hands.moves {world : World} {operation : StateM World α} {given : α → Estate}
    (hHands : Hands may others world taken operation given) :
    Moves may ⟨taken.1 + others.1, world⟩
      ⟨(given (operation.run world).1).1 + others.1, (operation.run world).2⟩ := by
  have hMoves := Steps.moves hHands
  rwa [ledger_world, ledger_world] at hMoves

/-- Beside what else is held, what an operation hands on is held after it if what it takes over was held. -/
theorem Hands.held {world : World} {operation : StateM World α} {given : α → Estate}
    (hHands : Hands may others world taken operation given)
    (hHeld : (world.held : Multiset Ref) = taken.2 + others.2) :
    ((operation.run world).2.held : Multiset Ref) = (given (operation.run world).1).2 + others.2 := by
  have hSettled := Steps.settled hHands
  rw [ledger_world, ledger_world] at hSettled
  exact hSettled hHeld

/-- Whether an operation leaves alone what is owned outside, wherever it runs. -/
def Neutral (operation : ExceptT ε (StateM σ) α) : Prop :=
  ∀ may others state, Transfers may others state 0 operation fun _ => 0

variable {state : σ} {given : β → Estate}

theorem Transfers.pure {value : β} (hTaken : taken = given value) :
    Transfers may others state taken (pure value : ExceptT ε (StateM σ) β) given :=
  hTaken ▸ .refl

theorem Transfers.throw {error : ε} :
    Transfers may others state 0 (throw error : ExceptT ε (StateM σ) β) given :=
  .refl

/-- Operations in a row move what both of them move. -/
theorem Transfers.bind {first : ExceptT ε (StateM σ) α} {next : α → ExceptT ε (StateM σ) β}
    {between : α → Estate} (hFirst : Transfers may others state taken first between)
    (hNext : ∀ value middle, first.run.run state = (.ok value, middle) →
      Transfers may others middle (between value) (next value) given) :
    Transfers may others state taken (first >>= next) given := by
  unfold Transfers Hands at hFirst ⊢
  rw [ExceptT.run_bind, StateT.run_bind]
  rcases hRun : first.run.run state with ⟨error | value, middle⟩
  · rw [hRun] at hFirst
    exact hFirst
  · rw [hRun] at hFirst
    exact hFirst.trans (hNext value middle hRun)

/-- The same with what is handed on between the two given. -/
theorem Transfers.via (between : α → Estate) {first : ExceptT ε (StateM σ) α}
    {next : α → ExceptT ε (StateM σ) β} (hFirst : Transfers may others state taken first between)
    (hNext : ∀ value middle, first.run.run state = (.ok value, middle) →
      Transfers may others middle (between value) (next value) given) :
    Transfers may others state taken (first >>= next) given :=
  hFirst.bind hNext

/-- Reading the state leaves everything as it is. -/
theorem Transfers.get {next : σ → ExceptT ε (StateM σ) β}
    (hNext : Transfers may others state taken (next state) given) :
    Transfers may others state taken (get >>= next) given :=
  hNext

theorem Transfers.steps {change : σ → σ} {given : Unit → Estate}
    (hSteps : Steps may (ledger (taken + others) state)
      (ledger (given () + others) (change state))) :
    Transfers may others state taken (modify change : ExceptT ε (StateM σ) Unit) given :=
  hSteps

theorem Transfers.stepsGet {change : σ → α × σ} {given : α → Estate}
    (hSteps : Steps may (ledger (taken + others) state)
      (ledger (given (change state).1 + others) (change state).2)) :
    Transfers may others state taken (modifyGet change : ExceptT ε (StateM σ) α) given :=
  hSteps

/-- An operation whose error is taken for a result. -/
theorem Transfers.attempt {operation : ExceptT ε (StateM σ) β}
    (hOperation : Transfers may others state taken operation given) :
    Transfers may others state taken
      (tryCatch (Except.ok <$> operation) fun error => Pure.pure (Except.error error) :
        ExceptT ε (StateM σ) (Except ε β)) (onSuccess given) := by
  unfold Transfers Hands at hOperation ⊢
  rw [run_attempt]
  exact hOperation

/-- An operation with a handler for its errors. -/
theorem Transfers.handled {operation : ExceptT ε (StateM σ) β}
    {handler : ε → ExceptT ε (StateM σ) β}
    (hOperation : Transfers may others state taken operation given)
    (hHandler : ∀ error after, Transfers may others after 0 (handler error) given) :
    Transfers may others state taken (tryCatch operation handler) given := by
  unfold Transfers Hands at hOperation ⊢
  rw [run_tryCatch]
  rcases hRun : operation.run.run state with ⟨error | value, after⟩ <;> rw [hRun] at hOperation
  · exact hOperation.trans (hHandler error after)
  · exact hOperation

/-- An operation during which something is kept, which is handed to the handler of its errors. -/
theorem Transfers.handledKeeping {operation : ExceptT ε (StateM σ) β}
    {handler : ε → ExceptT ε (StateM σ) β} {kept : Estate}
    (hOperation : Transfers may (kept + others) state 0 operation given)
    (hHandler : ∀ error after,
      Transfers may others after kept (handler error) fun value => kept + given value) :
    Transfers may others state kept (tryCatch operation handler)
      fun value => kept + given value := by
  unfold Transfers Hands at hOperation ⊢
  rw [zero_add] at hOperation
  rw [run_tryCatch]
  rcases hRun : operation.run.run state with ⟨error | value, after⟩ <;> rw [hRun] at hOperation
  · rw [onSuccess_error, zero_add] at hOperation
    exact hOperation.trans (hHandler error after)
  · rw [onSuccess_ok, add_left_comm, ← add_assoc] at hOperation
    exact hOperation

/-- What is put aside meanwhile is there afterwards, unless the operation fails. -/
theorem Transfers.carrying {operation : ExceptT ε (StateM σ) β} (kept : Estate)
    (hOperation : Transfers may (kept + others) state taken operation given)
    (hSucceeds : ∀ error after, operation.run.run state ≠ (.error error, after)) :
    Transfers may others state (kept + taken) operation fun value => kept + given value := by
  unfold Transfers Hands at hOperation ⊢
  rcases hRun : operation.run.run state with ⟨error | value, after⟩
  · exact absurd hRun (hSucceeds error after)
  · rw [hRun] at hOperation
    simp only [onSuccess_ok, add_assoc, add_left_comm kept] at hOperation ⊢
    exact hOperation

/-- An operation after which something that was kept meanwhile is used up in any case. -/
theorem Transfers.tryFinally {operation : ExceptT ε (StateM σ) β} {change : σ → σ}
    {kept : Estate}
    (hOperation : Transfers may (kept + others) state 0 operation given)
    (hChange : ∀ result after, Steps may (ledger (kept + (result + others)) after)
      (ledger (result + others) (change after))) :
    Transfers may others state kept (tryFinally operation (modify change)) given := by
  unfold Transfers Hands at hOperation ⊢
  rw [zero_add] at hOperation
  rw [run_finally]
  have hChanged := hChange (onSuccess given (operation.run.run state).1) (operation.run.run state).2
  rw [add_left_comm] at hChanged
  exact hOperation.trans hChanged

namespace Neutral

theorem pure {value : α} : Neutral (pure value : ExceptT ε (StateM σ) α) := fun _ _ _ => .refl

theorem throw {error : ε} : Neutral (throw error : ExceptT ε (StateM σ) α) := fun _ _ _ => .refl

theorem bind {first : ExceptT ε (StateM σ) α} {next : α → ExceptT ε (StateM σ) β}
    (hFirst : Neutral first) (hNext : ∀ value, Neutral (next value)) : Neutral (first >>= next) :=
  fun may others state =>
    (hFirst may others state).bind fun value middle _ => hNext value may others middle

theorem map {operation : ExceptT ε (StateM σ) α} (f : α → β) (hOperation : Neutral operation) :
    Neutral (f <$> operation) := by
  rw [map_eq_pure_bind]
  exact hOperation.bind fun _ => .pure

theorem get {next : σ → ExceptT ε (StateM σ) β} (hNext : ∀ state, Neutral (next state)) :
    Neutral (get >>= next) :=
  fun may others state => .get (hNext state may others state)

theorem handled {operation : ExceptT ε (StateM σ) β} {handler : ε → ExceptT ε (StateM σ) β}
    (hOperation : Neutral operation) (hHandler : ∀ error, Neutral (handler error)) :
    Neutral (tryCatch operation handler) :=
  fun may others state =>
    (hOperation may others state).handled fun error after => hHandler error may others after

end Neutral

end HeapBridge
