import HeapBridge.Proofs.Boundary.Overlooking
/-!
Operations of the bridge take no notice of the last errors. Whatever is kept there, an operation comes to
the same, and leaves what is kept there as it is. What overlooks every change of the surroundings overlooks
this one; here it is carried over to the operations that ask the registry.
-/
namespace HeapBridge

open Host (HostM Ref)

variable {α β : Type} {world other : World} {lastErrors : List (Thread × String)}

namespace World

def withErrors (world : World) (lastErrors : List (Thread × String)) : World :=
  { world with lastErrors }

@[simp] theorem withErrors_self (world : World) : world.withErrors world.lastErrors = world := rfl

@[simp] theorem withErrors_withErrors (world : World) (first second : List (Thread × String)) :
    (world.withErrors first).withErrors second = world.withErrors second := rfl

@[simp] theorem lastErrors_withErrors (world : World) (lastErrors : List (Thread × String)) :
    (world.withErrors lastErrors).lastErrors = lastErrors := rfl

theorem clearLastError_eq (thread : Thread) (world : World) :
    world.clearLastError thread =
      world.withErrors (world.lastErrors.filter fun entry => entry.1 ≠ thread) := rfl

theorem clearLastError_clearLastError (thread : Thread) (world : World) :
    (world.clearLastError thread).clearLastError thread = world.clearLastError thread := by
  simp [clearLastError]

theorem setLastError_clearLastError (thread : Thread) (text : String) (world : World) :
    (world.clearLastError thread).setLastError thread text = world.setLastError thread text := by
  rw [setLastError, clearLastError_clearLastError, setLastError]

/-- What is told to one thread is kept apart from what is told to any other. -/
theorem lookup_filter_ne {α : Type} (thread other : Thread) (entries : List (Thread × α)) :
    (entries.filter fun entry => entry.1 ≠ thread).lookup other =
      if other = thread then none else entries.lookup other := by
  induction entries with
  | nil => simp
  | cons entry rest ih =>
    obtain ⟨owner, text⟩ := entry
    by_cases hOwner : owner = thread
    · rw [List.filter_cons_of_neg (by simpa using hOwner), ih, List.lookup_cons]
      by_cases hOther : other = thread
      · rw [if_pos hOther, if_pos hOther]
      · rw [beq_eq_false_iff_ne.mpr (hOwner ▸ hOther)]
    · rw [List.filter_cons_of_pos (by simpa using hOwner), List.lookup_cons, List.lookup_cons]
      by_cases hOther : other = owner
      · rw [beq_iff_eq.mpr hOther, if_neg (hOther ▸ hOwner)]
      · rw [beq_eq_false_iff_ne.mpr hOther]
        exact ih

theorem lastError?_clearLastError (thread other : Thread) (world : World) :
    (world.clearLastError thread).lastError? other =
      if other = thread then none else world.lastError? other :=
  lookup_filter_ne thread other world.lastErrors

/-- What is read as the last error after one was set. -/
theorem lastError?_setLastError (thread other : Thread) (text : String) (world : World) :
    (world.setLastError thread text).lastError? other =
      if other = thread then (if hasNul text then none else some text)
      else world.lastError? other := by
  have hCleared := lastError?_clearLastError thread other world
  unfold setLastError
  dsimp only
  by_cases hNul : hasNul text
  · rw [if_pos hNul, if_pos hNul, hCleared]
  · rw [if_neg hNul, if_neg hNul]
    change List.lookup other ((thread, text) :: (world.clearLastError thread).lastErrors) = _
    rw [List.lookup_cons]
    by_cases hOther : other = thread
    · rw [beq_iff_eq.mpr hOther, if_pos hOther]
    · rw [beq_eq_false_iff_ne.mpr hOther, if_neg hOther]
      rwa [if_neg hOther] at hCleared

end World

/-- Whether an operation neither sees nor changes the last errors. -/
def Unaware (operation : BridgeM α) : Prop :=
  ∀ world lastErrors, operation.run.run (world.withErrors lastErrors) =
    ((operation.run.run world).1, (operation.run.run world).2.withErrors lastErrors)

/-- The same for a change of the world. -/
def UnawareChange (change : World → World) : Prop :=
  ∀ world lastErrors, change (world.withErrors lastErrors) = (change world).withErrors lastErrors

namespace Unaware

/-- What was kept is still kept. -/
theorem lastErrors_run {operation : BridgeM α} (hOperation : Unaware operation) (world : World) :
    (operation.run.run world).2.lastErrors = world.lastErrors := by
  have hSame := congrArg (·.2.lastErrors) (hOperation world world.lastErrors)
  exact hSame

/-- What overlooks every change of the surroundings is unaware of the last errors. -/
theorem of_overlooks {operation : BridgeM α}
    (hOperation : ∀ change, Overlooks (World.alter change) operation) : Unaware operation :=
  fun world lastErrors => hOperation (fun kept => { kept with lastErrors }) world

theorem overlooks {operation : BridgeM α} (hOperation : Unaware operation)
    (lastErrors : List (Thread × String)) :
    Overlooks (fun world : World => world.withErrors lastErrors) operation :=
  fun world => hOperation world lastErrors

theorem pure {value : α} : Unaware (pure value : BridgeM α) := fun _ _ => rfl

theorem throw {error : BridgeError} : Unaware (throw error : BridgeM α) := fun _ _ => rfl

theorem bind {first : BridgeM α} {next : α → BridgeM β} (hFirst : Unaware first)
    (hNext : ∀ value, Unaware (next value)) : Unaware (first >>= next) :=
  fun world lastErrors =>
    Overlooks.bind (hFirst.overlooks lastErrors) (fun value => (hNext value).overlooks lastErrors) world

/-- What is read from the world are not the last errors. -/
theorem get {next : World → BridgeM α}
    (hBlind : ∀ world lastErrors, next (world.withErrors lastErrors) = next world)
    (hNext : ∀ world, Unaware (next world)) : Unaware (get >>= next) :=
  fun world lastErrors =>
    Overlooks.get (fun world => hBlind world lastErrors)
      (fun world => (hNext world).overlooks lastErrors) world

theorem modify {change : World → World} (hChange : UnawareChange change) :
    Unaware (modify change : BridgeM Unit) :=
  fun world lastErrors => congrArg (Prod.mk (Except.ok ())) (hChange world lastErrors)

theorem attempt {operation : BridgeM α} (hOperation : Unaware operation) :
    Unaware (tryCatch (Except.ok <$> operation) fun error => Pure.pure (Except.error error) :
      BridgeM (Except BridgeError α)) :=
  fun world lastErrors => (hOperation.overlooks lastErrors).attempt world

theorem handled {operation : BridgeM α} {handler : BridgeError → BridgeM α}
    (hOperation : Unaware operation) (hHandler : ∀ error, Unaware (handler error)) :
    Unaware (tryCatch operation handler) :=
  fun world lastErrors =>
    (hOperation.overlooks lastErrors).handled (fun error => (hHandler error).overlooks lastErrors) world

end Unaware

namespace UnawareChange

theorem of_commutes {step : World → World}
    (hStep : ∀ change, Commutes (World.alter change) step) : UnawareChange step :=
  fun world lastErrors => hStep (fun kept => { kept with lastErrors }) world

theorem releaseNative (address : Nat) : UnawareChange (World.releaseNative address) :=
  .of_commutes fun _ => World.commutes_releaseNative address

theorem note (event : Option Event) : UnawareChange (World.note event) := by
  cases event <;> exact fun _ _ => rfl

theorem dropIterator (number : Nat) : UnawareChange (ForeignSet.dropIterator number) :=
  .of_commutes fun _ => World.commutes_dropIterator number

end UnawareChange

theorem unaware_reserve (nativeClass : Native.NativeClass) :
    Unaware (modifyGet (World.reserve nativeClass) : BridgeM (Option Nat)) :=
  .of_overlooks fun _ => .modifyGet (World.reserve_alter nativeClass)

namespace BridgeM

theorem unaware_finish (outcome : Except BridgeError α) : Unaware (finish outcome) :=
  .of_overlooks fun _ => overlooks_finish outcome

theorem unaware_explained (explain : String → BridgeError) (fault : Host.Fault) :
    Unaware (explained explain fault : BridgeM α) :=
  .of_overlooks fun _ => overlooks_explained explain fault

theorem unaware_host (explain : String → BridgeError) (operation : HostM α) :
    Unaware (host explain operation) :=
  .of_overlooks fun _ => overlooks_host explain operation

theorem unaware_make (body : Host.Body) : Unaware (make body) :=
  .of_overlooks fun _ => overlooks_make body

end BridgeM

theorem unaware_hold (ref : Ref) : Unaware (modify (World.hold ref) : BridgeM Unit) :=
  .of_overlooks fun _ => overlooks_hold ref

namespace ForeignSet

theorem unaware_initialise (storage : Option Nat) (value : Ref) :
    Unaware (initialise storage value) :=
  .of_overlooks fun _ => overlooks_initialise storage value

theorem unaware_create (value : Ref) : Unaware (create value) :=
  .of_overlooks fun _ => overlooks_create value

theorem unaware_contains (backing : Ref) (item : NativeValue) : Unaware (contains backing item) :=
  .of_overlooks fun _ => overlooks_contains backing item

theorem unaware_add (backing : Ref) (item : NativeValue) : Unaware (add backing item) :=
  .of_overlooks fun _ => overlooks_add backing item

theorem unaware_remove (backing : Ref) (item : NativeValue) : Unaware (remove backing item) :=
  .of_overlooks fun _ => overlooks_remove backing item

theorem unaware_count (backing : Ref) : Unaware (count backing) :=
  .of_overlooks fun _ => overlooks_count backing

theorem unaware_iterate (backing : Ref) : Unaware (iterate backing) :=
  .of_overlooks fun _ => overlooks_iterate backing

theorem unaware_next (number : Nat) : Unaware (next number) :=
  .of_overlooks fun _ => overlooks_next number

end ForeignSet

theorem unaware_register (wrapper : PointerWrapper) : Unaware (register wrapper) := by
  refine .get (fun _ _ => rfl) fun world => .bind (.modify (.note _)) fun _ => ?_
  split
  · exact .modify fun _ _ => rfl
  · exact .throw

theorem unaware_registerAll (wrappers : List PointerWrapper) : Unaware (registerAll wrappers) := by
  induction wrappers with
  | nil => exact .pure
  | cons wrapper rest ih =>
    exact .bind (unaware_register wrapper).attempt fun _ => .bind ih fun _ => .pure

theorem unaware_installFirst : Unaware installFirst :=
  .bind (unaware_registerAll _) fun _ => .bind (.modify (.note _)) fun _ =>
    .bind (.modify fun _ _ => rfl) fun _ => .pure

theorem unaware_installBuiltins : Unaware installBuiltins := by
  refine .get (fun _ _ => rfl) fun world => ?_
  split
  · exact BridgeM.unaware_finish _
  · exact .bind unaware_installFirst BridgeM.unaware_finish

theorem unaware_lookup (typeId : String) : Unaware (lookup typeId) :=
  .get (fun _ _ => rfl) fun _ => BridgeM.unaware_finish _

theorem unaware_makeHandle (typeId typeName : String) (pointer : Pointer)
    (ownership : Option Discipline) : Unaware (makeHandle typeId typeName pointer ownership) :=
  .of_overlooks fun _ => overlooks_makeHandle typeId typeName pointer ownership

/-- Converters do not look at last errors. -/
theorem ToHost.unaware_run (converter : ToHost) (typeId : String) (pointer : Pointer) :
    Unaware (converter.run typeId pointer) := by
  cases converter with
  | number => exact BridgeM.unaware_make _
  | constant ref => exact .pure
  | refuse exception text => exact BridgeM.unaware_explained _ _
  | nil => exact .pure
  | register inner =>
    exact .bind (.handled (.bind (unaware_register _) fun _ => .pure) fun _ => .pure)
      fun _ => BridgeM.unaware_make _
  | handle handleId name discipline =>
    unfold ToHost.run
    dsimp only
    split
    · exact .pure
    · exact unaware_makeHandle _ _ _ _
  | object =>
    refine .get (fun _ _ => rfl) fun world => ?_
    split <;> exact .pure

theorem unaware_toHost (typeId : String) (pointer : Pointer) : Unaware (toHost typeId pointer) :=
  .bind (unaware_lookup typeId) fun wrapper => .bind (wrapper.toHost.unaware_run typeId pointer)
    fun ref => .bind (unaware_hold ref) fun _ => .pure

theorem unaware_fromHost (typeId : String) (value : Ref) : Unaware (fromHost typeId value) :=
  .bind (unaware_lookup typeId) fun _ => BridgeM.unaware_host _ _

def World.Agrees (world other : World) : Prop := ∃ lastErrors, other = world.withErrors lastErrors

namespace World.Agrees

theorem refl (world : World) : world.Agrees world := ⟨world.lastErrors, rfl⟩

theorem withErrors (world : World) (lastErrors : List (Thread × String)) :
    world.Agrees (world.withErrors lastErrors) := ⟨lastErrors, rfl⟩

theorem trans {third : World} (first : world.Agrees other) (second : other.Agrees third) :
    world.Agrees third := by
  obtain ⟨_, rfl⟩ := first
  obtain ⟨lastErrors, rfl⟩ := second
  exact ⟨lastErrors, rfl⟩

theorem clearLastError (hAgrees : world.Agrees other) (thread : Thread) :
    world.Agrees (other.clearLastError thread) :=
  hAgrees.trans ⟨_, World.clearLastError_eq thread other⟩

/-- Telling an error on a thread is nothing but a last error. -/
theorem setLastError (hAgrees : world.Agrees other) (thread : Thread) (text : String) :
    world.Agrees (other.setLastError thread text) := by
  unfold World.setLastError
  dsimp only
  split
  · exact hAgrees.clearLastError thread
  · exact hAgrees.trans ⟨_, rfl⟩

theorem change {change : World → World} (hChange : UnawareChange change)
    (hAgrees : world.Agrees other) : (change world).Agrees (change other) := by
  obtain ⟨lastErrors, rfl⟩ := hAgrees
  exact ⟨lastErrors, hChange world lastErrors⟩

end World.Agrees

/-- A call of an exported function comes to what the operation behind it does. -/
theorem Export.run_guarded_of_unaware {operation : BridgeM α} (hOperation : Unaware operation)
    (thread : Thread) (failed : α) (world : World) :
    (guarded thread failed operation).run world =
      match operation.run.run world with
      | (.ok value, after) => (value, after.clearLastError thread)
      | (.error error, after) => (failed, after.setLastError thread error.message) := by
  have hErrors := hOperation.lastErrors_run world
  rw [run_guarded, World.clearLastError_eq, hOperation]
  revert hErrors
  rcases operation.run.run world with ⟨error | value, after⟩ <;> intro hErrors <;>
    rw [← hErrors, ← World.clearLastError_eq]
  exact congrArg (Prod.mk failed) (World.setLastError_clearLastError ..)

end HeapBridge
