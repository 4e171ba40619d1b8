import HeapBridge.Proofs.Ownership.Operations
/-!
What registrations and conversions of pointers do on demand. A conversion to a host value makes at most the
handle that its wrapper says, which retains the pointer first, or registers the type that its converter
names; the caller has to own what the pointer leads to. Every other conversion leaves alone what is owned.
-/
namespace HeapBridge

open Host (HostM Ref)

variable {may : Deed → Prop} {others : Estate} {world : World}

/-- What a wrapper does on demand when it converts a pointer to a host value. -/
def PointerWrapper.Converts (wrapper : PointerWrapper) (pointer : Pointer) : Deed → Prop
  | .handle handle =>
    wrapper.toHost = .handle handle.typeId handle.typeName handle.ownership ∧
      handle.pointer = pointer ∧ pointer ≠ .null
  | .registration nested =>
    ∃ typeId, wrapper.toHost = .register typeId ∧ nested = .borrowing typeId "Nested"
  | .builtins | .poison | .cursor _ => False

def Registry.Converts (registry : Registry) (typeId : String) (pointer : Pointer) (deed : Deed) :
    Prop :=
  ∃ wrapper, registry.lookup typeId = .ok wrapper ∧ wrapper.Converts pointer deed

theorem Pointer.KeptIn.resolve {pointer : Pointer} {account : Account}
    (hKept : pointer.KeptIn account) : (account.world.resolve pointer).KeptIn account := by
  intro address hResolved
  cases pointer with
  | word n => exact .inr (World.isSome_object?_of_resolve_word hResolved)
  | _ => exact hKept address hResolved

/-- A step that leaves alone what is owned outside. -/
theorem transfers_step {operation : BridgeM Unit}
    (hStep : Step may ⟨others, world⟩ ⟨others, (operation.run.run world).2⟩) :
    Transfers may others world 0 operation fun _ => 0 := by
  unfold Transfers Hands
  simpa only [onSuccess_zero, ledger_world, zero_add] using hStep.toSteps

theorem transfers_register {wrapper : PointerWrapper} (hMay : may (.registration wrapper)) :
    Transfers may others world 0 (register wrapper) fun _ => 0 :=
  transfers_step (.register wrapper hMay)

/-- Registering one wrapper after another needs leave for each of them, and moves no reference. -/
theorem transfers_registerAll {wrappers : List PointerWrapper}
    (hMay : ∀ wrapper ∈ wrappers, may (.registration wrapper)) :
    Transfers may others world 0 (registerAll wrappers) fun _ => 0 := by
  induction wrappers generalizing world with
  | nil => exact .pure rfl
  | cons wrapper rest ih =>
    refine .via (fun _ => 0) ?_ fun outcome _ _ => ?_
    · have hRegister : Transfers may others world 0 (register wrapper) fun _ => 0 :=
        transfers_register (hMay wrapper List.mem_cons_self)
      have hAttempt := hRegister.attempt
      rwa [onSuccess_nothing] at hAttempt
    · exact .bind (ih fun other hOther => hMay other (List.mem_cons_of_mem _ hOther))
        fun _ _ _ => .pure rfl

theorem Registry.insert_eq_ok {registry next : Registry} {wrapper : PointerWrapper}
    (hInsert : registry.insert wrapper = .ok next) : next = registry.push wrapper := by
  unfold Registry.insert at hInsert
  split_ifs at hInsert
  exact (Except.ok.inj hInsert).symm

/-- Registrations leave it open what came of installing the built-in wrappers. -/
theorem builtins_register (wrapper : PointerWrapper) (world : World) :
    ((register wrapper).run.run world).2.registry.builtins = world.registry.builtins := by
  rw [run_register_eq]
  cases hInsert : world.registry.insert wrapper with
  | ok registry =>
    rw [Registry.insert_eq_ok hInsert]
    rfl
  | error error =>
    dsimp only
    rw [World.note_registry]

/-- What the built-in installation came to is not for single registrations to say. -/
theorem builtins_registerAll (wrappers : List PointerWrapper) (world : World) :
    ((registerAll wrappers).run.run world).2.registry.builtins = world.registry.builtins := by
  induction wrappers generalizing world with
  | nil => rfl
  | cons wrapper rest ih =>
    rw [registerAll, run_bind, run_attempt]
    dsimp only
    rw [run_bind]
    refine Eq.trans ?_ ((ih _).trans (builtins_register wrapper world))
    rcases (registerAll rest).run.run ((register wrapper).run.run world).2 with ⟨_ | _, _⟩ <;> rfl

/-- The first installation registers all built-ins and then notes what came of it. -/
theorem transfers_installFirst (hMay : ∀ wrapper ∈ builtinWrappers, may (.registration wrapper))
    (hBuiltins : may .builtins) (hFirst : world.registry.builtins = none) :
    Transfers may others world 0 installFirst fun _ => 0 := by
  refine .bind (transfers_registerAll hMay) fun outcomes after hRun => ?_
  have hStill := builtins_registerAll builtinWrappers world
  rw [hRun, hFirst] at hStill
  have hInstalled : Step may ⟨others, after⟩ ⟨others, { after.note (installationEvent (installation outcomes)) with
      registry := { after.registry with builtins := some (installation outcomes) } }⟩ :=
    .installed (installation outcomes) hBuiltins hStill
  unfold Transfers Hands
  simp only [ledger_world, zero_add, onSuccess_zero]
  cases hOutcome : installation outcomes <;> rw [hOutcome] at hInstalled <;> exact hInstalled.toSteps

/-- Later installations only answer what the first one came to. -/
theorem transfers_installBuiltins
    (hMay : ∀ wrapper ∈ builtinWrappers, may (.registration wrapper)) (hBuiltins : may .builtins) :
    Transfers may others world 0 installBuiltins fun _ => 0 := by
  refine .get ?_
  split
  next outcome _ => exact BridgeM.transfers_finish (onSuccess_zero outcome).symm
  next hFirst =>
    exact .bind (transfers_installFirst hMay hBuiltins hFirst) fun outcome _ _ =>
      BridgeM.transfers_finish (onSuccess_zero outcome).symm

theorem transfers_dieRegistering {wrapper : PointerWrapper} (hPoison : may .poison) :
    Transfers may others world 0 (dieRegistering wrapper) fun _ => 0 :=
  transfers_step (.die wrapper hPoison)

theorem run_lookup (typeId : String) (world : World) :
    (lookup typeId).run.run world = (world.registry.lookup typeId, world) :=
  BridgeM.run_finish _ world

theorem neutral_lookup (typeId : String) : Neutral (lookup typeId) :=
  .get fun _ => fun _ _ _ => BridgeM.transfers_finish (onSuccess_zero _).symm

theorem neutral_identifierOf (signature : String) : Neutral (identifierOf signature) := by
  unfold identifierOf
  split
  · exact .pure
  · exact .throw

theorem run_makeHandle (typeId typeName : String) (pointer : Pointer)
    (ownership : Option Discipline) (world : World) :
    (makeHandle typeId typeName pointer ownership).run.run world =
      let handle : Handle := { typeId, typeName, pointer := world.resolve pointer, ownership }
      (.ok (.object (world.retainOwned handle).host.cells.size), { world.retainOwned handle with
        host := ((world.retainOwned handle).host.allocate { body := .handle handle }).2 }) := rfl

/-- A handle that is made comes with the reference that its discipline takes. -/
theorem transfers_makeHandle {typeId typeName : String} {pointer : Pointer}
    {ownership : Option Discipline}
    (hMay : may (.handle { typeId, typeName, pointer := world.resolve pointer, ownership }))
    (hKept : pointer.KeptIn ⟨others.1, world⟩) :
    Transfers may others world 0 (makeHandle typeId typeName pointer ownership) fun _ => 0 := by
  unfold Transfers Hands
  rw [run_makeHandle]
  simpa only [onSuccess_ok, ledger_world, zero_add] using (Step.handle _ hMay hKept.resolve).toSteps

/-- A converter makes no other moves on demand than its wrapper says. -/
theorem PointerWrapper.transfers_run {wrapper : PointerWrapper} {pointer : Pointer}
    (hMay : ∀ deed, wrapper.Converts (world.resolve pointer) deed → may deed)
    (hKept : pointer.KeptIn ⟨others.1, world⟩) (typeId : String) :
    Transfers may others world 0 (wrapper.toHost.run typeId pointer) fun _ => 0 := by
  cases hConverter : wrapper.toHost with
  | number => exact BridgeM.neutral_make rfl may others world
  | constant ref => exact .pure rfl
  | refuse exception text => exact BridgeM.neutral_explained _ _ may others world
  | nil => exact .pure rfl
  | register inner =>
    refine .via (fun _ => 0) (.handled ?_ fun error _ => .pure rfl) fun outcome _ _ =>
      BridgeM.neutral_make rfl may others _
    exact .bind (transfers_register (hMay _ ⟨inner, hConverter, rfl⟩)) fun _ _ _ => .pure rfl
  | handle handleId name discipline =>
    unfold ToHost.run
    dsimp only
    split
    next => exact .pure rfl
    next hNull =>
      exact transfers_makeHandle
        (hMay _ ⟨hConverter, rfl, fun hSame => hNull (decide_eq_true (World.resolve_eq_null_iff.mp hSame))⟩) hKept
  | object =>
    refine .get ?_
    split <;> exact .pure rfl

/-- A converter of the registry does what it may do, and hands over one reference to what it makes. -/
theorem transfers_toHost {typeId : String} {pointer : Pointer}
    (hMay : ∀ deed, world.registry.Converts typeId (world.resolve pointer) deed → may deed)
    (hKept : pointer.KeptIn ⟨others.1, world⟩) :
    Transfers may others world 0 (toHost typeId pointer) fun ref => Estate.ofHost {ref} := by
  refine .bind (neutral_lookup typeId may others world) fun wrapper middle hRun => ?_
  rw [run_lookup, Prod.mk.injEq] at hRun
  obtain ⟨hLookup, rfl⟩ := hRun
  refine .bind (wrapper.transfers_run ?_ hKept typeId) fun ref _ _ =>
    .bind (transfers_hold ref) fun _ _ _ => .pure rfl
  exact fun deed hConverts => hMay deed ⟨wrapper, hLookup, hConverts⟩

/-- Going by an encoding is going by the identifier that it carries. -/
theorem transfers_toHostFor {signature : String} {pointer : Pointer}
    (hMay : ∀ deed typeId, TypeEncoding.identifier? signature = some typeId →
      world.registry.Converts typeId (world.resolve pointer) deed → may deed)
    (hKept : pointer.KeptIn ⟨others.1, world⟩) :
    Transfers may others world 0 (toHostFor signature pointer) fun ref => Estate.ofHost {ref} := by
  unfold toHostFor identifierOf
  split
  next typeId hIdentifier =>
    exact .via (fun _ => 0) (.pure rfl) fun _ _ hRun => by
      cases hRun
      exact transfers_toHost (fun deed => hMay deed typeId hIdentifier) hKept
  next => exact .via (fun _ => 0) .throw fun _ _ hRun => nomatch hRun

theorem neutral_fromHost (typeId : String) (value : Ref) : Neutral (fromHost typeId value) :=
  .bind (neutral_lookup typeId) fun _ => BridgeM.neutral_host _ _

theorem neutral_fromHostFor (signature : String) (value : Ref) :
    Neutral (fromHostFor signature value) :=
  .bind (neutral_identifierOf signature) fun typeId => neutral_fromHost typeId value

end HeapBridge
