import HeapBridge.Proofs.Ownership.Moves
import HeapBridge.Proofs.Running
import Mathlib.Algebra.Group.Prod
import Mathlib.Logic.Relation
/-!
Steps. A step is one thing that an operation of the bridge does, with all of it that anything looks at: what
becomes of what is owned outside, in the native heap and of host objects, and what is logged with it. Each
operation is taken apart into its steps once. What it is made of otherwise is read off these: a step is made of
moves, and if just those references to host objects are held that are owned, it is so after the step.
-/
namespace HeapBridge

open Host (HostM Ref)
open Native (NativeClass Payload)

/-- What is owned outside the heaps: in the native heap, and the references to host objects that are held. -/
abbrev Estate := Multiset Holding × Multiset Ref

namespace Estate

/-- What is owned in the native heap only. -/
def ofNative (holdings : Multiset Holding) : Estate := (holdings, 0)

/-- References to host objects only. -/
def ofHost (refs : Multiset Ref) : Estate := (0, refs)

@[simp] theorem ofNative_zero : ofNative 0 = 0 := rfl

@[simp] theorem ofHost_zero : ofHost 0 = 0 := rfl

theorem ofNative_add (holdings others : Multiset Holding) :
    ofNative (holdings + others) = ofNative holdings + ofNative others := rfl

@[simp] theorem fst_ofNative_add (holdings : Multiset Holding) (rest : Estate) :
    (ofNative holdings + rest).1 = holdings + rest.1 := rfl

@[simp] theorem snd_ofNative_add (holdings : Multiset Holding) (rest : Estate) :
    (ofNative holdings + rest).2 = rest.2 := zero_add _

@[simp] theorem fst_ofHost_add (refs : Multiset Ref) (rest : Estate) : (ofHost refs + rest).1 = rest.1 :=
  zero_add _

@[simp] theorem snd_ofHost_add (refs : Multiset Ref) (rest : Estate) :
    (ofHost refs + rest).2 = refs + rest.2 := rfl

theorem ofHost_cons (ref : Ref) (refs : List Ref) :
    ofHost ↑(ref :: refs) = ofHost {ref} + ofHost ↑refs := by
  simp only [ofHost, Prod.mk_add_mk, zero_add, Multiset.singleton_add, Multiset.cons_coe]

end Estate

open Estate

/-- What is owned from outside the heaps, and the world in which it is owned. -/
structure Ledger where
  estate : Estate
  world : World

namespace Ledger

/-- The part of the native heap. -/
def account (ledger : Ledger) : Account := ⟨ledger.estate.1, ledger.world⟩

/-- Whether just those references to host objects are held that are owned. -/
def Settled (ledger : Ledger) : Prop := (ledger.world.held : Multiset Ref) = ledger.estate.2

end Ledger

/-- Host code has run from one world to another, and holds no more and no less than before. -/
structure Host.Visits (before after : World) : Prop where
  changes : Host.Changes before after
  held : after.held.Perm before.held

/-- A caller that passes a pointer to a native object keeps the object. -/
def Pointer.KeptIn (pointer : Pointer) (account : Account) : Prop :=
  ∀ address, pointer = .native address → account.Keeps address

/-- Storage that comes without an object, if there is any. -/
def storageHoldings (storage : Option Nat) : Multiset Holding :=
  storage.elim 0 fun address => {.storage address}

/-- One thing that an operation does. What is owned beside it does not matter to it. -/
inductive Step (may : Deed → Prop) : Ledger → Ledger → Prop where
  | host {estate : Estate} {before after : World} (visits : Host.Visits before after) :
      Step may ⟨estate, before⟩ ⟨estate, after⟩
  | hold {estate rest : Estate} {world : World} (refs : List Ref) (hEstate : estate = ofHost ↑refs + rest) :
      Step may ⟨rest, world⟩ ⟨estate, world.holdAll refs⟩
  | unhold {estate rest : Estate} {world : World} (ref : Ref) (hEstate : estate = ofHost {ref} + rest) :
      Step may ⟨estate, world⟩ ⟨rest, world.unhold ref⟩
  | reserve {estate rest : Estate} {world : World} (nativeClass : NativeClass)
      (hEstate : estate = ofNative (storageHoldings (world.reserve nativeClass).1) + rest) :
      Step may ⟨rest, world⟩ ⟨estate, (world.reserve nativeClass).2⟩
  | discard {estate rest : Estate} {world : World} (address : Nat)
      (hEstate : estate = ofNative {.storage address} + rest) :
      Step may ⟨estate, world⟩ ⟨rest, { world with native := world.native.discard address }⟩
  /-- Storage is lost track of, and never used. -/
  | abandon {estate rest : Estate} {world : World} (address : Nat)
      (hEstate : estate = ofNative {.storage address} + rest) : Step may ⟨estate, world⟩ ⟨rest, world⟩
  /-- An object that is no proxy is made. -/
  | install {before after rest : Estate} {world : World} (address : Nat) {payload : Payload}
      (hOther : payload.nativeClass ≠ .foreignSet) (hBefore : before = ofNative {.storage address} + rest)
      (hAfter : after = ofNative {.reference address} + rest) :
      Step may ⟨before, world⟩ ⟨after, { world with native := world.native.install address payload }⟩
  /-- A proxy is made, and that is logged. -/
  | adopt {before after rest : Estate} {world : World} (address : Nat) (value : Ref)
      (hBefore : before = ofNative {.storage address} + rest)
      (hAfter : after = ofNative {.reference address} + rest) :
      Step may ⟨before, world⟩ ⟨after, World.emit .setCreated
        { world with native := world.native.install address (.foreignSet value) }⟩
  | retain {estate rest : Estate} {world : World} (address : Nat)
      (hKept : (Ledger.account ⟨rest, world⟩).Keeps address)
      (hEstate : estate = ofNative {.reference address} + rest) :
      Step may ⟨rest, world⟩ ⟨estate, world.retainNative address⟩
  | drop {estate rest : Estate} {world : World} (address : Nat)
      (hEstate : estate = ofNative {.reference address} + rest) :
      Step may ⟨estate, world⟩ ⟨rest, (world.dropNative address).2⟩
  /-- A handle is made after what it owns was retained. -/
  | handle {estate : Estate} {world : World} (handle : Handle) (hMay : may (.handle handle))
      (hKept : handle.pointer.KeptIn (Ledger.account ⟨estate, world⟩)) :
      Step may ⟨estate, world⟩ ⟨estate, { world.retainOwned handle with
        host := ((world.retainOwned handle).host.allocate { body := .handle handle }).2 }⟩
  | register {estate : Estate} {world : World} (wrapper : PointerWrapper)
      (hMay : may (.registration wrapper)) :
      Step may ⟨estate, world⟩ ⟨estate, ((register wrapper).run.run world).2⟩
  /-- What came of the first installation of the built-in wrappers is noted. -/
  | installed {estate : Estate} {world : World} (outcome : Except BridgeError Unit) (hMay : may .builtins)
      (hFirst : world.registry.builtins = none) :
      Step may ⟨estate, world⟩ ⟨estate, { world.note (installationEvent outcome) with
        registry := { world.registry with builtins := some outcome } }⟩
  /-- A writer dies in the middle of its work. -/
  | die {estate : Estate} {world : World} (wrapper : PointerWrapper) (hMay : may .poison) :
      Step may ⟨estate, world⟩ ⟨estate, ((dieRegistering wrapper).run.run world).2⟩
  /-- Something is told to callers, or forgotten. -/
  | told {estate : Estate} {world : World} (lastErrors returned : List (Thread × String)) :
      Step may ⟨estate, world⟩ ⟨estate, { world with lastErrors, returned }⟩
  | startCursor {estate : Estate} {world : World} (cursor : Cursor) :
      Step may ⟨estate, world⟩ ⟨estate, (world.startCursor cursor).2⟩
  | moveCursor {estate : Estate} {world : World} (number : Nat) (cursor : Cursor)
      (hMay : may (.cursor number)) : Step may ⟨estate, world⟩ ⟨estate, world.moveCursor number cursor⟩

abbrev Steps (may : Deed → Prop) : Ledger → Ledger → Prop := Relation.ReflTransGen (Step may)

variable {α : Type} {may : Deed → Prop} {start finish : Ledger} {rest : Estate} {world : World}

theorem Step.toSteps (step : Step may start finish) : Steps may start finish := .single step

namespace World

theorem held_reserve (nativeClass : NativeClass) (world : World) :
    (world.reserve nativeClass).2.held = world.held := by
  unfold reserve
  split <;> rfl

theorem held_retainOwned (handle : Handle) (world : World) :
    (world.retainOwned handle).held = world.held := by
  obtain ⟨typeId, typeName, pointer, ownership⟩ := handle
  rcases ownership with _ | discipline
  · rfl
  · cases discipline <;> cases pointer <;> rfl

/-- What is noted is noted in the log alone. -/
theorem note_eq (event : Option Event) (world : World) :
    world.note event = { world with log := world.log ++ event.toList } := by
  cases event with
  | none => rw [Option.toList_none, List.append_nil]; rfl
  | some event => rfl

@[simp] theorem note_registry (event : Option Event) (world : World) :
    (world.note event).registry = world.registry := by
  rw [note_eq]

/-- Reserved storage is handed on, if there is any. -/
theorem moves_reserve {rest : Multiset Holding} (nativeClass : NativeClass) (world : World) :
    Moves may ⟨rest, world⟩
      ⟨storageHoldings (world.reserve nativeClass).1 + rest, (world.reserve nativeClass).2⟩ := by
  unfold reserve
  split
  next refusals _ => simpa only [storageHoldings, Option.elim_none, zero_add] using
    (Move.refusals refusals).toMoves
  next => exact (Move.reserve nativeClass rfl).toMoves.trans (Move.refusals _).toMoves

theorem moves_told {holdings : Multiset Holding} (lastErrors returned : List (Thread × String))
    (world : World) : Moves may ⟨holdings, world⟩ ⟨holdings, { world with lastErrors, returned }⟩ := by
  simpa only [List.append_nil] using
    (@Move.note may holdings world [] List.not_mem_nil lastErrors returned).toMoves

theorem moves_note {holdings : Multiset Holding} {event : Option Event} (hEvent : event ≠ some .setReleased)
    (world : World) : Moves may ⟨holdings, world⟩ ⟨holdings, world.note event⟩ := by
  rw [note_eq]
  refine (Move.note event.toList ?_ world.lastErrors world.returned).toMoves
  simpa using hEvent

end World

/-- What becomes of the registration of a wrapper, in any registry. -/
theorem run_register_eq (wrapper : PointerWrapper) (world : World) :
    (register wrapper).run.run world =
      match world.registry.insert wrapper with
      | .ok registry =>
        (.ok (), { world.note (Registry.insertEvent wrapper (.ok registry)) with registry })
      | .error error => (.error error, world.note (Registry.insertEvent wrapper (.error error))) := by
  rw [register, run_get, run_bind]
  cases world.registry.insert wrapper <;> rfl

/-- What a writer leaves that dies: the event it was about to log, and a poisoned registry if its identifier
was proper. -/
theorem run_dieRegistering (wrapper : PointerWrapper) (world : World) :
    (dieRegistering wrapper).run.run world =
      match Registry.insertEvent wrapper (world.registry.insert wrapper) with
      | some event =>
        (.ok (), if isIdentifier wrapper.typeId then
            { world.emit event with registry := { world.registry with poisoned := true } }
          else world.emit event)
      | none => ((world.registry.insert wrapper).map fun _ => (), world) := by
  rw [dieRegistering, run_get]
  dsimp only
  cases Registry.insertEvent wrapper (world.registry.insert wrapper) with
  | none => cases world.registry.insert wrapper <;> rfl
  | some event =>
    dsimp only
    rw [run_bind]
    cases isIdentifier wrapper.typeId <;> rfl

theorem Registry.insertEvent_ne_setReleased (wrapper : PointerWrapper)
    (outcome : Except BridgeError Registry) :
    Registry.insertEvent wrapper outcome ≠ some .setReleased := by
  unfold Registry.insertEvent
  split <;> nofun

theorem installationEvent_ne_setReleased (outcome : Except BridgeError Unit) :
    installationEvent outcome ≠ some .setReleased := by
  cases outcome <;> nofun

/-! What each step does to the native heap is made of moves. -/

/-- A refused registration moves nothing at all. -/
theorem moves_register {holdings : Multiset Holding} {wrapper : PointerWrapper}
    (hMay : may (.registration wrapper)) (world : World) :
    Moves may ⟨holdings, world⟩ ⟨holdings, ((register wrapper).run.run world).2⟩ := by
  rw [run_register_eq]
  cases hInsert : world.registry.insert wrapper with
  | ok registry =>
    refine (world.moves_note (Registry.insertEvent_ne_setReleased wrapper (.ok registry))).trans ?_
    exact (Move.register wrapper hMay (by rwa [World.note_registry])).toMoves
  | error error => exact world.moves_note (Registry.insertEvent_ne_setReleased wrapper (.error error))

/-- A writer that dies leaves the registry poisoned and everything else as it was. -/
theorem moves_dieRegistering {holdings : Multiset Holding} (wrapper : PointerWrapper) (hMay : may .poison)
    (world : World) : Moves may ⟨holdings, world⟩ ⟨holdings, ((dieRegistering wrapper).run.run world).2⟩ := by
  rw [run_dieRegistering]
  cases hEvent : Registry.insertEvent wrapper (world.registry.insert wrapper) with
  | none => exact .refl
  | some event =>
    have hEmit : Moves may ⟨holdings, world⟩ ⟨holdings, world.note (some event)⟩ :=
      world.moves_note (hEvent ▸ Registry.insertEvent_ne_setReleased wrapper (world.registry.insert wrapper))
    dsimp only
    split
    · exact hEmit.trans (Move.poison hMay).toMoves
    · exact hEmit

/-- What a new handle owns is retained for it first. -/
theorem moves_newHandle {holdings : Multiset Holding} {handle : Handle} (hMay : may (.handle handle))
    (hKept : handle.pointer.KeptIn ⟨holdings, world⟩) :
    Moves may ⟨holdings, world⟩ ⟨holdings, { world.retainOwned handle with
      host := ((world.retainOwned handle).host.allocate { body := .handle handle }).2 }⟩ := by
  have hMade (before : World) (hNothing : handle.holdings = 0) : Moves may ⟨holdings, before⟩
      ⟨holdings, { before with
        host := (before.host.allocate { body := .handle handle }).2
        calls := before.calls ++ handle.calls .retain }⟩ :=
    (Move.handle handle hMay (by rw [hNothing, zero_add])).toMoves
  obtain ⟨typeId, typeName, pointer, ownership⟩ := handle
  rcases ownership with _ | discipline
  · have hPlain := hMade world rfl
    rw [Handle.calls, Option.toList_none, List.map_nil, List.append_nil] at hPlain
    exact hPlain
  · cases discipline <;> cases pointer <;> first
      | exact hMade world rfl
      | exact (Move.retain _ (hKept _ rfl) rfl).toMoves.trans (Move.handle _ hMay rfl).toMoves

/-- Every primitive step is a row of moves of one account. -/
theorem Step.moves (step : Step may start finish) : Moves may start.account finish.account := by
  cases step with
  | host visits => exact .host visits.changes _
  | hold refs hEstate =>
    have hSame := congrArg Prod.fst hEstate
    rw [fst_ofHost_add] at hSame
    unfold Ledger.account
    exact hSame ▸ .host (Host.Change.hold refs).toChanges _
  | unhold ref hEstate =>
    have hSame := congrArg Prod.fst hEstate
    rw [fst_ofHost_add] at hSame
    unfold Ledger.account
    exact hSame ▸ .host (Host.Change.unhold ref).toChanges _
  | reserve nativeClass hEstate => exact hEstate ▸ World.moves_reserve nativeClass _
  | discard address hEstate => exact (Move.discard address (congrArg Prod.fst hEstate)).toMoves
  | abandon address hEstate => exact (Move.abandon address (congrArg Prod.fst hEstate)).toMoves
  | install address _ hBefore hAfter =>
    exact (Move.install address _ (congrArg Prod.fst hBefore) (congrArg Prod.fst hAfter)).toMoves
  | @adopt _ _ _ world address value hBefore hAfter =>
    exact (Move.install address _ (congrArg Prod.fst hBefore) (congrArg Prod.fst hAfter)).toMoves.trans
      (Move.note [.setCreated] (by simp) world.lastErrors world.returned).toMoves
  | retain address hKept hEstate => exact (Move.retain address hKept (congrArg Prod.fst hEstate)).toMoves
  | drop address hEstate => exact (Move.drop address (congrArg Prod.fst hEstate)).toMoves
  | handle handle hMay hKept => exact moves_newHandle hMay hKept
  | register wrapper hMay => exact moves_register hMay _
  | @installed _ world outcome hMay _ =>
    refine (world.moves_note (installationEvent_ne_setReleased outcome)).trans ?_
    rw [← World.note_registry (installationEvent outcome) world]
    exact (Move.builtins hMay _).toMoves
  | die wrapper hMay => exact moves_dieRegistering wrapper hMay _
  | told lastErrors returned => exact World.moves_told lastErrors returned _
  | startCursor cursor => exact (Move.startCursor cursor).toMoves
  | moveCursor number cursor hMay => exact (Move.moveCursor number cursor hMay).toMoves

/-- Whatever is done by steps is made of moves. -/
theorem Steps.moves (steps : Steps may start finish) : Moves may start.account finish.account := by
  induction steps with
  | refl => exact .refl
  | tail _ last ih => exact ih.trans last.moves

theorem World.held_note (event : Option Event) (world : World) : (world.note event).held = world.held := by
  rw [note_eq]

/-- A step hands on just the references that are held for it, and none is held but for somebody. -/
theorem Step.settled (step : Step may start finish) (hSettled : start.Settled) : finish.Settled := by
  unfold Ledger.Settled at hSettled ⊢
  cases step with
  | host visits => exact (Multiset.coe_eq_coe.mpr visits.held).trans hSettled
  | hold refs hEstate =>
    dsimp only at hSettled ⊢
    rw [hEstate, snd_ofHost_add, ← hSettled, Multiset.coe_add]
    rfl
  | @unhold _ _ world ref hEstate =>
    have hErase : ((world.unhold ref).held : Multiset Ref) = (world.held : Multiset Ref).erase ref := by
      rw [Multiset.coe_erase]
      rfl
    dsimp only at hSettled ⊢
    rw [hErase, hSettled, hEstate, snd_ofHost_add, Multiset.singleton_add, Multiset.erase_cons_head]
  | reserve nativeClass hEstate =>
    rw [World.held_reserve, hEstate, snd_ofNative_add]
    exact hSettled
  | discard address hEstate | abandon address hEstate =>
    rw [hEstate, snd_ofNative_add] at hSettled
    exact hSettled
  | install address _ hBefore hAfter | adopt address value hBefore hAfter =>
    rw [hBefore, snd_ofNative_add] at hSettled
    rw [hAfter, snd_ofNative_add]
    exact hSettled
  | retain address _ hEstate =>
    rw [hEstate, snd_ofNative_add]
    exact hSettled
  | @drop _ _ world address hEstate =>
    rw [hEstate, snd_ofNative_add] at hSettled
    rw [(world.aside_dropNative address).1]
    exact hSettled
  | handle handle _ _ => exact (congrArg _ (World.held_retainOwned handle _)).trans hSettled
  | @register _ world wrapper _ =>
    rw [run_register_eq]
    cases world.registry.insert wrapper with
    | ok registry => exact (congrArg _ (World.held_note _ world)).trans hSettled
    | error error => exact (congrArg _ (World.held_note _ world)).trans hSettled
  | @installed _ world outcome _ _ => exact (congrArg _ (World.held_note _ world)).trans hSettled
  | @die _ world wrapper _ =>
    rw [run_dieRegistering]
    cases Registry.insertEvent wrapper (world.registry.insert wrapper) with
    | none => exact hSettled
    | some event =>
      dsimp only
      split <;> exact hSettled
  | told lastErrors returned => exact hSettled
  | startCursor cursor => exact hSettled
  | moveCursor number cursor _ => exact hSettled

theorem Steps.settled (steps : Steps may start finish) (hSettled : start.Settled) : finish.Settled := by
  induction steps with
  | refl => exact hSettled
  | tail _ last ih => exact last.settled ih

/-! Host code, and what gives references up. -/

namespace Host

theorem HostM.changes_runOn (operation : HostM α) (world : World) :
    Host.Changes world (HostM.runOn operation world).2 :=
  operation.changes {} world

theorem HostM.visits_runOn (operation : HostM α) (world : World) :
    Visits world (HostM.runOn operation world).2 :=
  ⟨changes_runOn operation world, operation.balanced {} world⟩

theorem Visits.make {body : Body} (hBody : body.isHandle = false) (world : World) :
    Visits world { world with host := (world.host.make body).2 } :=
  ⟨.make hBody world, .refl _⟩

end Host

namespace World

theorem visits_release (refs : List Ref) (world : World) : Host.Visits world (world.release refs) :=
  HostM.visits_runOn _ world

theorem changes_release (refs : List Ref) (world : World) : Host.Changes world (world.release refs) :=
  (world.visits_release refs).changes

theorem changes_letGo (ref : Ref) (world : World) : Host.Changes world (world.letGo ref) :=
  (Host.Change.unhold ref).toChanges.trans (changes_release [ref] _)

theorem visits_settle (world : World) : Host.Visits world world.settle :=
  HostM.visits_runOn _ world

theorem changes_settle (world : World) : Host.Changes world world.settle := world.visits_settle.changes

theorem visits_textFrom (operation : HostM String) (world : World) :
    Host.Visits world (world.textFrom operation).2 := by
  have hVisits := HostM.visits_runOn operation world
  unfold textFrom
  split
  next hRun => rwa [hRun] at hVisits
  next hRun => rwa [hRun] at hVisits

theorem steps_hold (ref : Ref) (world : World) :
    Steps may ⟨rest, world⟩ ⟨ofHost {ref} + rest, world.hold ref⟩ :=
  (Step.hold [ref] rfl).toSteps

theorem steps_unhold (ref : Ref) (world : World) :
    Steps may ⟨ofHost {ref} + rest, world⟩ ⟨rest, world.unhold ref⟩ :=
  (Step.unhold ref rfl).toSteps

/-- Letting go of a host object takes the reference to it over. -/
theorem steps_letGo (ref : Ref) (world : World) :
    Steps may ⟨ofHost {ref} + rest, world⟩ ⟨rest, world.letGo ref⟩ :=
  (steps_unhold ref world).tail (.host (visits_release [ref] _))

/-- References that are let go of are used up. -/
theorem steps_letGoAll (refs : List Ref) (world : World) :
    Steps may ⟨ofHost ↑refs + rest, world⟩ ⟨rest, refs.foldl (fun world ref => world.letGo ref) world⟩ := by
  induction refs generalizing world with
  | nil => simpa using Relation.ReflTransGen.refl
  | cons ref others ih =>
    rw [ofHost_cons, add_assoc]
    exact (steps_letGo ref world).trans (ih _)

/-- Releasing a native object takes a reference to it over. -/
theorem steps_releaseNative (address : Nat) (world : World) :
    Steps may ⟨ofNative {.reference address} + rest, world⟩ ⟨rest, world.releaseNative address⟩ :=
  (Step.drop address rfl).toSteps.tail (.host (visits_release _ _))

theorem steps_lastErrors (lastErrors : List (Thread × String)) (world : World) :
    Steps may ⟨rest, world⟩ ⟨rest, { world with lastErrors }⟩ :=
  (Step.told lastErrors world.returned).toSteps

theorem steps_setLastError (thread : Thread) (text : String) (world : World) :
    Steps may ⟨rest, world⟩ ⟨rest, world.setLastError thread text⟩ := by
  unfold setLastError
  dsimp only
  split
  · exact world.steps_lastErrors _
  · exact world.steps_lastErrors ((thread, text) :: (world.clearLastError thread).lastErrors)

end World

def NativeValue.holdings : NativeValue → Multiset Holding
  | .set address => {.reference address}
  | _ => 0

def NativeValue.claims : NativeValue → Multiset Ref
  | .host ref => {ref}
  | _ => 0

def NativeValue.estate (value : NativeValue) : Estate := (value.holdings, value.claims)

/-- Giving up a native value takes over what comes with it. -/
theorem NativeValue.steps_drop (value : NativeValue) (world : World) :
    Steps may ⟨value.estate + rest, world⟩ ⟨rest, value.drop world⟩ := by
  cases value with
  | set address => exact World.steps_releaseNative address world
  | host ref => exact World.steps_letGo ref world
  | _ => exact (zero_add rest).symm ▸ .refl

end HeapBridge
