import HeapBridge.Proofs.Ownership.Exports
import HeapBridge.Proofs.Iteration.Agreement
import HeapBridge.Proofs.Members.Using
import HeapBridge.Proofs.Scenes.Operations
/-!
Uses of sets. Host sets are used one after the other through their proxies, by native callers through the exported
functions and by host code: they are asked, changed, searched and gone over. What is told is kept as plain data, so it
can be compared with what is told elsewhere. Whatever is done, nobody loses what they own.
-/
namespace HeapBridge

open Host (Fault Heap HostM Ref)

variable {α : Type} {world before middle after : World} {set : Ref}

/-- A value as native code gets to see it. A proxy, which is a new one each time, is told by what is behind it. -/
inductive Glimpse where
  | value (value : NativeValue)
  | proxy (ref : Ref)
  deriving DecidableEq

def NativeValue.glimpse (world : World) : NativeValue → Glimpse
  | .set address => (world.native.backing? address).elim (.value (.set address)) .proxy
  | value => .value value

/-- As what native code gets to see a host object. -/
def Host.Heap.glimpse (heap : Heap) (ref : Ref) : Glimpse :=
  match (heap.body ref).scalar?, heap.body ref with
  | some value, _ => .value value
  | none, .set _ => .proxy ref
  | none, _ => .value (.host ref)

inductive SetUse where
  /-- By native code through a proxy. -/
  | native (proxy : Nat) (operation : SetOperation NativeValue)
  /-- By a native caller on a thread through a proxy. -/
  | exported (thread : Thread) (proxy : Nat) (operation : ExportedOperation)
  /-- By host code. -/
  | host (operation : SetOperation Ref)
  | member (proxy : Nat) (item : NativeValue)
  | anyElement (proxy : Nat)
  /-- Starts an iterator. -/
  | iterate (proxy : Nat)
  /-- Starts one for a native caller on a thread. -/
  | iterateExported (thread : Thread) (proxy : Nat)
  /-- The next element of one of the iterators that were started over the set, by its rank. -/
  | next (rank : Nat)
  /-- The same for a native caller on a thread. -/
  | nextExported (thread : Thread) (rank : Nat)

deriving instance DecidableEq for SetAnswer

/-- What is told of a use. -/
inductive UseReply where
  | answer (result : Except BridgeError SetAnswer)
  | code (code : Int)
  | hosted (result : Except Fault SetAnswer)
  | element (result : Except BridgeError (Option Glimpse))
  | started (result : Except BridgeError Unit)
  | iterator (given : Bool)
  | output (code : Int) (element : Option Glimpse)
  | nothing
  deriving DecidableEq

/-- A world in which sets are used, with the iterators that were started: what they go over, and their numbers. -/
structure Usage where
  world : World
  started : List (Ref × Nat)

def Usage.numbers (set : Ref) (state : Usage) : List Nat :=
  (state.started.filter fun entry => entry.1 = set).map Prod.snd

/-- Does something with the host object behind a proxy. -/
def Usage.through (state : Usage) (proxy : Nat) (next : Ref → UseReply × Usage) : UseReply × Usage :=
  match state.world.native.backing? proxy with
  | some backing => next backing
  | none => (.nothing, state)

/-- Does something with an iterator over a set. -/
def Usage.along (state : Usage) (set : Ref) (rank : Nat) (next : Nat → UseReply × Usage) : UseReply × Usage :=
  match (state.numbers set)[rank]? with
  | some number => next number
  | none => (.nothing, state)

def Usage.handOut (state : Usage) (operation : BridgeM (Option NativeValue)) : UseReply × Usage :=
  let (result, world) := operation.run.run state.world
  (.element (result.map fun value => value.map (·.glimpse world)), { state with world })

namespace SetUse

/-- Does something with a set. Host code has the set itself, all others have a proxy. -/
def run (set : Ref) (state : Usage) : SetUse → UseReply × Usage
  | .native proxy operation => state.through proxy fun backing =>
    let (result, world) := (operation.run backing).run.run state.world
    (.answer result, { state with world })
  | .exported thread proxy operation =>
    let (code, world) := (operation.run thread (.native proxy)).run state.world
    (.code code, { state with world })
  | .host operation =>
    let (result, world) := HostM.runOn (operation.runHost set) state.world
    (.hosted result, { state with world })
  | .member proxy item => state.through proxy fun backing => state.handOut (ForeignSet.member backing item)
  | .anyElement proxy => state.through proxy fun backing => state.handOut (ForeignSet.anyElement backing)
  | .iterate proxy => state.through proxy fun backing =>
    match (ForeignSet.iterate backing).run.run state.world with
    | (.ok number, world) => (.started (.ok ()), { world, started := state.started ++ [(set, number)] })
    | (.error error, world) => (.started (.error error), { state with world })
  | .iterateExported thread proxy =>
    match (Export.setIterate thread (.native proxy)).run state.world with
    | (some number, world) => (.iterator true, { world, started := state.started ++ [(set, number)] })
    | (none, world) => (.iterator false, { state with world })
  | .next rank => state.along set rank fun number => state.handOut (ForeignSet.nextValue number)
  | .nextExported thread rank => state.along set rank fun number =>
    let ((code, element), world) := (Export.iteratorNext thread (some number) true).run state.world
    (.output code (element.map world.host.glimpse), { state with world })

def proxy? : SetUse → Option Nat
  | .native proxy _ | .exported _ proxy _ | .member proxy _ | .anyElement proxy | .iterate proxy
  | .iterateExported _ proxy => some proxy
  | .host _ | .next _ | .nextExported _ _ => none

/-- What is asked for, put in or taken out. -/
def item? : SetUse → Option NativeValue
  | .native _ operation => operation.item?
  | .exported _ _ operation => operation.operation.item?
  | .host operation => (operation.map .host).item?
  | .member _ item => some item
  | .anyElement _ | .iterate _ | .iterateExported _ _ | .next _ | .nextExported _ _ => none

def isChange : SetUse → Bool
  | .native _ operation => operation.isChange
  | .exported _ _ operation => operation.operation.isChange
  | .host operation => operation.isChange
  | .member _ _ | .anyElement _ | .iterate _ | .iterateExported _ _ | .next _ | .nextExported _ _ => false

end SetUse

structure SetStep where
  set : Ref
  use : SetUse

namespace SetStep

def runAll : List SetStep → Usage → Usage
  | [], state => state
  | step :: rest, state => runAll rest (step.use.run step.set state).2

/-- What is told of the uses of one set in a run. -/
def toldOf (set : Ref) : List SetStep → Usage → List UseReply
  | [], _ => []
  | step :: rest, state =>
    let (told, after) := step.use.run step.set state
    if step.set = set then told :: toldOf set rest after else toldOf set rest after

theorem toldOf_cons_self (step : SetStep) (rest : List SetStep) (state : Usage) :
    toldOf step.set (step :: rest) state =
      (step.use.run step.set state).1 :: toldOf step.set rest (step.use.run step.set state).2 := if_pos rfl

theorem toldOf_cons_other {step : SetStep} (hOther : step.set ≠ set) (rest : List SetStep) (state : Usage) :
    toldOf set (step :: rest) state = toldOf set rest (step.use.run step.set state).2 := if_neg hOther

end SetStep

/-! What is owned. -/

/-- Whether all that was owned outside is owned still. -/
structure World.Saves (before after : World) : Prop where
  moves : ∀ holdings, ∃ extra, Moves (fun _ => True) ⟨holdings, before⟩ ⟨extra + holdings, after⟩
  held : (before.held : Multiset Ref) ≤ after.held

namespace World.Saves

theorem refl (world : World) : World.Saves world world :=
  ⟨fun holdings => ⟨0, by rw [zero_add]; exact .refl⟩, le_refl _⟩

/-- What takes nothing over saves what is owned. -/
theorem of_hands {operation : StateM World α} {given : α → Estate}
    (hHands : ∀ others, Hands (fun _ => True) others world 0 operation given) :
    world.Saves (operation.run world).2 where
  moves holdings := by
    have hMoves := (hHands (.ofNative holdings)).moves
    rw [Prod.fst_zero, zero_add] at hMoves
    exact ⟨_, hMoves⟩
  held := by
    rw [(hHands (.ofHost world.held)).held (zero_add _).symm]
    exact Multiset.le_add_left _ _

theorem of_neutral {operation : BridgeM α} {result : Except BridgeError α} (hNeutral : Neutral operation)
    (hRun : operation.run.run world = (result, after)) : world.Saves after := by
  have hSaves := of_hands fun others => hNeutral (fun _ => True) others world
  rwa [hRun] at hSaves

theorem of_quiet {function : Export.ExportM α} (hQuiet : Quiet function) (world : World) :
    world.Saves (function.run world).2 :=
  of_hands fun others => hQuiet _ others world

theorem of_runOn (operation : HostM α) (world : World) : world.Saves (HostM.runOn operation world).2 where
  moves holdings := ⟨0, by rw [zero_add]; exact .host (HostM.changes_runOn operation world) holdings⟩
  held := (Multiset.coe_eq_coe.mpr (operation.balanced {} world)).ge

end World.Saves

namespace SetOperation

/-- Asking and changing a set takes nothing over and hands nothing on. -/
theorem neutral_run (backing : Ref) (operation : SetOperation NativeValue) : Neutral (operation.run backing) := by
  cases operation with
  | contains item =>
    rw [run, map_eq_pure_bind]
    exact .bind (ForeignSet.neutral_contains backing item) fun _ => .pure
  | add item => exact .bind (ForeignSet.neutral_add backing item) fun _ => .pure
  | remove item => exact .bind (ForeignSet.neutral_remove backing item) fun _ => .pure
  | removeAll => exact .bind (ForeignSet.neutral_removeAll backing) fun _ => .pure
  | count =>
    rw [run, map_eq_pure_bind]
    exact .bind (ForeignSet.neutral_count backing) fun _ => .pure

end SetOperation

namespace ExportedOperation

theorem quiet_run (thread : Thread) (set : Pointer) (operation : ExportedOperation) :
    Quiet (operation.run thread set) := by
  cases operation with
  | contains item => exact Export.quiet_setContains thread set (some item)
  | add item => exact Export.quiet_setAdd thread set (some item)
  | remove item => exact Export.quiet_setRemove thread set (some item)
  | count => exact Export.quiet_setCount thread set

end ExportedOperation

/-- Whatever is done with a set, what was owned is owned still. -/
theorem SetUse.saves_run (set : Ref) (use : SetUse) (state : Usage) :
    state.world.Saves (use.run set state).2.world := by
  have hThrough (proxy : Nat) (next : Ref → UseReply × Usage)
      (hNext : ∀ backing, state.world.Saves (next backing).2.world) :
      state.world.Saves (state.through proxy next).2.world := by
    unfold Usage.through
    split
    · exact hNext _
    · exact .refl _
  have hAlong (rank : Nat) (next : Nat → UseReply × Usage)
      (hNext : ∀ number, state.world.Saves (next number).2.world) :
      state.world.Saves (state.along set rank next).2.world := by
    unfold Usage.along
    split
    · exact hNext _
    · exact .refl _
  cases use with
  | native proxy operation =>
    exact hThrough proxy _ fun backing => .of_neutral (operation.neutral_run backing) rfl
  | exported thread proxy operation => exact .of_quiet (operation.quiet_run _ _) _
  | host operation => exact .of_runOn _ _
  | member proxy item =>
    exact hThrough proxy _ fun backing => .of_hands fun _ => ForeignSet.transfers_member backing item
  | anyElement proxy =>
    exact hThrough proxy _ fun backing => .of_hands fun _ => ForeignSet.transfers_anyElement backing
  | iterate proxy =>
    refine hThrough proxy _ fun backing => ?_
    have hSaves {result : Except BridgeError Nat} {after : World}
        (hRun : (ForeignSet.iterate backing).run.run state.world = (result, after)) : state.world.Saves after :=
      .of_neutral (ForeignSet.neutral_iterate backing) hRun
    rcases hRun : (ForeignSet.iterate backing).run.run state.world with ⟨error | number, after⟩ <;>
      exact hSaves hRun
  | iterateExported thread proxy =>
    have hSaves := World.Saves.of_quiet (Export.quiet_setIterate thread (.native proxy)) state.world
    rw [run]
    rcases hRun : (Export.setIterate thread (.native proxy)).run state.world with ⟨_ | number, after⟩ <;>
      rwa [hRun] at hSaves
  | next rank =>
    exact hAlong rank _ fun number => .of_hands fun _ => ForeignSet.transfers_nextValue trivial
  | nextExported thread rank =>
    refine hAlong rank _ fun number => ?_
    have hHands (others : Estate) : Hands (fun _ => True) others state.world 0
        (Export.iteratorNext thread (some number) true) fun outcome => .ofHost (refClaims outcome.2) :=
      Export.hands_iteratorNext fun _ _ => trivial
    exact .of_hands hHands

end HeapBridge
