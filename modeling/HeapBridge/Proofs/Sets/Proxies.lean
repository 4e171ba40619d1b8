import HeapBridge.Proofs.Sets.Calls
import HeapBridge.Proofs.Surfacing.HostCalls
import HeapBridge.Proofs.Values.RoundTrips
/-!
Foreign sets over sets of items. A native value crosses as an object, which is new for a scalar. Whether it is
asked for, added or removed, the set does with that object what it does for host code, and what was made on
the way is gone afterwards or is an element. An exported function does the same as the operation behind it.
-/
namespace HeapBridge

open Host (Classes Heap HostM Ref nestingLimit)
open World (Edits Turns Untouched)

variable {world after : World} {set item : Ref} {depth : Nat} {classes later : Classes depth}
  {value : NativeValue}

namespace NativeValue

/-- The object that a value crosses as, and the world that has it. -/
def crossed (value : NativeValue) (world : World) : Ref × World :=
  ((value.toHost.run.run world).1.toOption.getD .nil, (value.toHost.run.run world).2)

/-- Every value crosses. -/
theorem run_toHost (value : NativeValue) (world : World) :
    value.toHost.run.run world = (.ok (value.crossed world).1, (value.crossed world).2) := by
  cases value <;> rfl

theorem crossed_of_body? {body : Host.Body} (hBody : value.body? = some body) (world : World) :
    value.crossed world = ((world.host.make body).1, { world with host := (world.host.make body).2 }) := by
  rw [crossed, run_toHost_of_body? hBody]
  rfl

theorem crossed_of_not_body? (hBody : value.body? = none) (world : World) :
    (value.crossed world).2 = world := by
  cases value with
  | set | host => rfl
  | _ => cases hBody

def IsItem (value : NativeValue) (depth : Nat) (world : World) : Prop :=
  (value.crossed world).2.host.IsItem depth (value.crossed world).1

def content (value : NativeValue) (depth : Nat) (world : World) : Host.Content depth :=
  (value.crossed world).2.host.content depth (value.crossed world).1

/-- A host object crosses as an item if it is one. -/
theorem isItem_host : (NativeValue.host item).IsItem depth world ↔ world.host.IsItem depth item := Iff.rfl

/-- Scalars cross as items. -/
theorem isItem_of_body? {body : Host.Body} (hBody : value.body? = some body) (world : World) :
    value.IsItem (depth + 1) world := by
  have hScalar : body.isScalar = true := by
    cases value <;> cases hBody <;> rfl
  have hView := Heap.view_make world.host body
  have hMade : (world.host.make body).2.body (world.host.make body).1 = body := congrArg Host.Object.body hView
  have hLive : (world.host.make body).2.isLive (world.host.make body).1 = true := by
    unfold Heap.make
    split
    · rfl
    · exact Option.isSome_iff_exists.mpr ⟨_, Heap.object?_allocate_self world.host { body }⟩
  rw [IsItem, crossed_of_body? hBody]
  refine ⟨⟨hLive, ?_, ?_⟩, ?_⟩
  · rw [hView]
  · rw [hView]
  · rw [hMade]
    cases body <;> first | exact hScalar | cases hScalar

theorem IsItem.of_mem (hItem : value.IsItem depth world) :
    ∀ ref ∈ [(value.crossed world).1], ∃ depth, (value.crossed world).2.host.IsItem depth ref := by
  intro ref hRef
  rw [List.mem_singleton.mp hRef]
  exact ⟨depth, hItem⟩

/-- To cross leaves sets of items as they are. -/
theorem edits_crossed (hCollects : world.host.Collects set classes) (value : NativeValue) :
    Edits set world (value.crossed world).2 ∧ (value.crossed world).2.held = world.held ∧
      (value.crossed world).2.host.Collects set classes := by
  cases hBody : value.body? with
  | none =>
    rw [crossed_of_not_body? hBody]
    exact ⟨.of_held _, rfl, hCollects⟩
  | some body =>
    rw [crossed_of_body? hBody]
    obtain ⟨hEdits, hView⟩ := Edits.make hCollects.live body
    exact ⟨hEdits, rfl, hEdits.collects hCollects (congrArg Host.Object.body hView)⟩

end NativeValue

namespace ForeignSet

/-- A set is asked for an object that is referred to meanwhile. -/
theorem run_keeping_contains {ref : Ref} {answer : Bool}
    (hCall : HostM.runOn (Host.contains Host.ops set ref) (world.holdAll [ref]) = (.ok answer, after)) :
    (BridgeM.keeping [ref] (BridgeM.contract .contains (Host.contains Host.ops set ref))).run.run world =
      (.ok answer, after.letGo ref) := by
  rw [BridgeM.run_keeping, BridgeM.contract, BridgeM.run_host, hCall]
  rfl

/-- A method of a set without an answer is called. -/
theorem run_command {operation : Operation} {method : String} {refs : List Ref}
    (hCall : HostM.runOn (Host.call Host.ops set method refs) (world.holdAll refs) = (.ok .nil, after)) :
    (SetProgram.command refs (BridgeM.contract operation (Host.call Host.ops set method refs))).run.run world =
      (.ok (), refs.foldl (fun world ref => world.letGo ref) after) := by
  rw [SetProgram.command, BridgeM.run_keeping, run_bind, BridgeM.contract, BridgeM.run_host, hCall]
  rfl

section HostItem

variable {ref : Ref} {answer : Bool}

/-! A host object crosses as it is. -/

theorem run_contains_host
    (hCall : HostM.runOn (Host.contains Host.ops set ref) (world.holdAll [ref]) = (.ok answer, after)) :
    (contains set (.host ref)).run.run world = (.ok answer, after.letGo ref) := by
  rw [contains_eq, NativeValue.toHost, pure_bind]
  exact run_keeping_contains hCall

theorem run_add_host
    (hCall : HostM.runOn (Host.call Host.ops set "add" [ref]) (world.holdAll [ref]) = (.ok .nil, after)) :
    (add set (.host ref)).run.run world = (.ok (), after.letGo ref) := by
  rw [add_eq, NativeValue.toHost, pure_bind]
  exact run_command hCall

theorem run_remove_host
    (hCall : HostM.runOn (Host.call Host.ops set "discard" [ref]) (world.holdAll [ref]) = (.ok .nil, after)) :
    (remove set (.host ref)).run.run world = (.ok (), after.letGo ref) := by
  rw [remove_eq, NativeValue.toHost, pure_bind]
  exact run_command hCall

end HostItem

/-- A method of a set without an answer is called with items. -/
theorem exists_command {operation : Operation} {method : String} {refs : List Ref}
    (hCollects : world.host.Collects set classes)
    (hItems : ∀ ref ∈ refs, ∃ depth, world.host.IsItem depth ref)
    (hCall : HostM.runOn (Host.call Host.ops set method refs) (world.holdAll refs) = (.ok .nil, after))
    (hTurns : Turns set (world.holdAll refs) after later) :
    ∃ last, (SetProgram.command refs (BridgeM.contract operation (Host.call Host.ops set method refs))).run.run world = (.ok (), last) ∧
      Turns set world last later := ⟨_, run_command hCall, hTurns.holding hCollects hItems⟩

/-- What is asked of a set with a native value, once this has crossed. -/
theorem exists_crossing {α : Type} {next : Ref → BridgeM α} {answer : α}
    (hCollects : world.host.Collects set classes)
    (hNext : ∃ after, (next (value.crossed world).1).run.run (value.crossed world).2 = (.ok answer, after) ∧
      Turns set (value.crossed world).2 after later) :
    ∃ after, (value.toHost >>= next).run.run world = (.ok answer, after) ∧
      Turns set world after later := by
  obtain ⟨after, hRun, hTurns⟩ := hNext
  obtain ⟨hEdits, hHeld, _⟩ := value.edits_crossed hCollects
  refine ⟨after, ?_, hTurns.after_edits hEdits hHeld⟩
  rw [run_bind, value.run_toHost]
  exact hRun

/-- A set contains an item if it has its class. -/
theorem exists_contains (hCollects : world.host.Collects set classes) (hItem : value.IsItem depth world)
    (hDepth : depth < nestingLimit) :
    ∃ after, (contains set value).run.run world = (.ok (classes.has (value.content depth world)), after) ∧
      Turns set world after classes := by
  rw [contains_eq]
  apply exists_crossing hCollects
  obtain ⟨_, _, hCrossed⟩ := value.edits_crossed hCollects
  have hHeld : ((value.crossed world).2.holdAll [(value.crossed world).1]).host.Collects set classes := hCrossed
  exact ⟨_, run_keeping_contains (Host.runOn_contains hHeld hItem hDepth),
    (Turns.refl hHeld).holding hCrossed hItem.of_mem⟩

/-- A set with an item added has its class. -/
theorem exists_add (hCollects : world.host.Collects set classes) (hItem : value.IsItem depth world)
    (hDepth : depth < nestingLimit) :
    ∃ after, (add set value).run.run world = (.ok (), after) ∧
      Turns set world after (classes.insert (value.content depth world) (value.crossed world).1) := by
  rw [add_eq]
  apply exists_crossing hCollects
  obtain ⟨_, _, hCrossed⟩ := value.edits_crossed hCollects
  have hHeld : ((value.crossed world).2.holdAll [(value.crossed world).1]).host.Collects set classes := hCrossed
  obtain ⟨after, hCall, hTurns⟩ := Host.exists_runOn_add hHeld hItem hDepth
  exact exists_command hCrossed hItem.of_mem hCall hTurns

/-- A set with an item removed does not have its class. -/
theorem exists_remove (hCollects : world.host.Collects set classes) (hItem : value.IsItem depth world)
    (hDepth : depth < nestingLimit) :
    ∃ after, (remove set value).run.run world = (.ok (), after) ∧
      Turns set world after (classes.erase (value.content depth world)) := by
  rw [remove_eq]
  apply exists_crossing hCollects
  obtain ⟨_, _, hCrossed⟩ := value.edits_crossed hCollects
  have hHeld : ((value.crossed world).2.holdAll [(value.crossed world).1]).host.Collects set classes := hCrossed
  obtain ⟨after, hCall, hTurns⟩ := Host.exists_runOn_discard hHeld hItem hDepth
  exact exists_command hCrossed hItem.of_mem hCall hTurns

/-- A set with all items removed has no class. -/
theorem exists_removeAll (hCollects : world.host.Collects set classes) :
    ∃ after, (removeAll set).run.run world = (.ok (), after) ∧
      Turns set world after (.empty : Classes depth) := by
  rw [removeAll_eq]
  have hHeld : (world.holdAll []).host.Collects set classes := hCollects
  obtain ⟨after, hCall, hTurns⟩ := Host.exists_runOn_clear hHeld
  exact exists_command hCollects (List.forall_mem_nil _) hCall hTurns

/-- A set counts its classes. -/
theorem run_count_classes (hCollects : world.host.Collects set classes) :
    (count set).run.run world = (.ok classes.count, world) := by
  rw [count_eq, BridgeM.contract, BridgeM.run_host, Host.runOn_length_classes hCollects]

end ForeignSet

end HeapBridge
