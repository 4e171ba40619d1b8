import HeapBridge.Proofs.Ownership.Exports
import HeapBridge.Proofs.Sets.Proxies
/-!
Foreign sets are transparent views. A host set is used from native code through any number of proxies, by
native callers through the exported functions, and by host code. Whatever the order of the calls, all of
them get the answers of one set of classes of items, each class with the item that came first. Items are of
one class if the host takes them for the same.
-/
namespace HeapBridge

open Host (Classes Content Heap HostM Ref nestingLimit)
open World (Turns Untouched)

variable {world : World} {set : Ref} {depth : Nat} {classes : Classes depth}

/-- What can be asked of a set, with the items in some form. -/
inductive SetOperation (α : Type) where
  | contains (item : α)
  | add (item : α)
  /-- Removes an item if there is one of its class. -/
  | remove (item : α)
  | removeAll
  | count

/-- What a set answers. -/
inductive SetAnswer where
  | done
  | truth (answer : Bool)
  | count (number : Nat)

namespace SetOperation

variable {α β : Type}

def item? : SetOperation α → Option α
  | .contains item | .add item | .remove item => some item
  | .removeAll | .count => none

def map (f : α → β) : SetOperation α → SetOperation β
  | .contains item => .contains (f item)
  | .add item => .add (f item)
  | .remove item => .remove (f item)
  | .removeAll => .removeAll
  | .count => .count

def run (backing : Ref) : SetOperation NativeValue → BridgeM SetAnswer
  | .contains item => .truth <$> ForeignSet.contains backing item
  | .add item => do
    ForeignSet.add backing item
    return .done
  | .remove item => do
    ForeignSet.remove backing item
    return .done
  | .removeAll => do
    ForeignSet.removeAll backing
    return .done
  | .count => .count <$> ForeignSet.count backing

def runHost (set : Ref) : SetOperation Ref → HostM SetAnswer
  | .contains item => .truth <$> Host.contains Host.ops set item
  | .add item => (fun _ => .done) <$> Host.call Host.ops set "add" [item]
  | .remove item => (fun _ => .done) <$> Host.call Host.ops set "discard" [item]
  | .removeAll => (fun _ => .done) <$> Host.call Host.ops set "clear" []
  | .count => .count <$> Host.length Host.ops set

end SetOperation

inductive ExportedOperation where
  | contains (item : Ref)
  | add (item : Ref)
  | remove (item : Ref)
  | count

namespace ExportedOperation

def operation : ExportedOperation → SetOperation NativeValue
  | .contains item => .contains (.host item)
  | .add item => .add (.host item)
  | .remove item => .remove (.host item)
  | .count => .count

def run (thread : Thread) (set : Pointer) : ExportedOperation → Export.ExportM Int
  | .contains item => Export.setContains thread set (some item)
  | .add item => Export.setAdd thread set (some item)
  | .remove item => Export.setRemove thread set (some item)
  | .count => Export.setCount thread set

end ExportedOperation

/-- An answer as the exported functions give it. -/
def SetAnswer.code : SetAnswer → Int
  | .done => 0
  | .truth answer => if answer then 1 else 0
  | .count number => number

namespace Host.Classes

open scoped Classical

noncomputable def answer (classes : Classes depth) : SetOperation (Content depth × Ref) → SetAnswer
  | .contains (content, _) => .truth (classes.has content)
  | .add _ | .remove _ | .removeAll => .done
  | .count => .count classes.count

noncomputable def after (classes : Classes depth) : SetOperation (Content depth × Ref) → Classes depth
  | .contains _ | .count => classes
  | .add (content, ref) => classes.insert content ref
  | .remove (content, _) => classes.erase content
  | .removeAll => .empty

/-- What a set of classes answers one operation after another, and the classes in the end. -/
noncomputable def answers (classes : Classes depth) :
    List (SetOperation (Content depth × Ref)) → List SetAnswer × Classes depth
  | [] => ([], classes)
  | operation :: rest =>
    let (later, last) := (classes.after operation).answers rest
    (classes.answer operation :: later, last)

end Host.Classes

inductive SetCall where
  /-- From native code through a proxy. -/
  | native (proxy : Nat) (operation : SetOperation NativeValue)
  /-- From a native caller on a thread through a proxy. -/
  | exported (thread : Thread) (proxy : Nat) (operation : ExportedOperation)
  /-- From host code. -/
  | host (operation : SetOperation Ref)

/-- What a caller gets. -/
inductive SetReply where
  | answer (answer : SetAnswer)
  | code (code : Int)
  | failed

namespace SetCall

def operation : SetCall → SetOperation NativeValue
  | .native _ operation => operation
  | .exported _ _ operation => operation.operation
  | .host operation => operation.map .host

def proxy? : SetCall → Option Nat
  | .native proxy _ | .exported _ proxy _ => some proxy
  | .host _ => none

/-- Makes a call. Host code has the set itself, all others have a proxy. -/
def run (set : Ref) (call : SetCall) (world : World) : SetReply × World :=
  match call with
  | .native proxy operation =>
    match world.native.backing? proxy with
    | some backing =>
      match (operation.run backing).run.run world with
      | (.ok answer, after) => (.answer answer, after)
      | (.error _, after) => (.failed, after)
    | none => (.failed, world)
  | .exported thread proxy operation =>
    let (code, after) := (operation.run thread (.native proxy)).run world
    (.code code, after)
  | .host operation =>
    match HostM.runOn (operation.runHost set) world with
    | (.ok answer, after) => (.answer answer, after)
    | (.error _, after) => (.failed, after)

def reply : SetCall → SetAnswer → SetReply
  | .native _ _, answer | .host _, answer => .answer answer
  | .exported _ _ _, answer => .code answer.code

/-- Whether a call is one on a set, with an item if it takes any. -/
structure Fits (set : Ref) (depth : Nat) (call : SetCall) (world : World) : Prop where
  proxy : ∀ proxy, call.proxy? = some proxy → world.native.backing? proxy = some set
  item : ∀ item, call.operation.item? = some item → item.IsItem depth world

end SetCall

/-- An operation in terms of what its item is and of the object that would be stored. -/
def SetOperation.meaning (operation : SetOperation NativeValue) (depth : Nat) (world : World) :
    SetOperation (Content depth × Ref) :=
  operation.map fun item => (item.content depth world, (item.crossed world).1)

/-- An operation of the bridge does what it means. -/
theorem SetOperation.exists_run {operation : SetOperation NativeValue}
    (hCollects : world.host.Collects set classes)
    (hItem : ∀ item, operation.item? = some item → item.IsItem depth world) (hDepth : depth < nestingLimit) :
    ∃ after, (operation.run set).run.run world =
        (.ok (classes.answer (operation.meaning depth world)), after) ∧
      Turns set world after (classes.after (operation.meaning depth world)) := by
  cases operation with
  | contains item =>
    obtain ⟨after, hRun, hTurns⟩ := ForeignSet.exists_contains hCollects (hItem item rfl) hDepth
    refine ⟨after, ?_, hTurns⟩
    rw [SetOperation.run, ExceptT.run_map, StateT.run_map, hRun]
    rfl
  | add item =>
    obtain ⟨after, hRun, hTurns⟩ := ForeignSet.exists_add hCollects (hItem item rfl) hDepth
    refine ⟨after, ?_, hTurns⟩
    rw [SetOperation.run, run_bind, hRun]
    rfl
  | remove item =>
    obtain ⟨after, hRun, hTurns⟩ := ForeignSet.exists_remove hCollects (hItem item rfl) hDepth
    refine ⟨after, ?_, hTurns⟩
    rw [SetOperation.run, run_bind, hRun]
    rfl
  | removeAll =>
    obtain ⟨after, hRun, hTurns⟩ := ForeignSet.exists_removeAll hCollects
    refine ⟨after, ?_, hTurns⟩
    rw [SetOperation.run, run_bind, hRun]
    rfl
  | count =>
    refine ⟨world, ?_, .refl hCollects⟩
    rw [SetOperation.run, ExceptT.run_map, StateT.run_map, ForeignSet.run_count_classes hCollects]
    rfl

/-- An exported function gives the answer of the operation behind it as a number. -/
theorem ExportedOperation.run_of_run {operation : ExportedOperation} {thread : Thread} {proxy : Nat}
    {answer : SetAnswer} {after : World} (hProxy : world.native.backing? proxy = some set)
    (hRun : (operation.operation.run set).run.run (world.clearLastError thread) = (.ok answer, after)) :
    (operation.run thread (.native proxy)).run world = (answer.code, after) := by
  have hSet : (Export.setArgument (.native proxy)).run.run (world.clearLastError thread) =
      (.ok set, world.clearLastError thread) := by
    have hBacking : (world.clearLastError thread).native.backing? proxy = some set := hProxy
    rw [Export.run_setArgument_native, hBacking]
  have hArgument (item : Ref) : (Export.itemArgument (some item)).run.run (world.clearLastError thread) =
      (.ok item, world.clearLastError thread) := rfl
  cases operation with
  | contains item =>
    rw [operation, SetOperation.run, ExceptT.run_map, StateT.run_map] at hRun
    simp only [ExportedOperation.run, Export.setContains, Export.flag, Export.run_guarded, run_bind, hSet,
      hArgument]
    rcases hAsked : (ForeignSet.contains set (.host item)).run.run (world.clearLastError thread) with
      ⟨error | found, later⟩ <;> rw [hAsked] at hRun <;> cases hRun
    rfl
  | add item =>
    rw [operation, SetOperation.run, run_bind] at hRun
    simp only [ExportedOperation.run, Export.setAdd, Export.status, Export.run_guarded, run_bind, hSet,
      hArgument]
    rcases hAdded : (ForeignSet.add set (.host item)).run.run (world.clearLastError thread) with
      ⟨error | _, later⟩ <;> rw [hAdded] at hRun <;> cases hRun
    rfl
  | remove item =>
    rw [operation, SetOperation.run, run_bind] at hRun
    simp only [ExportedOperation.run, Export.setRemove, Export.status, Export.run_guarded, run_bind, hSet,
      hArgument]
    rcases hRemoved : (ForeignSet.remove set (.host item)).run.run (world.clearLastError thread) with
      ⟨error | _, later⟩ <;> rw [hRemoved] at hRun <;> cases hRun
    rfl
  | count =>
    rw [operation, SetOperation.run, ExceptT.run_map, StateT.run_map] at hRun
    simp only [ExportedOperation.run, Export.setCount, Export.run_guarded, run_bind, hSet]
    rcases hCounted : (ForeignSet.count set).run.run (world.clearLastError thread) with
      ⟨error | number, later⟩ <;> rw [hCounted] at hRun <;> cases hRun
    rfl

/-- An exported function does what the operation behind it means, and gives its answer as a number. -/
theorem ExportedOperation.exists_run {operation : ExportedOperation} (thread : Thread) {proxy : Nat}
    (hCollects : world.host.Collects set classes) (hProxy : world.native.backing? proxy = some set)
    (hItem : ∀ item, operation.operation.item? = some item → item.IsItem depth world)
    (hDepth : depth < nestingLimit) :
    ∃ after, (operation.run thread (.native proxy)).run world =
        ((classes.answer (operation.operation.meaning depth world)).code, after) ∧
      Turns set (world.clearLastError thread) after
        (classes.after (operation.operation.meaning depth world)) := by
  have hCleared : (world.clearLastError thread).host.Collects set classes := hCollects
  have hFits : ∀ item, operation.operation.item? = some item →
      item.IsItem depth (world.clearLastError thread) := by
    intro item hAsked
    cases operation <;> cases hAsked <;> exact hItem _ rfl
  have hMeaning : operation.operation.meaning depth (world.clearLastError thread) =
      operation.operation.meaning depth world := by
    cases operation <;> rfl
  obtain ⟨after, hRun, hTurns⟩ := SetOperation.exists_run hCleared hFits hDepth
  rw [hMeaning] at hRun hTurns
  exact ⟨after, run_of_run hProxy hRun, hTurns⟩

/-- Host code does with a set what the operation means. -/
theorem SetOperation.exists_runHost {operation : SetOperation Ref} (hCollects : world.host.Collects set classes)
    (hItem : ∀ item, (operation.map NativeValue.host).item? = some item → item.IsItem depth world)
    (hDepth : depth < nestingLimit) :
    ∃ after, HostM.runOn (operation.runHost set) world =
        (.ok (classes.answer ((operation.map NativeValue.host).meaning depth world)), after) ∧
      Turns set world after (classes.after ((operation.map NativeValue.host).meaning depth world)) := by
  cases operation with
  | contains item =>
    exact ⟨world, HostM.runOn_map _ (Host.runOn_contains hCollects (hItem _ rfl) hDepth), .refl hCollects⟩
  | add item =>
    obtain ⟨after, hRun, hTurns⟩ := Host.exists_runOn_add hCollects (hItem _ rfl) hDepth
    exact ⟨after, HostM.runOn_map _ hRun, hTurns⟩
  | remove item =>
    obtain ⟨after, hRun, hTurns⟩ := Host.exists_runOn_discard hCollects (hItem _ rfl) hDepth
    exact ⟨after, HostM.runOn_map _ hRun, hTurns⟩
  | removeAll =>
    obtain ⟨after, hRun, hTurns⟩ := Host.exists_runOn_clear hCollects
    exact ⟨after, HostM.runOn_map _ hRun, hTurns⟩
  | count => exact ⟨world, HostM.runOn_map _ (Host.runOn_length_classes hCollects), .refl hCollects⟩

namespace SetCall

/-- One call is answered as the classes have it, turns them into what it means, and touches nothing else. -/
theorem run_turns {call : SetCall} (hCollects : world.host.Collects set classes)
    (hFits : call.Fits set depth world) (hDepth : depth < nestingLimit) :
    (call.run set world).1 = call.reply (classes.answer (call.operation.meaning depth world)) ∧
      (call.run set world).2.host.Collects set (classes.after (call.operation.meaning depth world)) ∧
      Untouched set world (call.run set world).2 := by
  cases call with
  | native proxy operation =>
    obtain ⟨after, hRun, hTurns⟩ := operation.exists_run hCollects hFits.item hDepth
    simp only [run, hFits.proxy proxy rfl, hRun]
    exact ⟨rfl, hTurns.collects, hTurns.untouched hCollects⟩
  | exported thread proxy operation =>
    obtain ⟨after, hRun, hTurns⟩ :=
      operation.exists_run thread hCollects (hFits.proxy proxy rfl) hFits.item hDepth
    have hCleared : (world.clearLastError thread).host.Collects set classes := hCollects
    have hUntouched := hTurns.untouched hCleared
    simp only [run, hRun]
    refine ⟨rfl, hTurns.collects, ?_⟩
    exact ⟨hUntouched.native, hUntouched.held, hUntouched.object, hUntouched.view, hUntouched.scripts⟩
  | host operation =>
    obtain ⟨after, hRun, hTurns⟩ := operation.exists_runHost hCollects hFits.item hDepth
    simp only [run, hRun]
    exact ⟨rfl, hTurns.collects, hTurns.untouched hCollects⟩

def runAll (set : Ref) : List SetCall → World → List SetReply × World
  | [], world => ([], world)
  | call :: rest, world =>
    let (replies, last) := runAll set rest (call.run set world).2
    ((call.run set world).1 :: replies, last)

/-- Whether each call of a run is one on the set when its turn comes. -/
def FitAll (set : Ref) (depth : Nat) : List SetCall → World → Prop
  | [], _ => True
  | call :: rest, world => call.Fits set depth world ∧ FitAll set depth rest (call.run set world).2

def meanings (set : Ref) (depth : Nat) : List SetCall → World → List (SetOperation (Content depth × Ref))
  | [], _ => []
  | call :: rest, world =>
    call.operation.meaning depth world :: meanings set depth rest (call.run set world).2

structure Views (set : Ref) (depth : Nat) (calls : List SetCall) (world : World) (classes : Classes depth) :
    Prop where
  /-- Each call is answered as one set of classes has it that all of them share, -/
  answers : (runAll set calls world).1 =
    List.zipWith reply calls (classes.answers (meanings set depth calls world)).1
  /-- whose classes and their first items are those of the set in the end, -/
  collects : (runAll set calls world).2.host.Collects set (classes.answers (meanings set depth calls world)).2
  /-- and nothing but the set is touched by any of them. -/
  untouched : ∀ earlier call later, calls = earlier ++ call :: later →
    Untouched set (runAll set earlier world).2 (runAll set (earlier ++ [call]) world).2
  /-- Items are of one class if the host takes them for the same. -/
  same : ∀ (world : World) (a b : Ref), world.host.IsItem depth a → world.host.IsItem depth b →
    ∃ answer, HostM.runOn (Host.same Host.ops a b) world = (.ok answer, world) ∧
      (answer = true ↔ world.host.content depth a = world.host.content depth b)

/-- All sides see one set: whatever calls come in whatever order, through whatever proxies of the set, with
whatever items, they are answered as one set of classes has it. Items nest less deep than host operations may,
since deeper ones cannot be compared. -/
theorem views_runAll {calls : List SetCall} (hCollects : world.host.Collects set classes)
    (hFits : FitAll set depth calls world) (hDepth : depth < nestingLimit) :
    Views set depth calls world classes := by
  induction calls generalizing world classes with
  | nil =>
    exact {
      answers := rfl
      collects := hCollects
      untouched := fun earlier call later hCalls => by simp at hCalls
      same := fun world a b hA hB => Host.exists_runOn_same hA hB hDepth }
  | cons call rest ih =>
    obtain ⟨hFirst, hRest⟩ := hFits
    obtain ⟨hReply, hAfter, hUntouched⟩ := run_turns hCollects hFirst hDepth
    have hViews := ih hAfter hRest
    refine ⟨?_, hViews.collects, ?_, hViews.same⟩
    · exact congr (congrArg List.cons hReply) hViews.answers
    · intro earlier last later hCalls
      cases earlier with
      | nil =>
        cases hCalls
        exact hUntouched
      | cons first earlier =>
        obtain ⟨rfl, hLater⟩ := List.cons.inj hCalls
        exact hViews.untouched earlier last later hLater

/-- Calls with items that are always some, through proxies of the set, fit wherever a run comes to. -/
theorem fitAll_of_items {calls : List SetCall} (hCollects : world.host.Collects set classes)
    (hProxies : ∀ call ∈ calls, ∀ proxy, call.proxy? = some proxy → world.native.backing? proxy = some set)
    (hItems : ∀ call ∈ calls, ∀ item, call.operation.item? = some item → ∀ world, item.IsItem depth world)
    (hDepth : depth < nestingLimit) : FitAll set depth calls world := by
  induction calls generalizing world classes with
  | nil => trivial
  | cons call rest ih =>
    have hFits : call.Fits set depth world :=
      ⟨hProxies call List.mem_cons_self, fun item hItem => hItems call List.mem_cons_self item hItem world⟩
    obtain ⟨_, hAfter, hUntouched⟩ := run_turns hCollects hFits hDepth
    refine ⟨hFits, ih hAfter ?_ fun later hLater => hItems later (List.mem_cons_of_mem _ hLater)⟩
    intro later hLater proxy hProxy
    rw [hUntouched.native]
    exact hProxies later (List.mem_cons_of_mem _ hLater) proxy hProxy

/-- An empty set with two proxies. -/
def twoProxies : World where
  host := { cells := #[some { body := .set .empty }] }
  native := { cells := #[some (.live ⟨1, .foreignSet (.object 0)⟩), some (.live ⟨1, .foreignSet (.object 0)⟩)] }

/-- One is added through a proxy, asked for as a truth value through the other one by an exported function,
and removed by host code; then the elements are counted. -/
def oneComesAndGoes : List SetCall :=
  [.native 0 (.add (.int 1)), .exported 0 1 (.contains (.atom (.bool true))),
    .host (.remove (.atom (.int 1))), .native 1 .count]

/-- The number and the truth value are one element. -/
theorem views_runAll_oneComesAndGoes :
    twoProxies.host.Collects (.object 0) (.empty : Classes 1) ∧
      FitAll (.object 0) 1 oneComesAndGoes twoProxies ∧ 1 < nestingLimit ∧
        Views (.object 0) 1 oneComesAndGoes twoProxies .empty := by
  have hCollects : twoProxies.host.Collects (.object 0) (.empty : Classes 1) :=
    Heap.IsBuiltin.collects_empty ⟨rfl, rfl, rfl⟩ rfl
  have hFits : FitAll (.object 0) 1 oneComesAndGoes twoProxies := by
    apply fitAll_of_items hCollects _ _ (by decide)
    · intro call hCall proxy hProxy
      simp only [oneComesAndGoes, List.mem_cons, List.not_mem_nil, or_false] at hCall
      rcases hCall with rfl | rfl | rfl | rfl <;> cases hProxy <;> rfl
    · intro call hCall item hItem world
      simp only [oneComesAndGoes, List.mem_cons, List.not_mem_nil, or_false] at hCall
      rcases hCall with rfl | rfl | rfl | rfl <;> cases hItem
      · exact NativeValue.isItem_of_body? rfl world
      · exact NativeValue.isItem_host.mpr ⟨⟨rfl, rfl, rfl⟩, rfl⟩
      · exact NativeValue.isItem_host.mpr ⟨⟨rfl, rfl, rfl⟩, rfl⟩
  exact ⟨hCollects, hFits, by decide, views_runAll hCollects hFits (by decide)⟩

end SetCall

end HeapBridge
