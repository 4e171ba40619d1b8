import HeapBridge.Proofs.Ownership.Sweeping
import HeapBridge.Proofs.Scenes.Peeking
/-!
Host objects across the bridge. The built-in wrapper for pointers to host objects takes an address for the
object there and an object for its address. So the two directions undo each other, except that NULL crosses
as nil, which has an address of its own. Each crossing to the host takes one reference, which the caller owns;
the way back takes none. The main statement is that any number of crossings leave the world as it was but for
the references that the caller still owns.
-/
namespace HeapBridge

open Host (HostM Ref)

variable {world base : World}

/-- Whether pointers to host objects are wrapped by the converters that come with the bridge, and the registry
can be asked for them. -/
def World.WrapsObjects (world : World) : Prop :=
  ∃ wrapper, world.registry.lookup "_object" = .ok wrapper ∧ wrapper.toHost = .object ∧
    wrapper.fromHost = .object

/-- The host object that a pointer leads to; nothing is at NULL, which stands for nil. -/
def World.target (world : World) (pointer : Pointer) : Ref :=
  match world.resolve pointer with
  | .host ref => ref
  | _ => .nil

/-- A wrapped pointer to a host object comes back as that object, with a reference. -/
theorem run_toHost_object (hWraps : world.WrapsObjects) (pointer : Pointer) :
    (toHost "_object" pointer).run.run world =
      (.ok (world.target pointer), world.hold (world.target pointer)) := by
  obtain ⟨wrapper, hLookup, hToHost, -⟩ := hWraps
  rw [toHost, run_bind, run_lookup, hLookup]
  dsimp only
  rw [hToHost, ToHost.run, run_bind, run_get, World.target]
  cases world.resolve pointer <;> rfl

/-- The other way it is handed out without a reference. -/
theorem run_fromHost_object (hWraps : world.WrapsObjects) (value : Ref) :
    (fromHost "_object" value).run.run world = (.ok (.host value), world) := by
  obtain ⟨wrapper, hLookup, -, hFromHost⟩ := hWraps
  rw [fromHost, run_bind, run_lookup, hLookup]
  dsimp only
  rw [hFromHost]
  rfl

theorem World.refCount_holdAll (refs : List Ref) (world : World) (ref : Ref) :
    (world.holdAll refs).refCount ref = world.refCount ref + refs.count ref := by
  simp only [refCount, references, holdAll, List.count_append]
  omega

/-- A reference that is held beside others is given back, and that is all if the object is referred to without
them. -/
theorem World.letGo_holdAll {refs : List Ref} {ref : Ref} (hMem : ref ∈ refs)
    (hReferenced : ref.isObject = true → world.isReferenced ref = true) :
    (world.holdAll refs).letGo ref = world.holdAll (refs.erase ref) := by
  have hUnhold : (world.holdAll refs).unhold ref = world.holdAll (refs.erase ref) := by
    rw [unhold, holdAll, holdAll, List.erase_append_left _ hMem]
  have hRelease : (Host.ops.release [ref]).eval {} (world.holdAll (refs.erase ref)) =
      (.ok (), world.holdAll (refs.erase ref)) := by
    apply Host.eval_release_referenced
    intro other hOther hObject
    obtain rfl := List.mem_singleton.mp hOther
    exact isReferenced_holdAll (hReferenced hObject) _
  rw [letGo, hUnhold, release, HostM.runOn, hRelease]

/-- What a caller does with pointers to host objects. -/
inductive ObjectCrossing where
  | toHost (pointer : Pointer)
  | fromHost (value : Ref)
  /-- A host object that crossed before is no longer needed. -/
  | drop (ref : Ref)

/-- The world together with the references that a caller got and still owns. -/
structure Crossed where
  world : World
  owned : List Ref

namespace ObjectCrossing

def after : ObjectCrossing → Crossed → Crossed
  | .toHost pointer, before =>
    match (HeapBridge.toHost "_object" pointer).run.run before.world with
    | (.ok ref, world) => ⟨world, ref :: before.owned⟩
    | (.error _, world) => ⟨world, before.owned⟩
  | .fromHost value, before => ⟨((HeapBridge.fromHost "_object" value).run.run before.world).2, before.owned⟩
  | .drop ref, before =>
    if ref ∈ before.owned then ⟨before.world.letGo ref, before.owned.erase ref⟩ else before

def afterAll : List ObjectCrossing → Crossed → Crossed
  | [], before => before
  | crossing :: rest, before => afterAll rest (crossing.after before)

/-- Whether a pointer that crosses leads to an object that is there. -/
def Sound (world : World) : ObjectCrossing → Prop
  | .toHost (.host ref) => world.host.isLive ref = true
  | _ => True

end ObjectCrossing

/-- A pointer that crosses points to a live object. -/
theorem ObjectCrossing.Sound.isLive_target {pointer : Pointer}
    (hSound : ObjectCrossing.Sound world (.toHost pointer)) :
    world.host.isLive (world.target pointer) = true := by
  rw [World.target]
  cases pointer with
  | host ref => exact hSound
  | null | native address => rfl
  | word n =>
    rcases World.isThere_of_resolve_word (rfl : world.resolve (.word n) = _) with hNull | hWord | hThere
    · rw [hNull]
      rfl
    · rw [hWord]
      rfl
    · cases hResolved : world.resolve (.word n) with
      | host ref =>
        rw [hResolved] at hThere
        exact hThere
      | null | native address | word other => rfl

/-- Nothing has changed but that a caller owns references, to objects that are referred to elsewhere. -/
structure Crossed.Beside (base : World) (crossed : Crossed) : Prop where
  world : crossed.world = base.holdAll crossed.owned
  referenced : ∀ ref ∈ crossed.owned, ref.isObject = true → base.isReferenced ref = true

namespace Crossed.Beside

variable {crossed : Crossed}

theorem start (base : World) : Beside base ⟨base, []⟩ where
  world := rfl
  referenced := fun _ hNone => nomatch hNone

theorem wrapsObjects (hBeside : Beside base crossed) (hWraps : base.WrapsObjects) :
    crossed.world.WrapsObjects := by
  rw [hBeside.world]
  exact hWraps

theorem drop (hBeside : Beside base crossed) {ref : Ref} (hOwned : ref ∈ crossed.owned) :
    Beside base ⟨crossed.world.letGo ref, crossed.owned.erase ref⟩ where
  world := by
    rw [hBeside.world]
    exact World.letGo_holdAll hOwned (hBeside.referenced ref hOwned)
  referenced := fun other hOther => hBeside.referenced other (List.mem_of_mem_erase hOther)

/-- One crossing changes nothing but what the caller owns. -/
theorem after (hBeside : Beside base crossed) (hWraps : base.WrapsObjects) (hSwept : base.Swept)
    {crossing : ObjectCrossing} (hSound : crossing.Sound base) :
    Beside base (crossing.after crossed) := by
  have hStill := hBeside.wrapsObjects hWraps
  cases crossing with
  | toHost pointer =>
    rw [ObjectCrossing.after, run_toHost_object hStill]
    refine ⟨?_, fun ref hRef hObject => ?_⟩
    · rw [hBeside.world]
      rfl
    · rcases List.mem_cons.mp hRef with rfl | hOwned
      · have hLive := ObjectCrossing.Sound.isLive_target hSound
        rw [hBeside.world] at hObject ⊢
        change base.isReferenced (base.target pointer) = true
        change (base.target pointer).isObject = true at hObject
        cases hTarget : base.target pointer with
        | atom value =>
          rw [hTarget] at hObject
          cases hObject
        | object address =>
          rw [hTarget] at hLive
          exact hSwept address hLive
      · exact hBeside.referenced ref hOwned hObject
  | fromHost value =>
    rw [ObjectCrossing.after, run_fromHost_object hStill]
    exact hBeside
  | drop ref =>
    rw [ObjectCrossing.after]
    split
    next hOwned => exact hBeside.drop hOwned
    next => exact hBeside

/-- Crossings stay beside the world that they start from. -/
theorem afterAll (hBeside : Beside base crossed) (hWraps : base.WrapsObjects) (hSwept : base.Swept)
    {crossings : List ObjectCrossing} (hSound : ∀ crossing ∈ crossings, crossing.Sound base) :
    Beside base (ObjectCrossing.afterAll crossings crossed) := by
  induction crossings generalizing crossed with
  | nil => exact hBeside
  | cons crossing rest ih =>
    obtain ⟨hFirst, hRest⟩ := List.forall_mem_cons.mp hSound
    exact ih (hBeside.after hWraps hSwept hFirst) hRest

/-- What is owned can be dropped in any order, and then everything is as it was. -/
theorem dropAll (hBeside : Beside base crossed) {order : List Ref} (hOrder : order.Perm crossed.owned) :
    order.foldl (fun world ref => world.letGo ref) crossed.world = base := by
  induction order generalizing crossed with
  | nil =>
    have hNone := hOrder.nil_eq
    rw [List.foldl_nil, hBeside.world, ← hNone]
    rfl
  | cons ref rest ih =>
    have hOwned : ref ∈ crossed.owned := hOrder.subset List.mem_cons_self
    have hRest : rest.Perm (crossed.owned.erase ref) := by
      have hErase := hOrder.erase ref
      rwa [List.erase_cons_head] at hErase
    exact ih (hBeside.drop hOwned) hRest

end Crossed.Beside

/-- Where the built-in wrapper serves pointers to host objects, what crosses to the host and back comes back as
it was, in either direction, but NULL comes back as the address of nil. A crossing to the host takes one
reference to the object, and the way back changes nothing. After any crossings of NULL and of addresses of
live objects, each object has as many references more as the caller still owns, and when these are dropped in
any order, the world is what it was. -/
theorem objects_cross (hWraps : world.WrapsObjects) (hSwept : world.Swept) :
    (∀ ref, (do fromHost "_object" (← toHost "_object" (.host ref))).run.run world =
      (.ok (.host ref), world.hold ref)) ∧
    (do fromHost "_object" (← toHost "_object" .null)).run.run world =
      (.ok (.host .nil), world.hold .nil) ∧
    (∀ value, (do toHost "_object" (← fromHost "_object" value)).run.run world =
      (.ok value, world.hold value)) ∧
    (∀ value, ((fromHost "_object" value).run.run world).2 = world) ∧
    (∀ ref other, (((toHost "_object" (.host ref)).run.run world).2).refCount other =
      world.refCount other + if other = ref then 1 else 0) ∧
    ∀ crossings : List ObjectCrossing, (∀ crossing ∈ crossings, crossing.Sound world) →
      let crossed := ObjectCrossing.afterAll crossings ⟨world, []⟩
      (∀ ref, crossed.world.refCount ref = world.refCount ref + crossed.owned.count ref) ∧
      ∀ order : List Ref, order.Perm crossed.owned →
        order.foldl (fun world ref => world.letGo ref) crossed.world = world := by
  have hHeld (ref : Ref) : (world.hold ref).WrapsObjects := hWraps
  have hReturns (pointer : Pointer) : (do fromHost "_object" (← toHost "_object" pointer)).run.run world =
      (.ok (.host (world.target pointer)), world.hold (world.target pointer)) := by
    rw [run_bind, run_toHost_object hWraps]
    exact run_fromHost_object (hHeld _) _
  refine ⟨fun ref => hReturns _, hReturns _, fun value => ?_, fun value => ?_, fun ref other => ?_,
    fun crossings hSound => ?_⟩
  · rw [run_bind, run_fromHost_object hWraps]
    exact run_toHost_object hWraps _
  · rw [run_fromHost_object hWraps]
  · rw [run_toHost_object hWraps]
    change (world.holdAll [ref]).refCount other = _
    rw [World.refCount_holdAll, List.count_singleton]
    by_cases hSame : other = ref
    · rw [hSame, if_pos rfl, if_pos (beq_self_eq_true ref)]
    · rw [if_neg hSame, if_neg (by simpa using Ne.symm hSame)]
  · intro crossed
    have hBeside : crossed.Beside world := (Crossed.Beside.start world).afterAll hWraps hSwept hSound
    refine ⟨fun ref => ?_, fun order hOrder => hBeside.dropAll hOrder⟩
    rw [hBeside.world]
    exact World.refCount_holdAll ..

open Session in
/-- A list crosses twice, and one of the references is dropped. -/
theorem objects_cross_list :
    let world := (performAll [.wrapper .installBuiltins, .host (.bind "l" (.list []))] {}).2.world
    let crossings : List ObjectCrossing := [.toHost (.host (.object 0)), .fromHost (.object 0),
      .toHost .null, .toHost (.host (.object 0)), .drop (.object 0)]
    world.WrapsObjects ∧ world.Swept ∧ (∀ crossing ∈ crossings, crossing.Sound world) ∧
      (ObjectCrossing.afterAll crossings ⟨world, []⟩).owned = [.nil, .object 0] ∧
      (ObjectCrossing.afterAll crossings ⟨world, []⟩).world.refCount (.object 0) =
        world.refCount (.object 0) + 1 := by
  intro world crossings
  have hWraps : world.WrapsObjects :=
    ⟨{ typeId := "_object", name := "PyObject", toHost := .object, fromHost := .object },
      by decide +kernel, rfl, rfl⟩
  have hSwept : world.Swept := swept_performAll World.swept_empty _
  have hSound : ∀ crossing ∈ crossings, crossing.Sound world := by
    simp only [crossings, List.forall_mem_cons, ObjectCrossing.Sound]
    exact ⟨by decide +kernel, trivial, trivial, by decide +kernel, trivial, nofun⟩
  have hOwned : (ObjectCrossing.afterAll crossings ⟨world, []⟩).owned = [.nil, .object 0] := by
    decide +kernel
  obtain ⟨-, -, -, -, -, hRun⟩ := objects_cross hWraps hSwept
  have hCount := (hRun crossings hSound).1 (.object 0)
  refine ⟨hWraps, hSwept, hSound, hOwned, hCount.trans ?_⟩
  rw [hOwned]
  rfl

/-- NULL does not come back: it crosses as nil, which comes back as the address of nil. -/
theorem null_returns_nil :
    let world := (Session.performAll [.wrapper .installBuiltins] {}).2.world
    world.registry.lookup "_object" =
        .ok { typeId := "_object", name := "PyObject", toHost := .object, fromHost := .object } ∧
      ((toHost "_object" .null).run.run world).1 = .ok .nil ∧
      ((fromHost "_object" .nil).run.run ((toHost "_object" .null).run.run world).2).1 =
        .ok (.host .nil) ∧
      Pointer.host .nil ≠ .null := by
  decide +kernel

end HeapBridge
