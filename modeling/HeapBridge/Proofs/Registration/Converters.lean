import HeapBridge.Proofs.Handles.Atomicity
/-!
The registry with converters of any kind. A converter is code that the bridge knows nothing of. It runs without
the table being held, so it may do anything to the world, and may itself ask for registrations and conversions; all
that is said of it is that it reaches the table by attempts. That is enough for the registry to be what it is with
the converters that wrappers name: what the first well-formed attempts have bound stays bound, and a conversion runs
the converter that is bound.
-/
namespace HeapBridge

open Host (HostM Ref)

/-- Converters of any kind, to host values and from them, with the attempts that each makes while it runs. These
may depend on all that the converter finds. -/
structure Converting where
  outward : PointerWrapper → Pointer → World → Except BridgeError Ref × World
  inward : Converters
  nestedOutward : PointerWrapper → Pointer → World → List Attempt
  nestedInward : PointerWrapper → Ref → World → List Attempt
  registers_outward (wrapper : PointerWrapper) (pointer : Pointer) (world : World) :
    Registers (nestedOutward wrapper pointer world) world (outward wrapper pointer world).2
  registers_inward (wrapper : PointerWrapper) (value : Ref) (world : World) :
    Registers (nestedInward wrapper value world) world (inward wrapper value world).2

namespace Converting

def named : Converting where
  outward wrapper pointer := (wrapper.toHost.run wrapper.typeId pointer).run.run
  inward := .named
  nestedOutward wrapper _ _ := wrapper.toHost.nested
  nestedInward _ _ _ := []
  registers_outward wrapper pointer := registers_converter wrapper.toHost wrapper.typeId pointer
  registers_inward _ _ world := .of_eq (HostM.changes_runOn _ world).cursors_registry.2

variable (converting : Converting)

/-- The host value that a wrapper makes of a pointer, as a new reference that is held. -/
def made (wrapper : PointerWrapper) (pointer : Pointer) : BridgeM Ref := do
  let ref ← BridgeM.finish (← modifyGet (converting.outward wrapper pointer))
  modify (·.hold ref)
  return ref

def toHost (typeId : String) (pointer : Pointer) : BridgeM Ref := do
  converting.made (← lookup typeId) pointer

/-- A converter runs on the world as it is, and what it makes is held. -/
theorem run_made (wrapper : PointerWrapper) (pointer : Pointer) (world : World) :
    (converting.made wrapper pointer).run.run world =
      match converting.outward wrapper pointer world with
      | (.ok ref, body) => (.ok ref, body.hold ref)
      | (.error error, body) => (.error error, body) := by
  rw [made, run_bind, show (modifyGet (converting.outward wrapper pointer) : BridgeM _).run.run world =
    (.ok (converting.outward wrapper pointer world).1, (converting.outward wrapper pointer world).2) from rfl]
  rcases converting.outward wrapper pointer world with ⟨error | ref, body⟩ <;> rfl

/-- With the converters that wrappers name this is how the bridge converts. -/
@[simp] theorem named_toHost : named.toHost = HeapBridge.toHost := by
  funext typeId pointer world
  change (named.toHost typeId pointer).run.run world = (HeapBridge.toHost typeId pointer).run.run world
  rw [toHost, HeapBridge.toHost, run_bind, run_bind, run_lookup]
  cases hLookup : world.registry.lookup typeId with
  | error error => rfl
  | ok wrapper =>
    obtain rfl := (Registry.mem_of_lookup hLookup).2
    have hOutward : named.outward wrapper pointer world =
        (wrapper.toHost.run wrapper.typeId pointer).run.run world := rfl
    dsimp only
    rw [run_made, run_bind, hOutward]
    rcases (wrapper.toHost.run wrapper.typeId pointer).run.run world with ⟨error | ref, body⟩ <;> rfl

theorem registers_made (wrapper : PointerWrapper) (pointer : Pointer) (world : World) :
    Registers (converting.nestedOutward wrapper pointer world) world
      ((converting.made wrapper pointer).run.run world).2 := by
  refine (converting.registers_outward wrapper pointer world).of_after ?_
  rw [run_made]
  rcases converting.outward wrapper pointer world with ⟨error | ref, body⟩ <;> rfl

/-- What callers do that comes to the registry, and what does not. -/
inductive Call where
  | register (wrapper : PointerWrapper)
  | installBuiltins
  | toHost (typeId : String) (pointer : Pointer)
  | fromHost (call : Conversion)
  | other (change : World → World) (hRegistry : ∀ world, (change world).registry = world.registry)

def run : Call → World → World
  | .register wrapper, world => ((HeapBridge.register wrapper).run.run world).2
  | .installBuiltins, world => (HeapBridge.installBuiltins.run.run world).2
  | .toHost typeId pointer, world => ((converting.toHost typeId pointer).run.run world).2
  | .fromHost call, world => (call.perform converting.inward .null world).world
  | .other change _, world => change world

def attempts : Call → World → List Attempt
  | .register wrapper, _ => [wrapper.attempt]
  | .installBuiltins, world => world.registry.installs
  | .toHost typeId pointer, world =>
    match world.registry.lookup typeId with
    | .ok wrapper => converting.nestedOutward wrapper pointer world
    | .error _ => []
  | .fromHost call, world =>
    match call.located world with
    | .ok (wrapper, value) => converting.nestedInward wrapper value (call.entered world)
    | .error _ => []
  | .other _ _, _ => []

def runAll : List Call → World → World
  | [], world => world
  | call :: rest, world => runAll rest (converting.run call world)

def attemptsAll : List Call → World → List Attempt
  | [], _ => []
  | call :: rest, world => converting.attempts call world ++ attemptsAll rest (converting.run call world)

/-- Going outward registers what the converter in use attempts. -/
theorem registers_toHost (typeId : String) (pointer : Pointer) (world : World) :
    Registers (converting.attempts (.toHost typeId pointer) world) world
      ((converting.toHost typeId pointer).run.run world).2 := by
  rw [attempts, toHost, run_bind, run_lookup]
  cases world.registry.lookup typeId with
  | error error => exact .of_eq rfl
  | ok wrapper => exact converting.registers_made wrapper pointer world

theorem registry_told (call : Conversion) (error : BridgeError) (world : World) :
    (call.told error world).registry = world.registry :=
  (Conversion.Left.fails call .null error world).registry

/-- Going inward registers what the converter in use attempts. -/
theorem registers_fromHost (call : Conversion) (world : World) :
    Registers (converting.attempts (.fromHost call) world) world
      (call.perform converting.inward .null world).world := by
  have hEntered : (call.entered world).registry = world.registry := by cases call <;> rfl
  rw [attempts, Conversion.perform_eq, Conversion.outcome]
  rcases call.located world with error | ⟨wrapper, value⟩
  · exact .of_eq (registry_told call error world)
  · have hBody := converting.registers_inward wrapper value (call.entered world)
    dsimp only
    rcases hRun : converting.inward wrapper value (call.entered world) with ⟨fault | pointer, body⟩ <;>
      rw [hRun] at hBody
    · refine .of_before hEntered (hBody.of_after ?_)
      exact (registry_told call _ _).trans (fault.registry_reported body)
    · exact .of_before hEntered hBody

/-- A call makes its attempts, and nothing else comes to the registry. -/
theorem registers_run (call : Call) (world : World) :
    Registers (converting.attempts call world) world (converting.run call world) := by
  cases call with
  | register wrapper => exact registers_register wrapper world
  | installBuiltins => exact registers_installBuiltins world
  | toHost typeId pointer => exact converting.registers_toHost typeId pointer world
  | fromHost call => exact converting.registers_fromHost call world
  | other change hRegistry => exact .of_eq (hRegistry world)

theorem registers_runAll (calls : List Call) (world : World) :
    Registers (converting.attemptsAll calls world) world (converting.runAll calls world) := by
  induction calls generalizing world with
  | nil => exact .of_eq rfl
  | cons call rest ih => exact (converting.registers_run call world).trans (ih _)

/-- Whether conversions run the converter that the first attempts have bound, and are rejected if there is none. -/
structure Bound (history : List Attempt) (world : World) : Prop where
  outward : ∀ typeId pointer, (converting.toHost typeId pointer).run.run world =
    match Bindings.first history typeId with
    | some wrapper => (converting.made wrapper pointer).run.run world
    | none => (.error (.unknownType typeId), world)
  inward : ∀ typeId value, (fromHostBy converting.inward typeId value).run.run world =
    match Bindings.first history typeId with
    | some wrapper =>
      match converting.inward wrapper value world with
      | (.ok pointer, body) => (.ok pointer, body)
      | (.error fault, body) => (.error (.conversion typeId (fault.report body)), fault.reported body)
    | none => (.error (.unknownType typeId), world)

/-- A registry that serves bindings converts by them. -/
theorem bound_of_serves {history : List Attempt} {world : World}
    (hServes : world.registry.Serves (.first history)) : converting.Bound history world where
  outward typeId pointer := by
    rw [toHost, run_bind, run_lookup, hServes.lookup]
    cases Bindings.first history typeId <;> rfl
  inward typeId value := by
    rw [run_fromHostBy, hServes.lookup]
    cases Bindings.first history typeId <;> rfl

/-- Whatever the converters are and whatever else is done, the first well-formed attempt for an identifier binds
it, be it made by a caller or from within a conversion: whoever looks at the registry goes by it, conversions run
its converter, and it stays bound. -/
theorem firstWins_runAll (calls : List Call) :
    (converting.runAll calls {}).FirstWins (converting.attemptsAll calls {}) ∧
      converting.Bound (converting.attemptsAll calls {}) (converting.runAll calls {}) ∧
        ∀ later typeId wrapper, Bindings.first (converting.attemptsAll calls {}) typeId = some wrapper →
          (converting.runAll later (converting.runAll calls {})).registry.lookup typeId = .ok wrapper := by
  have hServes := converting.registers_runAll calls {} [] .empty
  rw [List.nil_append] at hServes
  refine ⟨hServes.firstWins, converting.bound_of_serves hServes, fun later typeId wrapper hFirst => ?_⟩
  have hStill := converting.registers_runAll later _ _ hServes
  rw [hStill.lookup, Bindings.first_append, hFirst]
  rfl

/-- A poisoned registry asks no converter. -/
theorem asks_none_of_poisoned {world : World} (hPoisoned : world.registry.poisoned = true) (typeId : String)
    (pointer : Pointer) (value : Ref) :
    (converting.toHost typeId pointer).run.run world = (.error .poisoned, world) ∧
      (fromHostBy converting.inward typeId value).run.run world = (.error .poisoned, world) := by
  have hLookup : world.registry.lookup typeId = .error .poisoned := if_pos hPoisoned
  refine ⟨?_, ?_⟩
  · rw [toHost, run_bind, run_lookup, hLookup]
  · rw [run_fromHostBy, hLookup]

end Converting

end HeapBridge
