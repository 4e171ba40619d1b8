import HeapBridge.Host.Methods
/-!
Operations of the bridge. They run host operations and turn the faults of these into errors that tell
what happened, and they give host references back in the order in which they are done with them.
-/
namespace HeapBridge

open Host (HostM Ref)

/-- An operation of the bridge. What it changed before an error stays changed. -/
abbrev BridgeM := ExceptT BridgeError (StateM World)

namespace World

def release (refs : List Ref) (world : World) : World :=
  (HostM.runOn (Host.ops.release refs) world).2

/-- Gives back a reference to a host object, which is given up if it was the last one. -/
def letGo (ref : Ref) (world : World) : World := (world.unhold ref).release [ref]

/-- Takes a reference to a native object away. What the object held goes with the last one. -/
def releaseNative (address : Nat) (world : World) : World :=
  let (freed, world) := world.dropNative address
  world.release freed

/-- Gives up all host objects that nothing refers to. -/
def settle (world : World) : World := (HostM.runOn (Host.settle Host.ops) world).2

/-- Calls a host operation. If it faults the exception is pending. -/
def call {α : Type} (operation : HostM α) (world : World) : Option α × World :=
  match HostM.runOn operation world with
  | (.ok value, world) => (some value, world)
  | (.error fault, world) => (none, { world with pending := fault :: world.pending })

/-- What there is to fetch after a call that failed without an exception. -/
def noException : Host.Fault :=
  { cause := .refused "SystemError" "attempted to fetch exception but none was set" }

/-- Fetches the latest exception, which is not pending any more. -/
def fetch (world : World) : Host.Fault × World :=
  match world.pending with
  | [] => (noException, world)
  | fault :: pending => (fault, { world with pending })

def textFrom (operation : HostM String) (world : World) : String × World :=
  match HostM.runOn operation world with
  | (.ok text, world) => (text, world)
  | (.error _, world) => ("", world)

end World

namespace BridgeM

/-- Ends as an operation has ended. -/
def finish {α : Type} : Except BridgeError α → BridgeM α
  | .ok value => return value
  | .error error => throw error

/-- A host operation as a part of an operation of the bridge, with its fault as a result. -/
def attempt {α : Type} (operation : HostM α) : BridgeM (Except Host.Fault α) := do
  match ← modifyGet (World.call operation) with
  | some value => return .ok value
  | none => .error <$> modifyGet World.fetch

/-- Fails as a fault has it, which is reported. -/
def explained {α : Type} (explain : String → BridgeError) (fault : Host.Fault) : BridgeM α := do
  let report ← modifyGet (World.textFrom (Host.report Host.ops fault))
  throw (explain report)

/-- What a host operation came to: a fault becomes an error of the bridge. -/
def concluded {α : Type} (explain : String → BridgeError) : Except Host.Fault α → BridgeM α
  | .ok value => return value
  | .error fault => explained explain fault

def host {α : Type} (explain : String → BridgeError) (operation : HostM α) : BridgeM α := do
  concluded explain (← attempt operation)

def contract {α : Type} (operation : Operation) (call : HostM α) : BridgeM α :=
  host (.contractViolation operation) call

/-- Makes a host value, which cannot fail. It is in flight. -/
def make (body : Host.Body) : BridgeM Ref := modifyGet fun world =>
  let (ref, host) := world.host.make body
  (ref, { world with host })

def release (refs : List Ref) : BridgeM Unit := modify (·.release refs)

/-- Refers to host objects in flight while an operation runs, and lets go of them afterwards. -/
def keeping {m : Type → Type} [Monad m] [MonadExceptOf BridgeError m] [MonadLiftT BridgeM m] {α : Type}
    (refs : List Ref) (operation : m α) : m α := do
  (modify (·.holdAll refs) : BridgeM Unit)
  let result ← tryCatch (Except.ok <$> operation) fun error => return .error error
  (modify fun world => refs.foldl (fun world ref => world.letGo ref) world : BridgeM Unit)
  finish result

end BridgeM

end HeapBridge
