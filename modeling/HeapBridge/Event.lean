import HeapBridge.Text.Quoted
/-!
The events that the bridge logs. They tell of proxies and handle wrappers as they come and go, and
of registrations and their rejections.
-/
namespace HeapBridge

inductive Event where
  | setCreated
  | setReleased
  | handleReleased (typeId : String)
  | wrapperRegistered (typeId name : String)
  | duplicateRejected (typeId : String)
  | identifierRejected (typeId : String)
  | builtinsInstalled
  deriving DecidableEq, Repr

inductive Level where
  | trace
  | debug
  | warn
  deriving DecidableEq, Repr

def Level.name : Level → String
  | .trace => "TRACE"
  | .debug => "DEBUG"
  | .warn => "WARN"

namespace Event

def level : Event → Level
  | .setCreated | .setReleased | .handleReleased _ => .trace
  | .wrapperRegistered _ _ | .builtinsInstalled => .debug
  | .duplicateRejected _ | .identifierRejected _ => .warn

def message : Event → String
  | .setCreated => "foreign set created"
  | .setReleased => "foreign set released"
  | .handleReleased _ => "releasing handle"
  | .wrapperRegistered _ _ => "registered pointer wrapper"
  | .duplicateRejected _ => "pointer wrapper already registered"
  | .identifierRejected _ => "rejected pointer wrapper with invalid identifier"
  | .builtinsInstalled => "built-in pointer wrappers installed"

/-- The fields of an event. An identifier that was rejected as such is quoted. -/
def fields : Event → List (String × String)
  | .handleReleased typeId | .duplicateRejected typeId => [("type_id", typeId)]
  | .wrapperRegistered typeId name => [("type_id", typeId), ("name", name)]
  | .identifierRejected typeId => [("type_id", Text.Quoted.quote typeId)]
  | _ => []

end Event

end HeapBridge
