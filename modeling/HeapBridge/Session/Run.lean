import HeapBridge.Session.Exports
/-!
Running a session: its commands in order, each from where the one before has left off. A command
that fails does not stop the others. After each command the host objects that nothing refers to
any more are reclaimed.
-/
namespace HeapBridge

/-- Commands on what is recorded on the way: the last error and the log. -/
inductive RecordCommand where
  | setLastError (text : String)
  | clearLastError
  | lastError
  /-- The events since this was last asked. -/
  | log

open Session

def RecordCommand.run : RecordCommand → SessionM Reply
  | .setLastError text => do
    modifyWorld (·.setLastError thread text)
    return .text ((← get).world.lastError? thread)
  | .clearLastError => do
    modifyWorld (·.clearLastError thread)
    return .text ((← get).world.lastError? thread)
  | .lastError => do
    let world := (← get).world
    return .lastErrors (world.lastError? thread) (world.lastError? (thread + 1))
  | .log => do
    let events := (← get).world.log
    modifyWorld fun world => { world with log := [] }
    return .events events

inductive Command where
  | host (command : HostCommand)
  | value (command : ValueCommand)
  | set (command : SetCommand)
  | object (command : ObjectCommand)
  | wrapper (command : WrapperCommand)
  | exported (call : ExportCall)
  | record (command : RecordCommand)

def Command.run : Command → SessionM Reply
  | .host command => command.run
  | .value command => command.run
  | .set command => command.run
  | .object command => command.run
  | .wrapper command => command.run
  | .exported call => call.run
  | .record command => command.run

namespace Session

def outcome : Except Failure Reply → Reply
  | .ok reply => reply
  | .error failure => .failed failure

/-- Runs a command. -/
def perform (command : Command) (session : Session) : Reply × Session :=
  let (result, session) := command.run.run session
  (outcome result, { session with world := session.world.settle })

/-- Runs commands in order. -/
def performAll : List Command → Session → List Reply × Session
  | [], session => ([], session)
  | command :: rest, session =>
    let (reply, session) := perform command session
    let (replies, session) := performAll rest session
    (reply :: replies, session)

def replies (commands : List Command) : List Reply := (performAll commands {}).1

end Session

end HeapBridge
