import HeapBridge.Native.Heap
import HeapBridge.Text.Quoted
import HeapBridge.Text.Utf8
/-!
Errors of the bridge. Everything that can go wrong while a value crosses is one of these causes;
each has one text.
-/
namespace HeapBridge

/-- The host calls behind the operations on foreign sets, as a violation of their contract names
them. -/
inductive Operation where
  | contains
  | add
  | remove
  | removeAll
  | count
  | iterate
  | member
  | copy
  deriving DecidableEq, Repr

def Operation.label : Operation → String
  | .contains => "contains"
  | .add => "add"
  | .remove => "remove"
  | .removeAll => "remove_all"
  | .count => "count"
  | .iterate => "iterate"
  | .member => "member"
  | .copy => "copy"

/-- Why an argument from outside was rejected. -/
inductive BadArgument where
  | nullText
  | invalidText (fault : Text.Utf8.Fault)
  | notForeignSet
  | nullIterator
  | nullOutput
  | missingConverter (typeId : String)
  | custom (text : String)
  deriving DecidableEq, Repr

def BadArgument.message : BadArgument → String
  | .nullText => "Null string pointer"
  | .invalidText fault => "Invalid UTF-8: " ++ fault.message
  | .notForeignSet => "Not a foreign set"
  | .nullIterator => "Null iterator"
  | .nullOutput => "Null output pointer"
  | .missingConverter typeId => s!"missing converter for '{typeId}'"
  | .custom text => text

inductive BridgeError where
  /-- There was no storage for a new object of that class. -/
  | allocationFailed (nativeClass : Native.NativeClass)
  /-- A host value was required, and there was none. -/
  | nullHostValue
  | duplicateWrapper (typeId : String)
  | invalidIdentifier (typeId : String)
  | unknownType (typeId : String)
  /-- A converter failed, with this report. -/
  | conversion (typeId report : String)
  /-- The host value of a proxy did not behave like a mutable set. -/
  | contractViolation (operation : Operation) (report : String)
  /-- A writer of the registry died in the middle of its work. -/
  | poisoned
  | invalidArgument (argument : BadArgument)
  deriving DecidableEq, Repr

namespace BridgeError

def message : BridgeError → String
  | .allocationFailed nativeClass => s!"native allocation failed for {nativeClass.name}"
  | .nullHostValue => "host value must not be NULL"
  | .duplicateWrapper typeId => s!"pointer wrapper for '{typeId}' is already registered"
  | .invalidIdentifier typeId =>
    "invalid pointer type identifier: " ++ Text.Quoted.quote typeId
  | .unknownType typeId => s!"no pointer wrapper registered for '{typeId}'"
  | .conversion typeId report => s!"cannot convert '{typeId}': {report}"
  | .contractViolation operation report => s!"{operation.label} on foreign set failed: {report}"
  | .poisoned => "pointer registry lock poisoned"
  | .invalidArgument argument => argument.message

end BridgeError

/-- Reads a text argument: none stands for NULL, and nothing behind the first zero byte counts. -/
def readText : Option (List UInt8) → Except BridgeError String
  | none => .error (.invalidArgument .nullText)
  | some bytes =>
    match Text.Utf8.decode (bytes.takeWhile (· ≠ 0)) with
    | .ok text => .ok text
    | .error fault => .error (.invalidArgument (.invalidText fault))

/-- A text as a reader sees it who stops at the first NUL. -/
def visibleText (text : String) : String := String.ofList (text.toList.takeWhile (· ≠ '\x00'))

/-- Whether a text can be handed to such a reader without loss. -/
def hasNul (text : String) : Bool := text.toList.contains '\x00'

end HeapBridge
