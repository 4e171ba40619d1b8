import HeapBridge.Host.Reference
import HeapBridge.Text.Clipped
/-!
Faults of host code. A fault is what went wrong and the frames of host code it passed through on
its way out; the exception it stands for, its text and the report with the traceback are read off
those two. The text of a look-up that failed shows the key, which only the host can do.
-/
namespace HeapBridge.Host

/-- Why a host operation failed. The names of types and attributes are those of the objects that
were used. -/
inductive Cause where
  /-- An exception that a script raises, with its argument. -/
  | raised (exception text : String)
  /-- An operation that refuses its operands. -/
  | refused (exception text : String)
  /-- A look-up of an absent key. -/
  | missingKey (key : Ref)
  | noAttribute (typeName name : String)
  /-- An attribute that is computed and cannot be set. -/
  | readOnlyAttribute (typeName name : String)
  /-- An attribute of the type of an object that has no room for attributes of its own. -/
  | fixedAttribute (typeName name : String)
  | notCallable (typeName : String)
  | wrongArguments (text : String)
  | unhashable (typeName : String)
  | hashNotInteger
  | truthNotBool (typeName : String)
  | notContainer (typeName : String)
  | needleNotText (typeName : String)
  | needleNotBytes (typeName : String)
  | byteOutOfRange
  | noLength (typeName : String)
  | negativeLength
  | hintNotInteger (typeName : String)
  | negativeHint
  | lengthTooLarge (typeName : String)
  | notInteger (typeName : String)
  | indexNotInteger (typeName : String)
  | indexTooLarge
  | notIterable (typeName : String)
  | notIterator (typeName : String)
  | notIteratorObject (typeName : String)
  | setChanged
  | dictChanged
  | dictKeysChanged
  | generatorStopped
  | popFromEmptyList
  | popOutOfRange
  | popFromEmptySet
  | popFromEmptyDict
  | notInList
  | notAmongItems (shown : String)
  | notComparable (sign left right : String)
  | answerNotText (method typeName : String)
  | negativeAddress
  | addressTooLarge
  | notHandle (typeName : String)
  | otherHandle (expected actual : String)
  | converterFailed
  | noMemory
  /-- Host operations nest too deeply; the text says in which of them. -/
  | tooDeep (activity : String)
  /-- An operation that goes on for longer than it is followed. It is no exception of the host, so nothing
  handles it. -/
  | outOfSteps
  deriving DecidableEq, Repr

namespace Cause

def exception : Cause → String
  | .raised exception _ | .refused exception _ => exception
  | .missingKey _ | .popFromEmptySet | .popFromEmptyDict => "KeyError"
  | .noAttribute _ _ | .readOnlyAttribute _ _ | .fixedAttribute _ _ => "AttributeError"
  | .byteOutOfRange | .negativeLength | .negativeHint | .notInList | .notAmongItems _ | .converterFailed =>
    "ValueError"
  | .lengthTooLarge _ | .indexTooLarge | .negativeAddress | .addressTooLarge => "OverflowError"
  | .setChanged | .dictChanged | .dictKeysChanged | .generatorStopped => "RuntimeError"
  | .popFromEmptyList | .popOutOfRange => "IndexError"
  | .noMemory => "MemoryError"
  | .tooDeep _ => "RecursionError"
  | .outOfSteps => "OutOfSteps"
  | _ => "TypeError"

/-- A type name in a message that has room for so many bytes of it. -/
abbrev short (typeName : String) : String := Text.clip 50 typeName

abbrev clipped (typeName : String) : String := Text.clip 100 typeName

abbrev long (typeName : String) : String := Text.clip 200 typeName

def text : Cause → String
  | .raised _ text | .refused _ text => text
  | .missingKey _ => ""
  | .noAttribute typeName name => s!"'{short typeName}' object has no attribute '{name}'"
  | .readOnlyAttribute typeName name =>
    s!"attribute '{name}' of '{clipped typeName}' objects is not writable"
  | .fixedAttribute typeName name =>
    s!"'{clipped typeName}' object attribute '{name}' is read-only"
  | .notCallable typeName => s!"'{long typeName}' object is not callable"
  | .wrongArguments text => text
  | .unhashable typeName => s!"unhashable type: '{long typeName}'"
  | .hashNotInteger => "__hash__ method should return an integer"
  | .truthNotBool typeName => s!"__bool__ should return bool, returned {typeName}"
  | .notContainer typeName => s!"argument of type '{long typeName}' is not iterable"
  | .needleNotText typeName =>
    s!"'in <string>' requires string as left operand, not {clipped typeName}"
  | .needleNotBytes typeName => s!"a bytes-like object is required, not '{clipped typeName}'"
  | .byteOutOfRange => "byte must be in range(0, 256)"
  | .noLength typeName => s!"object of type '{long typeName}' has no len()"
  | .negativeLength => "__len__() should return >= 0"
  | .hintNotInteger typeName => s!"__length_hint__ must be an integer, not {clipped typeName}"
  | .negativeHint => "__length_hint__() should return >= 0"
  | .lengthTooLarge typeName => s!"cannot fit '{long typeName}' into an index-sized integer"
  | .notInteger typeName => s!"'{long typeName}' object cannot be interpreted as an integer"
  | .indexNotInteger typeName => s!"__index__ returned non-int (type {long typeName})"
  | .indexTooLarge => "Python int too large to convert to C ssize_t"
  | .notIterable typeName => s!"'{long typeName}' object is not iterable"
  | .notIterator typeName => s!"iter() returned non-iterator of type '{clipped typeName}'"
  | .notIteratorObject typeName => s!"'{long typeName}' object is not an iterator"
  | .setChanged => "Set changed size during iteration"
  | .dictChanged => "dictionary changed size during iteration"
  | .dictKeysChanged => "dictionary keys changed during iteration"
  | .generatorStopped => "generator raised StopIteration"
  | .popFromEmptyList => "pop from empty list"
  | .popOutOfRange => "pop index out of range"
  | .popFromEmptySet => "'pop from an empty set'"
  | .popFromEmptyDict => "'popitem(): dictionary is empty'"
  | .notInList => "list.remove(x): x not in list"
  | .notAmongItems shown => s!"{shown} is not in list"
  | .notComparable sign left right =>
    s!"'{sign}' not supported between instances of '{clipped left}' and '{clipped right}'"
  | .answerNotText method typeName => s!"{method} returned non-string (type {long typeName})"
  | .negativeAddress => "can't convert negative int to unsigned"
  | .addressTooLarge => "int too big to convert"
  | .notHandle typeName => s!"'{typeName}' object cannot be converted to 'OpaquePointer'"
  | .otherHandle expected actual => s!"expecting {expected} pointer, got {actual}"
  | .converterFailed => "pointer conversion failed"
  | .noMemory | .outOfSteps => ""
  | .tooDeep activity => "maximum recursion depth exceeded" ++ activity

end Cause

/-- A line of host code that was running when a fault passed through it. -/
structure Frame where
  line : Nat
  method : String
  deriving DecidableEq, Repr

inductive TracebackLine where
  /-- A frame that the fault passed through. -/
  | passed (frame : Frame)
  /-- The frame above, so many more times in a row. -/
  | repeated (more : Nat)
  deriving DecidableEq, Repr

def TracebackLine.text : TracebackLine → String
  | .passed frame => s!"  File \"<host>\", line {frame.line}, in {frame.method}\n"
  | .repeated more =>
    let times := if more = 1 then "time" else "times"
    s!"  [Previous line repeated {more} more {times}]\n"

namespace Traceback

/-- How often a traceback writes one frame in a row. -/
def repeatLimit : Nat := 3

/-- What stands for the frames in a row that are not written. -/
def repetition (count : Nat) : List TracebackLine :=
  if count ≤ repeatLimit then [] else [.repeated (count - repeatLimit)]

def linesAfter (last : Frame) (count : Nat) : List Frame → List TracebackLine
  | [] => repetition count
  | frame :: rest =>
    if frame = last then
      (if count < repeatLimit then [.passed frame] else []) ++ linesAfter last (count + 1) rest
    else repetition count ++ .passed frame :: linesAfter frame 1 rest

def lines : List Frame → List TracebackLine
  | [] => []
  | frame :: rest => .passed frame :: linesAfter frame 1 rest

/-- How many frames a traceback tells of, the innermost ones. -/
def frameLimit : Nat := 1000

def text : List Frame → String
  | [] => ""
  | frames =>
    "Traceback (most recent call last):\n" ++
      String.join ((lines (frames.drop (frames.length - frameLimit))).map TracebackLine.text)

end Traceback

/-- A cause and the frames it has left, the outermost first. -/
structure Fault where
  cause : Cause
  frames : List Frame := []
  deriving DecidableEq, Repr

namespace Fault

def exception (fault : Fault) : String := fault.cause.exception

/-- The traceback of a fault, empty for one that passed through no host code. -/
def traceback (fault : Fault) : String := Traceback.text fault.frames

/-- The fault as it leaves a line of host code. -/
def through (fault : Fault) (frame : Frame) : Fault :=
  { fault with frames := frame :: fault.frames }

end Fault

end HeapBridge.Host
