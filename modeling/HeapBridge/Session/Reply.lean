import HeapBridge.Event
import HeapBridge.Host.Form
import HeapBridge.World
/-!
Replies of a session. A reply is what one command lets its user see: values written out, pointers
by the names of slots, events, counts, and the reason why a command failed.
-/
namespace HeapBridge

open Host (Form PointerName)

/-- A native value written out. A set shows the host value behind its proxy. -/
inductive NativeForm where
  | nil
  | bool (value : Bool)
  | int (value : Int)
  | float (bits : UInt64)
  | text (value : String)
  | set (backing : Form)
  | host (value : Form)
  deriving Repr, Inhabited

/-- An element as an iterator hands it out. -/
inductive ElementForm where
  | native (form : NativeForm)
  | host (form : Form)
  deriving Repr, Inhabited

/-- Why a command makes no sense where it stands. -/
inductive Rejection where
  | noSlot (name : String)
  | notForeignSet
  | missing (field : String)
  | unknownFunction
  deriving DecidableEq, Repr

def Rejection.message : Rejection → String
  | .noSlot name => s!"no slot {name}"
  | .notForeignSet => "not a foreign set"
  | .missing field => s!"missing {field}"
  | .unknownFunction => "bad fn"

/-- Why a command failed. -/
inductive Failure where
  | bridge (error : BridgeError)
  /-- A host operation failed, with this text. -/
  | host (text : String)
  | rejected (rejection : Rejection)
  deriving DecidableEq, Repr

def Failure.message : Failure → String
  | .bridge error => error.message
  | .host text => text
  | .rejected rejection => rejection.message

/-- What a native object says of itself. -/
structure ObjectInfo where
  className : Option String
  isPlain : Bool
  isTracked : Bool
  isForeignSet : Bool
  retainCount : Nat
  /-- The tag of a tracked payload. -/
  tag : Option String
  deriving DecidableEq, Repr

/-- What a counted reference to a native object says of itself. -/
structure ReferenceInfo where
  className : String
  /-- The references while there is a second one. -/
  retainCount : Nat
  /-- Whether another slot names the same object; none if it has no object of the class. -/
  sameAsOther : Option Bool
  /-- The references after the second one is gone. -/
  after : Nat
  deriving DecidableEq, Repr

/-- The result of an exported function. -/
inductive Answer where
  | nothing
  | status (value : Int)
  | flag (value : Bool)
  | text (value : Option String)
  | host (value : Option Form)
  /-- A status, and what the output variable holds afterwards. -/
  | stored (status : Int) (out : PointerName)
  deriving Repr, Inhabited

inductive Reply where
  | done
  /-- The command died in the middle of its work. -/
  | died
  | failed (failure : Failure)
  /-- A conversion that failed, and what the output variable holds afterwards. -/
  | notStored (failure : Failure) (out : PointerName)
  | flag (value : Bool)
  | number (value : Int)
  | text (value : Option String)
  | texts (values : List String)
  | form (form : Form)
  | native (form : Option NativeForm)
  /-- There is some element; which one is not determined. -/
  | someElement
  /-- Elements, in an order that is only shown if it is determined. -/
  | elements (forms : List NativeForm) (ordered : Bool)
  /-- The next element of an iterator, unless the order is not determined. -/
  | next (element : Option ElementForm)
  /-- The end of an iteration; all elements if their order was not shown. -/
  | exhausted (seen : Option (List ElementForm))
  /-- An exported iterator failed. -/
  | notAdvanced (lastError : Option String)
  | scalars (int : Option Int) (text : Option String)
  | proxy (retainCount : Nat) (isForeignSet : Bool)
  | pointer (name : PointerName)
  | stored (out : PointerName)
  | object (info : ObjectInfo)
  | reference (info : Option ReferenceInfo)
  | calls (calls : List HandleCall)
  | lastErrors (here elsewhere : Option String)
  | events (events : List Event)
  | exported (answer : Answer) (lastError : Option String)
  deriving Inhabited

end HeapBridge
