import HeapBridge.Host.DictMethods
import HeapBridge.Host.SetMethods
import HeapBridge.Host.Showing
import HeapBridge.Text.Numeral
/-!
Construction of objects of scripted classes. A class is called with a value or without one; the value is
converted to what the base carries, or fills the new object if the base is a container that can be
changed. A class may replace either step by a script.
-/
namespace HeapBridge.Host

/-- A text of at most that many characters. -/
def clippedCodes (codes : CodePoints) : String := CodePoints.toText (codes.take 200)

/-- A refusal that shows the value that is refused; if it cannot be shown nothing is said. -/
def refuseShown {α : Type} (ops : Ops) (message : CodePoints → String) (value : Ref) : HostM α := do
  match ← attempt (ops.shown value) with
  | .ok shown => refuse "ValueError" (message shown)
  | .error fault => if fault.cause = .outOfSteps then throw fault else refuse "ValueError" ""

def readInteger (codes : CodePoints) (refused : HostM Int) : HostM Int := do
  match Text.Numeral.readInteger codes with
  | .number value => return value
  | .tooLong digits =>
    refuse "ValueError" (s!"Exceeds the limit ({Text.Numeral.digitLimit} digits) for integer " ++
      s!"string conversion: value has {digits} digits; " ++
      "use sys.set_int_max_str_digits() to increase the limit")
  | .malformed => refused

/-- What is said about a text that is the numeral of no integer. -/
def notIntegral (shown : CodePoints) : String :=
  s!"invalid literal for int() with base 10: {clippedCodes shown}"

def integerPart (bits : UInt64) : HostM Int := do
  match Binary64.decode bits with
  | .nan => refuse "ValueError" "cannot convert float NaN to integer"
  | .infinite _ => refuse "OverflowError" "cannot convert float infinity to integer"
  | value => return value.truncated?.getD 0

def answeredInteger (ops : Ops) (answer : Ref) : HostM Int := do
  let typeName ← typeNameOf answer
  let value := (← bodyOf answer).int?
  ops.release [answer]
  match value with
  | some value => return value
  | none => refuse "TypeError" s!"__int__ returned non-int (type {Cause.long typeName})"

def integerOf (ops : Ops) (value : Ref) : HostM Int := do
  match ← scripted? ops value "__int__" [] with
  | some answer => answeredInteger ops answer
  | none =>
    match ← bodyOf value with
    | .float bits => integerPart bits
    | body =>
      if (← heap).isIndex value then
        match body.int? with
        | some number => return number
        | none => return (← index ops value).1
      else
        match body with
        | .text codes =>
          readInteger (Text.Numeral.plain codes) (refuseShown ops notIntegral value)
        | .bytes content =>
          let shown := CodePoints.ofChars (Text.Shown.bytes (content.take 200))
          readInteger (content.map UInt8.toNat) (refuse "ValueError" (notIntegral shown))
        | _ =>
          refuse "TypeError" ("int() argument must be a string, a bytes-like object " ++
            s!"or a real number, not '{Cause.long (← typeNameOf value)}'")

def readNumber (ops : Ops) (value : Ref) (codes : CodePoints) : HostM UInt64 := do
  match Text.Numeral.readNumber? codes with
  | some bits => return bits
  | none =>
    refuseShown ops
      (fun shown => s!"could not convert string to float: {CodePoints.toText shown}") value

def nearestNumber (value : Int) : HostM UInt64 :=
  match Binary64.ofInt? value with
  | some bits => return bits
  | none => refuse "OverflowError" "int too large to convert to float"

def answeredNumber (ops : Ops) (value answer : Ref) : HostM UInt64 := do
  let typeName ← typeNameOf answer
  let body ← bodyOf answer
  ops.release [answer]
  match body with
  | .float bits => return bits
  | _ =>
    refuse "TypeError" (s!"{Cause.short (← typeNameOf value)}.__float__ returned non-float " ++
      s!"(type {Cause.short typeName})")

def numberOf (ops : Ops) (value : Ref) : HostM UInt64 := do
  match ← bodyOf value, ← isExact value with
  | .text codes, true => readNumber ops value (Text.Numeral.plain codes)
  | body, _ =>
    match ← scripted? ops value "__float__" [] with
    | some answer => answeredNumber ops value answer
    | none =>
      match body with
      | .float bits => return bits
      | .bool _ | .int _ => nearestNumber (body.int?.getD 0)
      | _ =>
        if (← heap).isIndex value then nearestNumber (← index ops value).1
        else
          match body with
          | .text codes => readNumber ops value (Text.Numeral.plain codes)
          | .bytes content => readNumber ops value (content.map UInt8.toNat)
          | _ =>
            refuse "TypeError" ("float() argument must be a string or a real number, " ++
              s!"not '{Cause.long (← typeNameOf value)}'")

def bytesFrom (ops : Ops) (iterator : Ref) : Nat → HostM (List UInt8)
  | 0 => outOfSteps
  | steps + 1 => do
    match ← next ops iterator with
    | none => return []
    | some item =>
      let value ← keeping ops [item] (clampedIndex ops item)
      if value < 0 || 256 ≤ value then refuse "ValueError" "bytes must be in range(0, 256)"
      else return value.toNat.toUInt8 :: (← bytesFrom ops iterator steps)

def bytesOfItems (ops : Ops) (value : Ref) : HostM (List UInt8) := do
  match ← attempt (iterate ops value) with
  | .ok iterator =>
    keeping ops [iterator] do
      if ← ListObject.isExactSequence value then bytesFrom ops iterator stepLimit
      else
        reserve ((← lengthHint? ops value).getD 64)
        bytesFrom ops iterator stepLimit
  | .error fault =>
    if fault.exception = "TypeError" then
      refuse "TypeError" s!"cannot convert '{Cause.long (← typeNameOf value)}' object to bytes"
    else throw fault

def zeroBytes (count : Int) : HostM (List UInt8) := do
  if count < 0 then refuse "ValueError" "negative count"
  else if maxLength - 33 < count then refuse "OverflowError" "byte string is too large"
  else
    reserve count.toNat
    return List.replicate count.toNat 0

def bytesOf (ops : Ops) (value : Ref) : HostM (List UInt8) := do
  match ← scripted? ops value "__bytes__" [] with
  | some answer =>
    let typeName ← typeNameOf answer
    let body ← bodyOf answer
    ops.release [answer]
    match body with
    | .bytes content => return content
    | _ => refuse "TypeError" s!"__bytes__ returned non-bytes (type {Cause.long typeName})"
  | none =>
    match ← bodyOf value with
    | .bytes content => return content
    | .text _ => refuse "TypeError" "string argument without an encoding"
    | _ =>
      if (← heap).isIndex value then
        match ← attempt (boundedIndex ops "OverflowError" value) with
        | .ok count => zeroBytes count
        | .error fault =>
          if fault.exception = "TypeError" then bytesOfItems ops value else throw fault
      else bytesOfItems ops value

/-- What an object of a base carries from the start. Containers that can be changed start out empty. -/
def initialBody (ops : Ops) (base : Kind) (value : Option Ref) : HostM Body := do
  match base, value with
  | .int, none => return .int 0
  | .int, some value => return .int (← integerOf ops value)
  | .float, none => return .float 0
  | .float, some value => return .float (← numberOf ops value)
  | .text, none => return .text []
  | .text, some value => return .text (← textOf ops value)
  | .bytes, none => return .bytes []
  | .bytes, some value => return .bytes (← bytesOf ops value)
  | .tuple, _ => return .tuple []
  | .list, _ => return .list []
  | .set, _ => return .set .empty
  | .frozenset, _ => return .frozenset .empty
  | .dict, _ => return .dict .empty
  | _, _ => return .plain

/-- Fills a container from a value, instead of what it had. -/
def refill (ops : Ops) (container value : Ref) : HostM Unit := do
  match ← bodyOf container with
  | .list _ =>
    ListObject.clear ops container
    ListObject.extend ops container value
  | .set table =>
    if table.fill ≠ 0 then SetObject.clear ops container
    SetObject.update ops container value
  | .dict _ => DictObject.update ops container value
  | _ => return ()

/-- Initialises a new object, by the script of its class if there is one. -/
def initialiseObject (ops : Ops) (object : Ref) (value : Option Ref) : HostM Unit := do
  match ← scripted? ops object "__init__" value.toList with
  | some answer =>
    let typeName ← typeNameOf answer
    ops.release [answer]
    if answer.isNil then return ()
    else refuse "TypeError" s!"__init__() should return None, not '{Cause.long typeName}'"
  | none => value.forM (refill ops object)

/-- An object of a class at a new address. -/
def instantiate (number : Nat) (body : Body) : HostM Ref :=
  allocate { body, script := some number }

def newObject (ops : Ops) (number : Nat) (base : Kind) (value : Option Ref) : HostM Ref := do
  match base, value with
  | .tuple, some value =>
    let tuple ← ListObject.tupleOf ops value
    let object ← instantiate number (.tuple (← ListObject.items tuple))
    holding [object] (ops.release (if tuple = value then [] else [tuple]))
    return object
  | .frozenset, some value =>
    let object ← instantiate number (.frozenset .empty)
    completing ops object (SetObject.update ops object value)
  | _, _ => instantiate number (← initialBody ops base value)

/-- A new object of a class, which has a number. -/
def construct (ops : Ops) (number : Nat) (script : Script) (value : Option Ref) : HostM Ref := do
  match script.method? "__new__" with
  | some action => perform ops .nil "__new__" value.toList action
  | none =>
    if script.base = .plain && value.isSome && (script.method? "__init__").isNone then
      fail (.wrongArguments s!"{Cause.long script.name}() takes no arguments")
    else
      let object ← newObject ops number script.base value
      completing ops object (initialiseObject ops object value)

def define (ops : Ops) (script : Script) (value : Option Ref) : HostM Ref := do
  if script.name.toList.contains '\x00' then
    refuse "ValueError" "type name must not contain null characters"
  else
    let number ← addScript script
    construct ops number script value

end HeapBridge.Host
