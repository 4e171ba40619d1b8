import HeapBridge.Host.DictObject
import HeapBridge.Host.ListObject
import HeapBridge.Host.SetObject
import HeapBridge.Text.Shown
/-!
How the host shows an object. Numbers, texts and handles are shown as they are written, containers
by what they contain, and an object of a scripted class like one of the built-in kind it derives
from. A container inside itself is shown by its brackets alone. The address of a native object is
shown by a code of its own, since how it is to be named is not known here.
-/
namespace HeapBridge.Host

def CodePoints.ofChars (chars : List Char) : CodePoints := chars.map Char.toNat

/-- The code that stands for the address of a native object in a text. -/
def addressCode (address : Nat) : Nat := 0x110000 + address

def addressOfCode? (code : Nat) : Option Nat :=
  if code < 0x110000 then none else some (code - 0x110000)

def hexadecimal (n : Nat) : List Char := '0' :: 'x' :: Nat.toDigits 16 n

/-- A text with numbers in place of codes for addresses. Half of a surrogate pair is three bytes of
which none makes sense. -/
def CodePoints.toText (codes : CodePoints) : String :=
  String.ofList (codes.flatMap fun code =>
    match addressOfCode? code with
    | some address => hexadecimal (Pointer.native address).number
    | none =>
      if code.isValidChar then [Char.ofNat code] else List.replicate 3 Text.replacement)

def commaJoined : List CodePoints → CodePoints
  | [] => []
  | [text] => text
  | text :: rest => text ++ .ofString ", " ++ commaJoined rest

def enclosed (before after : String) (text : CodePoints) : CodePoints :=
  .ofString before ++ text ++ .ofString after

def showItems (ops : Ops) (sequence : Ref) : Nat → Nat → HostM (List CodePoints)
  | 0, _ => outOfSteps
  | steps + 1, index => do
    match (← bodyOf sequence).items?.bind (·[index]?) with
    | none => return []
    | some item =>
      let text ← ops.shown item
      return text :: (← showItems ops sequence steps (index + 1))

def showEntries (ops : Ops) (dict : Ref) : Nat → Nat → HostM (List CodePoints)
  | 0, _ => outOfSteps
  | steps + 1, position => do
    match (← DictObject.table dict).from? position with
    | none => return []
    | some (found, entry) =>
      let text ← keeping ops [entry.key, entry.value] do
        let key ← ops.shown entry.key
        let value ← ops.shown entry.value
        return key ++ .ofString ": " ++ value
      return text :: (← showEntries ops dict steps (found + 1))

/-- Shows a container, unless it is being shown already. -/
def guarded (container : Ref) (inside : String) (action : HostM CodePoints) : HostM CodePoints := do
  if (← read).showing.contains container then return .ofString inside
  else
    withReader (fun context => { context with showing := container :: context.showing }) action

def showListing (ops : Ops) (source : Ref) : HostM CodePoints := do
  let list ← ListObject.ofItems ops source
  keeping ops [list] (ops.shown list)

/-- A set is shown by the list of its elements in other brackets. A plain set needs no name in
front. -/
def showSet (ops : Ops) (set : Ref) (isNamed : Bool) : HostM CodePoints := do
  let name ← typeNameOf set
  guarded set (name ++ "(...)") do
    if (← SetObject.table set).isEmpty then return .ofString (name ++ "()")
    else
      let listing ← showListing ops set
      let elements := (listing.drop 1).dropLast
      if isNamed then return enclosed (name ++ "(\x7b") "\x7d)" elements
      else return enclosed "\x7b" "\x7d" elements

/-- The most digits of a number that is shown. -/
def digitLimit : Nat := 4300

def showInteger (value : Int) : HostM CodePoints :=
  let digits := Nat.toDigits 10 value.natAbs
  if digitLimit < digits.length then
    fail (.refused "ValueError" (s!"Exceeds the limit ({digitLimit} digits) for integer string " ++
      "conversion; use sys.set_int_max_str_digits() to increase the limit"))
  else return .ofChars (if value < 0 then '-' :: digits else digits)

def showPointer : Pointer → CodePoints
  | .native address => [addressCode address]
  | pointer => .ofChars (hexadecimal pointer.number)

def showSequence (ops : Ops) (sequence : Ref) (before after : String) : HostM CodePoints :=
  guarded sequence (before ++ "..." ++ after) do
    return enclosed before after (commaJoined (← showItems ops sequence stepLimit 0))

def builtinShown (ops : Ops) (ref : Ref) : HostM CodePoints := do
  let heap ← heap
  match heap.body ref with
  | .nil => return .ofString "None"
  | .bool value => return .ofString (if value then "True" else "False")
  | .int value => showInteger value
  | .float bits => return .ofChars (Binary64.text bits)
  | .text codes => return Text.Shown.text codes
  | .bytes content => return .ofChars (Text.Shown.bytes content)
  | .list [] => return .ofString "[]"
  | .list _ => showSequence ops ref "[" "]"
  | .tuple [] => return .ofString "()"
  | .tuple [item] => guarded ref "(...)" do return enclosed "(" ",)" (← ops.shown item)
  | .tuple _ => showSequence ops ref "(" ")"
  | .set _ => showSet ops ref (heap.script? ref).isSome
  | .frozenset _ => showSet ops ref true
  | .dict _ =>
    guarded ref "\x7b...\x7d" do
      return enclosed "\x7b" "\x7d" (commaJoined (← showEntries ops ref stepLimit 0))
  | .handle handle =>
    return .ofString ("<" ++ handle.typeName ++ " at ") ++ showPointer handle.pointer ++
      .ofString ">"
  | .view kind _ =>
    guarded ref "..." do return enclosed (kind.typeName ++ "(") ")" (← showListing ops ref)
  | .notImplemented => return .ofString "NotImplemented"
  | .type name => return .ofString s!"<class '{name}'>"
  | _ =>
    let address := String.ofList (hexadecimal (Pointer.host ref).number)
    return .ofString s!"<{heap.typeName ref} object at {address}>"

def answeredText (ops : Ops) (method : String) (answer : Ref) : HostM CodePoints := do
  let typeName ← typeNameOf answer
  let codes := (← bodyOf answer).codes?
  ops.release [answer]
  match codes with
  | some codes => return codes
  | none => fail (.answerNotText method typeName)

/-- An object shown for a method that is to answer a text. -/
def shownFor (ops : Ops) (method : String) (ref : Ref) : HostM CodePoints := do
  match ← scripted? ops ref "__repr__" [] with
  | some answer => answeredText ops method answer
  | none => builtinShown ops ref

def shown (ops : Ops) (ref : Ref) : HostM CodePoints :=
  nested " while getting the repr of an object" (shownFor ops "__repr__" ref)

/-- The text of an object in the way that comes with its kind: a text is its own, any other object is
shown. -/
def builtinTextOf (ops : Ops) (ref : Ref) : HostM CodePoints := do
  match ← bodyOf ref with
  | .text codes => return codes
  | _ => shownFor ops "__str__" ref

def textOf (ops : Ops) (ref : Ref) : HostM CodePoints := do
  match ← bodyOf ref, (← heap).script? ref with
  | .text codes, none => return codes
  | _, _ =>
    nested " while getting the str of an object" do
      match ← scripted? ops ref "__str__" [] with
      | some answer => answeredText ops "__str__" answer
      | none => builtinTextOf ops ref

/-- The text of a fault, with the exception in front. A key is shown; if that fails there is no text. -/
def describe (ops : Ops) (fault : Fault) : HostM String := do
  let text ← match fault.cause with
    | .missingKey key =>
      match ← attempt (holding [key] (ops.shown key)) with
      | .ok codes => pure codes.toText
      | .error _ => pure "<exception str() failed>"
    | .raised "KeyError" text => pure (CodePoints.toText (Text.Shown.text (CodePoints.ofString text)))
    | cause => pure cause.text
  return fault.exception ++ ": " ++ text

def report (ops : Ops) (fault : Fault) : HostM String := do
  return fault.traceback ++ (← describe ops fault)

end HeapBridge.Host
