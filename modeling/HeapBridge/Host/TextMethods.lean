import HeapBridge.Host.SequenceMethods
/-!
Search in texts and byte strings. What is looked for is a part, or a single byte given as an integer; the
range that is searched may be bounded on both sides.
-/
namespace HeapBridge.Host

/-- Where a part begins for the first time in a sequence of which the start was passed over. -/
def placeOfPart? (part : List Nat) : Nat → List Nat → Option Nat
  | place, [] => if part.isEmpty then some place else none
  | place, code :: rest =>
    if part.isPrefixOf (code :: rest) then some place else placeOfPart? part (place + 1) rest

/-- How often a part that is not empty occurs in a sequence, without overlapping itself. Some codes are
to be passed over first. -/
def occurrencesFrom (part : List Nat) : Nat → List Nat → Nat
  | _, [] => 0
  | skip + 1, _ :: rest => occurrencesFrom part skip rest
  | 0, code :: rest =>
    if part.isPrefixOf (code :: rest) then occurrencesFrom part (part.length - 1) rest + 1
    else occurrencesFrom part 0 rest

def occurrences (part codes : List Nat) : Nat :=
  if part.isEmpty then codes.length + 1 else occurrencesFrom part 0 codes

/-- A bound of the range that is searched, unless it is left open. -/
def openBound (ops : Ops) (argument : Option Ref) (fallback : Int) : HostM Int := do
  match argument with
  | none => return fallback
  | some argument =>
    if argument.isNil then return fallback
    else if (← heap).isIndex argument then clampedIndex ops argument
    else
      refuse "TypeError" "slice indices must be integers or None or have an __index__ method"

/-- The codes of what a text is searched for. -/
def textPart (needle : Ref) : HostM (List Nat) := do
  match ← bodyOf needle with
  | .text codes => return codes
  | _ => refuse "TypeError" s!"must be str, not {Cause.clipped (← typeNameOf needle)}"

/-- The codes of what a byte string is searched for. -/
def bytesPart (ops : Ops) (needle : Ref) : HostM (List Nat) := do
  match ← bodyOf needle with
  | .bytes part => return part.map UInt8.toNat
  | _ =>
    if (← heap).isIndex needle then
      let value ← clampedIndex ops needle
      if 0 ≤ value && value < 256 then return [value.toNat] else fail .byteOutOfRange
    else
      let given := Cause.long (← typeNameOf needle)
      refuse "TypeError" s!"argument should be integer or bytes-like object, not '{given}'"

/-- Makes sure that a search has one argument, and bounds at most. -/
def searchArguments (name : String) (arguments : List Ref) : HostM Unit :=
  let given := arguments.length
  if given = 0 then Arguments.refuse s!"{name}() takes at least 1 argument (0 given)"
  else if 3 < given then Arguments.refuse s!"{name}() takes at most 3 arguments ({given} given)"
  else return ()

/-- What is searched for, and the range of the object to search, which begins at some index. None if
the range is turned round. -/
def searched (ops : Ops) (ref : Ref) (name : String) (arguments : List Ref) :
    HostM (List Nat × Option (Nat × List Nat)) := do
  searchArguments name arguments
  let start ← openBound ops arguments[1]? 0
  let stop ← openBound ops arguments[2]? maxLength
  let needle := arguments.headD .nil
  let (codes, part) ← match ← bodyOf ref with
    | .bytes content => pure (content.map UInt8.toNat, ← bytesPart ops needle)
    | body => pure (body.codes?.getD [], ← textPart needle)
  let first := (counted codes.length start).toNat
  let last := min codes.length (counted codes.length stop).toNat
  return (part, if last < first then none else some (first, (codes.take last).drop first))

def callSearch? (ops : Ops) (ref : Ref) (name : String) (arguments : List Ref) :
    HostM (Option Ref) := do
  if !(["count", "find", "index"].contains name) then return none
  else
    let (part, range) ← searched ops ref name arguments
    if name = "count" then
      some <$> make (.int (range.elim 0 fun range => occurrences part range.2 : Nat))
    else
      match range.bind fun range => placeOfPart? part range.1 range.2 with
      | some place => some <$> make (.int place)
      | none =>
        if name = "find" then some <$> make (.int (-1))
        else
          let noun := if (← kindOf ref) = .bytes then "subsection" else "substring"
          refuse "ValueError" s!"{noun} not found"

end HeapBridge.Host
