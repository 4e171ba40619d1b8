import HeapBridge.Binary64
import HeapBridge.Text.Numeric
/-!
Numerals: how integers and numbers are read from texts. Digits and blanks of all scripts count, blanks
around the numeral are ignored, and single underscores may stand between digits.
-/
namespace HeapBridge.Text.Numeral

/-- The code of the plain digit, blank or other character that a character of a text stands for. -/
def plainCode (code : Nat) : Nat :=
  if code < 127 then code
  else if isBlank code then 32
  else ((digitValue? code).map (· + 48)).getD 63

/-- A text with plain digits and blanks. -/
def plain (codes : List Nat) : List Nat := codes.map plainCode

def isDigit (code : Nat) : Bool := 48 ≤ code && code ≤ 57

def underscore : Nat := 95

/-- The number that digits stand for. -/
def natural (digits : List Nat) : Nat := digits.foldl (fun value code => value * 10 + (code - 48)) 0

/-- Takes the sign off a numeral, and says whether it was a minus. -/
def unsigned : List Nat → Bool × List Nat
  | 45 :: rest => (true, rest)
  | 43 :: rest => (false, rest)
  | codes => (false, codes)

/-- Whether underscores stand singly between digits only, given the code before. -/
def isSpaced : Nat → List Nat → Bool
  | last, [] => last ≠ underscore
  | last, code :: rest =>
    if code = underscore then isDigit last && isSpaced code rest
    else (last ≠ underscore || isDigit code) && isSpaced code rest

inductive IntegerReading where
  | number (value : Int)
  /-- More digits than are read. -/
  | tooLong (digits : Nat)
  | malformed
  deriving DecidableEq, Repr

/-- The most digits of an integer that is read or written. -/
def digitLimit : Nat := 4300

def readInteger (codes : List Nat) : IntegerReading :=
  let (negative, body) := unsigned (codes.dropWhile isPlainBlank)
  let isPart (code : Nat) : Bool := isDigit code || code = underscore
  let written := body.takeWhile isPart
  let digits := written.filter isDigit
  if written.isEmpty || !isSpaced 0 written then .malformed
  else if digitLimit < digits.length then .tooLong digits.length
  else if (body.dropWhile isPart).all isPlainBlank then
    .number (Binary64.Value.signed negative (natural digits))
  else .malformed

/-- Small letters for capital ones. -/
def lowered (codes : List Nat) : List Nat :=
  codes.map fun code => if 65 ≤ code && code ≤ 90 then code + 32 else code

def codesOf (word : String) : List Nat := word.toList.map Char.toNat

/-- An exponent at the end of a numeral; none if what is there is no exponent. -/
def readExponent : List Nat → Option Int
  | [] => some 0
  | code :: rest =>
    if code = 101 || code = 69 then
      let (negative, digits) := unsigned rest
      if digits.isEmpty || !digits.all isDigit then none
      else some (Binary64.Value.signed negative (natural digits))
    else none

/-- Beyond this power of ten a number is infinite, and below its inverse it is zero. -/
def powerLimit : Int := 400

def scaled (negative : Bool) (digits : List Nat) (power : Int) : UInt64 :=
  let significant := digits.dropWhile (· = 48)
  let point := (significant.length : Int) + power
  if significant.isEmpty || point < -powerLimit then Binary64.ofRatio negative 0 1
  else if powerLimit < point then Binary64.infinity negative
  else
    Binary64.ofRatio negative (natural significant * Nat.pow 10 power.toNat) (Nat.pow 10 (-power).toNat)

/-- Reads a decimal number without its sign. -/
def readDecimal? (negative : Bool) (codes : List Nat) : Option UInt64 :=
  let whole := codes.takeWhile isDigit
  let rest := codes.dropWhile isDigit
  let afterPoint := if rest.head? = some 46 then rest.drop 1 else []
  let fraction := afterPoint.takeWhile isDigit
  let tail := if rest.head? = some 46 then afterPoint.dropWhile isDigit else rest
  if whole.isEmpty && fraction.isEmpty then none
  else
    (readExponent tail).map fun exponent =>
      scaled negative (whole ++ fraction) (exponent - fraction.length)

/-- Reads a number that is not a NaN or infinity by name. -/
def readNamed? (negative : Bool) (codes : List Nat) : Option UInt64 :=
  let name := lowered codes
  if name = codesOf "nan" then some (Binary64.nan negative)
  else if name = codesOf "inf" || name = codesOf "infinity" then some (Binary64.infinity negative)
  else readDecimal? negative codes

/-- Codes without the plain blanks around them. -/
def trimmed (codes : List Nat) : List Nat :=
  ((codes.dropWhile isPlainBlank).reverse.dropWhile isPlainBlank).reverse

def readNumber? (codes : List Nat) : Option UInt64 :=
  let body := trimmed codes
  if !isSpaced 0 body then none
  else
    let (negative, rest) := unsigned (body.filter (· ≠ underscore))
    readNamed? negative rest

end HeapBridge.Text.Numeral
