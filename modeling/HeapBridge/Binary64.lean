/-!
Double-precision numbers by their bits. Comparison with integers and with one another is exact,
and the decimal text is the shortest that reads back as the same number.
-/
namespace HeapBridge.Binary64

/-- What a bit pattern stands for; a finite number is `± mantissa · 2 ^ exponent`. -/
inductive Value where
  | nan
  | infinite (negative : Bool)
  | finite (negative : Bool) (mantissa : Nat) (exponent : Int)
  deriving DecidableEq, Repr

/-- Sign bit, eleven bits of exponent, fifty-two bits of fraction. -/
def decode (bits : UInt64) : Value :=
  let n := bits.toNat
  let negative : Bool := n / Nat.pow 2 63 = 1
  let exponent : Nat := n / Nat.pow 2 52 % 2048
  let fraction : Nat := n % Nat.pow 2 52
  if exponent = 2047 then if fraction = 0 then .infinite negative else .nan
  else if exponent = 0 then .finite negative fraction (-1074)
  else .finite negative (fraction + Nat.pow 2 52) ((exponent : Int) - 1075)

def isNan (bits : UInt64) : Bool := decode bits = .nan

def isZero (bits : UInt64) : Bool :=
  match decode bits with
  | .finite _ 0 _ => true
  | _ => false

def Value.ofInt (n : Int) : Value := .finite (n < 0) n.natAbs 0

namespace Value

def signed (negative : Bool) (magnitude : Nat) : Int :=
  if negative then -(magnitude : Int) else magnitude

/-- The order of two numbers, without rounding either; a NaN has none. The two zeros are one number. -/
def order? : Value → Value → Option Ordering
  | .nan, _ => none
  | _, .nan => none
  | .infinite a, .infinite b => some (compare b a)
  | .infinite negative, .finite _ _ _ => some (if negative then .lt else .gt)
  | .finite _ _ _, .infinite negative => some (if negative then .gt else .lt)
  | .finite a m e, .finite b n f =>
    let least := min e f
    let left := signed a m * Nat.pow 2 (e - least).toNat
    let right := signed b n * Nat.pow 2 (f - least).toNat
    some (compare left right)

end Value

def infinity (negative : Bool) : UInt64 := if negative then 0xFFF0000000000000 else 0x7FF0000000000000

def nan (negative : Bool) : UInt64 := if negative then 0xFFF8000000000000 else 0x7FF8000000000000

/-- A quotient rounded to the nearest integer, the even one of two. -/
def roundedQuotient (numerator denominator : Nat) : Nat :=
  let floor := numerator / denominator
  let twice := 2 * (numerator % denominator)
  if twice < denominator || (twice = denominator && floor % 2 = 0) then floor else floor + 1

/-- The number that is nearest to a fraction. Its mantissa takes up fifty-three bits if the exponent
lets it; one that rounds up to the next power of two carries into the exponent by itself. -/
def ofRatio (negative : Bool) (numerator denominator : Nat) : UInt64 :=
  let sign : Nat := if negative then Nat.pow 2 63 else 0
  let power : Int := (numerator.log2 : Int) - denominator.log2
  let isBelow := numerator * Nat.pow 2 (-power).toNat < denominator * Nat.pow 2 power.toNat
  let exponent := max (-1074) ((if isBelow then power - 1 else power) - 52)
  let mantissa := roundedQuotient (numerator * Nat.pow 2 (-exponent).toNat)
    (denominator * Nat.pow 2 exponent.toNat)
  let magnitude := (exponent + 1074).toNat * Nat.pow 2 52 + mantissa
  if numerator = 0 then sign.toUInt64
  else if 2047 * Nat.pow 2 52 ≤ magnitude then infinity negative
  else (sign + magnitude).toUInt64

def ofInt? (value : Int) : Option UInt64 :=
  let bits := ofRatio (value < 0) value.natAbs 1
  if bits = infinity (value < 0) then none else some bits

def Value.truncated? : Value → Option Int
  | .finite negative mantissa exponent =>
    some (signed negative (mantissa * Nat.pow 2 exponent.toNat / Nat.pow 2 (-exponent).toNat))
  | _ => none

/-- The prime modulo which numbers are hashed. -/
def hashPrime : Nat := Nat.pow 2 61 - 1

/-- A hash never takes the value that signals a failure. -/
def avoidFailure (h : Int) : Int := if h = -1 then -2 else h

/-- The hash of an integer: its residue, with its sign. -/
def hashInt (n : Int) : Int :=
  let residue : Int := (n.natAbs % hashPrime : Nat)
  avoidFailure (if n < 0 then -residue else residue)

/-- The hash of a number, equal for equal numbers; a NaN has none of its own. Two is invertible
modulo the prime, its sixty-first power being one. -/
def hash? (bits : UInt64) : Option Int :=
  match decode bits with
  | .nan => none
  | .infinite negative => some (if negative then -314159 else 314159)
  | .finite negative mantissa exponent =>
    let residue : Int := (mantissa * Nat.pow 2 (exponent % 61).toNat % hashPrime : Nat)
    some (avoidFailure (if negative then -residue else residue))

namespace Decimal

/-- A positive binary number `mantissa · 2 ^ exponent` with the interval of the reals that round
to it, as three fractions over one denominator. -/
structure Target where
  low : Nat
  value : Nat
  high : Nat
  den : Nat
  closed : Bool

/-- The neighbour below is half as far away where the exponent drops. -/
def target (mantissa : Nat) (exponent : Int) : Target :=
  let scale := Nat.pow 2 (exponent - 2).toNat
  let below := if mantissa = Nat.pow 2 52 && -1074 < exponent then 1 else 2
  { low := (4 * mantissa - below) * scale
    value := 4 * mantissa * scale
    high := (4 * mantissa + 2) * scale
    den := Nat.pow 2 (2 - exponent).toNat
    closed := mantissa % 2 = 0 }

def Target.holds (t : Target) (digits : Nat) (place : Int) : Bool :=
  let x := digits * Nat.pow 10 place.toNat * t.den
  let scale := Nat.pow 10 (-place).toNat
  if t.closed then t.low * scale ≤ x && x ≤ t.high * scale
  else t.low * scale < x && x < t.high * scale

/-- Where the decimal point stands: the least `k` with value below `10 ^ k`. -/
def Target.point (t : Target) : Int :=
  let isBelow (k : Int) : Bool := t.value * Nat.pow 10 (-k).toNat < Nat.pow 10 k.toNat * t.den
  match (List.range 660).find? fun (i : Nat) => isBelow ((i : Int) - 330) with
  | some i => (i : Int) - 330
  | none => 330

/-- The decimal number on the grid of that place that rounds to the target, the nearer one of
two, and the even one of two equally near. -/
def Target.onGrid? (t : Target) (place : Int) : Option Nat :=
  let unit := Nat.pow 10 place.toNat * t.den
  let scaled := t.value * Nat.pow 10 (-place).toNat
  let floor := scaled / unit
  match t.holds floor place, t.holds (floor + 1) place with
  | true, true =>
    let rest := 2 * (scaled % unit)
    if rest < unit || (rest = unit && floor % 2 = 0) then some floor else some (floor + 1)
  | true, false => some floor
  | false, true => some (floor + 1)
  | false, false => none

/-- The fewest digits that read back, and the place of the last of them. -/
def shortest (mantissa : Nat) (exponent : Int) : Nat × Int :=
  let t := target mantissa exponent
  let point := t.point
  let grids := (List.range 17).map fun (count : Nat) => point - 1 - (count : Int)
  match grids.findSome? fun place => (t.onGrid? place).map (·, place) with
  | some found => found
  | none => (t.value * Nat.pow 10 (17 - point).toNat / (Nat.pow 10 (point - 17).toNat * t.den), point - 17)

def dropZeros (digits : List Char) : List Char × Nat :=
  let zeros := (digits.reverse.takeWhile (· = '0')).length
  (digits.take (digits.length - zeros), zeros)

/-- The text of a positive number: positional while the point stands at most sixteen places
right or three places left of the first digit, and with an exponent of two digits or more
otherwise. -/
def text (mantissa : Nat) (exponent : Int) : List Char :=
  let (number, place) := shortest mantissa exponent
  let written := Nat.toDigits 10 number
  let point := place + (written.length : Int)
  let digits := (dropZeros written).1
  if -4 < point && point ≤ 16 then
    if point ≤ 0 then '0' :: '.' :: List.replicate (-point).toNat '0' ++ digits
    else
      let whole := digits.take point.toNat
      let padding := List.replicate (point.toNat - whole.length) '0'
      match digits.drop point.toNat with
      | [] => whole ++ padding ++ ['.', '0']
      | fraction => whole ++ '.' :: fraction
  else
    let power := point - 1
    let powerDigits := Nat.toDigits 10 power.natAbs
    let sign := if power < 0 then '-' else '+'
    let padded := if powerDigits.length < 2 then '0' :: powerDigits else powerDigits
    let fraction := match digits.drop 1 with
      | [] => []
      | rest => '.' :: rest
    digits.take 1 ++ fraction ++ 'e' :: sign :: padded

end Decimal

def text (bits : UInt64) : List Char :=
  match decode bits with
  | .nan => ['n', 'a', 'n']
  | .infinite negative => (if negative then ['-'] else []) ++ ['i', 'n', 'f']
  | .finite negative mantissa exponent =>
    (if negative then ['-'] else []) ++
      if mantissa = 0 then ['0', '.', '0'] else Decimal.text mantissa exponent

end HeapBridge.Binary64
