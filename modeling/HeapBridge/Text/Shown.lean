import HeapBridge.Text.Visible
/-!
How the host shows a text or a byte string: in single quotes, or in double quotes if the content
has single quotes and no double ones, with everything that is not printable written by number.
-/
namespace HeapBridge.Text.Shown

/-- The hexadecimal digits of a number, with zeros in front up to the width. -/
def hexPadded (width n : Nat) : List Char :=
  let digits := Nat.toDigits 16 n
  List.replicate (width - digits.length) '0' ++ digits

/-- The quotation mark for a content with these code points. -/
def mark (codes : List Nat) : Char :=
  if codes.contains 39 && !codes.contains 34 then '"' else '\''

/-- The short escapes, if a code point has one between marks of that kind. -/
def shortEscape? (quote : Char) (code : Nat) : Option (List Char) :=
  if code = quote.toNat || code = 92 then some ['\\', Char.ofNat code]
  else if code = 9 then some ['\\', 't']
  else if code = 10 then some ['\\', 'n']
  else if code = 13 then some ['\\', 'r']
  else none

def numbered (code : Nat) : List Char :=
  if code < 0x100 then '\\' :: 'x' :: hexPadded 2 code
  else if code < 0x10000 then '\\' :: 'u' :: hexPadded 4 code
  else '\\' :: 'U' :: hexPadded 8 code

/-- Whether a code stands for a character, and not for something that is yet to be named. -/
def isCharacter (code : Nat) : Bool := code < 0x110000

def escapeCode (quote : Char) (code : Nat) : List Nat :=
  match shortEscape? quote code with
  | some escape => escape.map Char.toNat
  | none =>
    if isVisible code || !isCharacter code then [code] else (numbered code).map Char.toNat

def escapeByte (quote : Char) (byte : Nat) : List Char :=
  (shortEscape? quote byte).getD
    (if 0x20 ≤ byte && byte < 0x7F then [Char.ofNat byte] else numbered byte)

/-- A text in quotation marks. -/
def text (codes : List Nat) : List Nat :=
  let quote := mark codes
  quote.toNat :: codes.flatMap (escapeCode quote) ++ [quote.toNat]

/-- A byte string in quotation marks, after the letter that tells it from a text. -/
def bytes (content : List UInt8) : List Char :=
  let codes := content.map UInt8.toNat
  'b' :: mark codes :: codes.flatMap (escapeByte (mark codes)) ++ [mark codes]

end HeapBridge.Text.Shown
