import HeapBridge.Text.Printable
/-!
Quoted texts: a text between double quotes in which every character that could be mistaken for
something else is escaped, so that the text can be read back from its quoted form.
-/
namespace HeapBridge.Text.Quoted

/-- The hexadecimal digits of a number, without leading zeros. -/
def hex (n : Nat) : List Char := Nat.toDigits 16 n

def numbered (c : Char) : List Char :=
  '\\' :: 'u' :: '\x7b' :: hex c.toNat ++ ['\x7d']

def escape (c : Char) : List Char :=
  if c = '\x00' then ['\\', '0']
  else if c = '\t' then ['\\', 't']
  else if c = '\n' then ['\\', 'n']
  else if c = '\r' then ['\\', 'r']
  else if c = '"' || c = '\\' then ['\\', c]
  else if isCombining c.toNat || !isPrintable c.toNat then numbered c
  else [c]

def encode (s : List Char) : List Char :=
  '"' :: s.flatMap escape ++ ['"']

def quote (s : String) : String := String.ofList (encode s.toList)

end HeapBridge.Text.Quoted
