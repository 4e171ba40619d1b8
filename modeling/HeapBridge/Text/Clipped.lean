/-!
Clipped texts. A name that is written into a message takes up a limited number of bytes; a character
that only fits in part is replaced.
-/
namespace HeapBridge.Text

/-- What stands for a character that cannot be written. -/
def replacement : Char := '\uFFFD'

/-- As many characters as fit into that many bytes. -/
def clipChars : Nat → List Char → List Char
  | _, [] => []
  | room, c :: rest =>
    if c.utf8Size ≤ room then c :: clipChars (room - c.utf8Size) rest
    else if room = 0 then []
    else [replacement]

/-- A text of at most that many bytes, but for a replacement at its end. -/
def clip (limit : Nat) (text : String) : String := String.ofList (clipChars limit text.toList)

end HeapBridge.Text
