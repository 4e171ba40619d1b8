/-!
References to host objects. The host keeps one object for each of its smallest values, so a
reference to such a value is the value itself; every other object is named by its address, and an
address is given out once. Two references are equal exactly when they name one object.
-/
namespace HeapBridge.Host

/-- A text by its code points. Unlike a `String` it may hold half of a surrogate pair. -/
abbrev CodePoints := List Nat

def CodePoints.ofString (text : String) : CodePoints := text.toList.map Char.toNat

/-- The values of which the host holds a single object each. -/
inductive Atom where
  | nil
  | bool (value : Bool)
  | int (value : Int)
  | text (codes : CodePoints)
  | bytes (content : List UInt8)
  | emptyTuple
  /-- What a comparison answers that has no opinion. -/
  | notImplemented
  deriving DecidableEq, Repr, Inhabited

inductive Ref where
  | atom (value : Atom)
  | object (address : Nat)
  deriving DecidableEq, Repr

instance : Inhabited Ref := ⟨.atom .nil⟩

namespace Ref

def nil : Ref := .atom .nil

def bool (value : Bool) : Ref := .atom (.bool value)

def notImplemented : Ref := .atom .notImplemented

def isNil (ref : Ref) : Bool := ref = .nil

def isObject : Ref → Bool
  | .atom _ => false
  | .object _ => true

end Ref

/-- The integers that the host keeps a single object for. -/
def isSmall (n : Int) : Bool := -5 ≤ n && n ≤ 256

/-- The texts that the host keeps a single object for: the empty one, and the one-character
texts of the first 256 code points. -/
def isShortText : CodePoints → Bool
  | [] => true
  | [code] => code < 256
  | _ => false

end HeapBridge.Host
