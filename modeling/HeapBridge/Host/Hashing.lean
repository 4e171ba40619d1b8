import HeapBridge.Host.Evaluation
import HeapBridge.SipHash
/-!
Hashes of host objects. Equal numbers have one hash whatever their type; texts and byte strings are
hashed by the bytes they are stored in, tuples and frozen sets by the hashes of what they hold. An
object without a hash of its own is told apart by its address. No hash is minus one.
-/
namespace HeapBridge.Host

def wordHash (word : UInt64) : Int :=
  let value : Int := word.toNat
  Binary64.avoidFailure (if value < Nat.pow 2 63 then value else value - Nat.pow 2 64)

def hashWord (hash : Int) : UInt64 := (hash % Nat.pow 2 64).toNat.toUInt64

/-- Objects are aligned, so the low bits of an address tell nothing. -/
def identityHash (ref : Ref) : Int :=
  let word := (Pointer.host ref).number.toUInt64
  wordHash ((word >>> 4) ||| (word <<< 60))

def byteHash (bytes : List UInt8) : Int :=
  if bytes.isEmpty then 0 else wordHash (SipHash.hash bytes)

def lowBytes : Nat → Nat → List UInt8
  | 0, _ => []
  | count + 1, n => n.toUInt8 :: lowBytes count (n / 256)

/-- The bytes in which a text is stored: the fewest per character that hold all of them. -/
def storedBytes (codes : CodePoints) : List UInt8 :=
  if codes.all (· < 0x100) then codes.map Nat.toUInt8
  else if codes.all (· < 0x10000) then codes.flatMap (lowBytes 2)
  else codes.flatMap (lowBytes 4)

def tupleSeed : UInt64 := 2870177450012600261

/-- Mixes the hash of one more item into that of a tuple. -/
def mixItem (mixed : UInt64) (hash : Int) : UInt64 :=
  let sum := mixed + hashWord hash * 14029467366897019727
  ((sum <<< 31) ||| (sum >>> 33)) * 11400714785074694791

def tupleHash (hashes : List Int) : Int :=
  let mixed := hashes.foldl mixItem tupleSeed
  let result := mixed + (hashes.length.toUInt64 ^^^ (tupleSeed ^^^ 3527539))
  if result = 0xFFFFFFFFFFFFFFFF then 1546275796 else wordHash result

def spread (hash : UInt64) : UInt64 :=
  let mixed : UInt64 := hash ^^^ 89869747
  (mixed ^^^ (hash <<< 16)) * 3644798167

/-- The hash of a frozen set does not depend on the order of its elements. -/
def setHash (hashes : List Int) : Int :=
  let mixed := hashes.foldl (fun mixed hash => mixed ^^^ spread (hashWord hash)) 0
  let counted := mixed ^^^ ((hashes.length.toUInt64 + 1) * 1927868237)
  let folded := counted ^^^ ((counted >>> 11) ^^^ (counted >>> 25))
  let result := folded * 69069 + 907133923
  if result = 0xFFFFFFFFFFFFFFFF then 590923713 else wordHash result

def handleHash (handle : Handle) : Int :=
  wordHash (SipHash.hash
    (handle.typeId.toUTF8.toList ++ 0xFF :: lowBytes 8 handle.pointer.number))

def hashAll (hash : Ref → HostM Int) : List Ref → HostM (List Int)
  | [] => return []
  | ref :: rest => return (← hash ref) :: (← hashAll hash rest)

/-- The hash that comes with the kind of an object. -/
def builtinHash (ops : Ops) (ref : Ref) : HostM Int := do
  match ← bodyOf ref with
  | .bool value => return if value then 1 else 0
  | .int value => return Binary64.hashInt value
  | .float bits => return (Binary64.hash? bits).getD (identityHash ref)
  | .text codes => return byteHash (storedBytes codes)
  | .bytes content => return byteHash content
  | .tuple items => return tupleHash (← hashAll ops.hash items)
  | .frozenset elements => return setHash (elements.entries.map (·.1))
  | .handle handle => return handleHash handle
  | .method _ receiver name =>
    return wordHash (hashWord (identityHash receiver) ^^^ SipHash.hash name.toUTF8.toList)
  | body =>
    if body.kind.isUnhashable then fail (.unhashable (← typeNameOf ref))
    else return identityHash ref

/-- What a script's answer to hashing stands for: an integer of the range of lengths is taken as
it is, a larger one is hashed. -/
def answeredHash (value : Int) : Int :=
  if -maxLength - 1 ≤ value && value ≤ maxLength then Binary64.avoidFailure value
  else Binary64.hashInt value

def hash (ops : Ops) (ref : Ref) : HostM Int := do
  match ← scripted? ops ref "__hash__" [] with
  | some result =>
    let value := (← bodyOf result).int?
    ops.release [result]
    match value with
    | some value => return answeredHash value
    | none => fail .hashNotInteger
  | none =>
    if ((← heap).script? ref).any Script.isUnhashable then fail (.unhashable (← typeNameOf ref))
    else builtinHash ops ref

end HeapBridge.Host
