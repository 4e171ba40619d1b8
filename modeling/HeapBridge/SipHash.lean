/-!
A keyed hash of byte strings with the key zero. The bytes are read as words of eight, least
significant byte first; the last word is filled up with the length. One round mixes in each word, and
three finish.
-/
namespace HeapBridge.SipHash

structure State where
  a : UInt64
  b : UInt64
  c : UInt64
  d : UInt64
  deriving DecidableEq, Repr

def initial : State :=
  ⟨0x736f6d6570736575, 0x646f72616e646f6d, 0x6c7967656e657261, 0x7465646279746573⟩

def rotate (word : UInt64) (count : UInt64) : UInt64 :=
  (word <<< count) ||| (word >>> (64 - count))

namespace State

def round (state : State) : State :=
  let a := state.a + state.b
  let b := rotate state.b 13 ^^^ a
  let a := rotate a 32
  let c := state.c + state.d
  let d := rotate state.d 16 ^^^ c
  let a := a + d
  let d := rotate d 21 ^^^ a
  let c := c + b
  let b := rotate b 17 ^^^ c
  let c := rotate c 32
  ⟨a, b, c, d⟩

def absorb (state : State) (word : UInt64) : State :=
  let mixed := { state with d := state.d ^^^ word }.round
  { mixed with a := mixed.a ^^^ word }

def finish (state : State) : UInt64 :=
  let last := ({ state with c := state.c ^^^ 0xff } : State).round.round.round
  (last.a ^^^ last.b) ^^^ (last.c ^^^ last.d)

end State

/-- The word of at most eight bytes. -/
def word : List UInt8 → UInt64
  | [] => 0
  | byte :: rest => byte.toUInt64 ||| (word rest <<< 8)

/-- Mixes in all whole words, `count` of them, and then the rest with the length. -/
def absorbAll (length : Nat) : Nat → List UInt8 → State → State
  | 0, rest, state => state.absorb (word rest ||| (length.toUInt64 <<< 56))
  | count + 1, bytes, state =>
    absorbAll length count (bytes.drop 8) (state.absorb (word (bytes.take 8)))

def hash (bytes : List UInt8) : UInt64 :=
  (absorbAll bytes.length (bytes.length / 8) bytes initial).finish

end HeapBridge.SipHash
