/-!
UTF-8 read strictly, with the place and the size of the first fault. Reading stops at the first
byte that cannot continue the sequence begun before it; an input that ends inside a sequence that
could still be completed has a fault of its own kind.
-/
namespace HeapBridge.Text.Utf8

/-- Where the bytes stop being UTF-8: the length of the valid part before it, and the number of
bytes of the broken sequence, or none if the input ends inside a sequence. -/
structure Fault where
  index : Nat
  broken : Option Nat
  deriving DecidableEq, Repr

def Fault.message (fault : Fault) : String :=
  match fault.broken with
  | some k => s!"invalid utf-8 sequence of {k} bytes from index {fault.index}"
  | none => s!"incomplete utf-8 byte sequence from index {fault.index}"

/-- What a leading byte above ASCII announces: the number of bytes after it, and the bounds of
the first of them. Overlong forms, surrogates and values beyond the last code point are excluded
by these bounds. -/
def lead (byte : Nat) : Option (Nat × Nat × Nat) :=
  if 0xC2 ≤ byte ∧ byte ≤ 0xDF then some (1, 0x80, 0xBF)
  else if byte = 0xE0 then some (2, 0xA0, 0xBF)
  else if byte = 0xED then some (2, 0x80, 0x9F)
  else if 0xE1 ≤ byte ∧ byte ≤ 0xEF then some (2, 0x80, 0xBF)
  else if byte = 0xF0 then some (3, 0x90, 0xBF)
  else if 0xF1 ≤ byte ∧ byte ≤ 0xF3 then some (3, 0x80, 0xBF)
  else if byte = 0xF4 then some (3, 0x80, 0x8F)
  else none

def isTail (byte : Nat) : Bool := 0x80 ≤ byte && byte ≤ 0xBF

/-- The code point of a sequence from its leading byte and the bytes after it. -/
def codePoint (first : Nat) (tails : List Nat) : Nat :=
  let high := match tails.length with
    | 1 => first - 0xC0
    | 2 => first - 0xE0
    | _ => first - 0xF0
  tails.foldl (fun value byte => value * 64 + (byte - 0x80)) high

/-- Reads bytes that start `index` bytes into the input. -/
def decodeFrom (index : Nat) : List Nat → Except Fault (List Char)
  | [] => .ok []
  | a :: rest =>
    if a < 0x80 then (Char.ofNat a :: ·) <$> decodeFrom (index + 1) rest
    else
      match lead a with
      | none => .error ⟨index, some 1⟩
      | some (size, low, high) =>
        match rest with
        | [] => .error ⟨index, none⟩
        | b :: rest =>
          if b < low || high < b then .error ⟨index, some 1⟩
          else if size = 1 then
            (Char.ofNat (codePoint a [b]) :: ·) <$> decodeFrom (index + 2) rest
          else
            match rest with
            | [] => .error ⟨index, none⟩
            | c :: rest =>
              if !isTail c then .error ⟨index, some 2⟩
              else if size = 2 then
                (Char.ofNat (codePoint a [b, c]) :: ·) <$> decodeFrom (index + 3) rest
              else
                match rest with
                | [] => .error ⟨index, none⟩
                | d :: rest =>
                  if !isTail d then .error ⟨index, some 3⟩
                  else (Char.ofNat (codePoint a [b, c, d]) :: ·) <$> decodeFrom (index + 4) rest

def decode (bytes : List UInt8) : Except Fault String :=
  String.ofList <$> decodeFrom 0 (bytes.map UInt8.toNat)

def encodeCode (code : Nat) : List Nat :=
  if code < 0x80 then [code]
  else if code < 0x800 then [0xC0 + code / 64, 0x80 + code % 64]
  else if code < 0x10000 then
    [0xE0 + code / 4096, 0x80 + code / 64 % 64, 0x80 + code % 64]
  else
    [0xF0 + code / 262144, 0x80 + code / 4096 % 64, 0x80 + code / 64 % 64, 0x80 + code % 64]

def encode (s : List Char) : List Nat := s.flatMap fun c => encodeCode c.toNat

end HeapBridge.Text.Utf8
