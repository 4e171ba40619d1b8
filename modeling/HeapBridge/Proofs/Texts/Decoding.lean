import HeapBridge.Error
import HeapBridge.Proofs.Texts.Sequences
import Mathlib.Data.List.Basic
import Mathlib.Order.Bounds.Basic
/-!
Texts from outside. A text argument is read just when its bytes are those of a text; all other bytes have one
fault, of which the error tells where it is and what is wrong there, in terms of the bytes of characters alone.
-/
namespace HeapBridge.Text.Utf8

variable {text : String} {bytes rest : List UInt8} {fault other : Fault} {broken : Option Nat}

def bytesOf (text : String) : List UInt8 := text.toList.flatMap String.utf8EncodeChar

/-- Whether bytes are those at the beginning of a character, but not all of them. -/
def Begins (bytes : List UInt8) : Prop :=
  ∃ c, bytes <+: String.utf8EncodeChar c ∧ bytes ≠ String.utf8EncodeChar c

/-- What is true of the fault in bytes that are no text. It is behind the longest part in front that is one; there
the bytes end with the beginning of a character, or else as many are broken as begin a character, but at least
one. -/
structure Fault.Describes (fault : Fault) (bytes : List UInt8) : Prop where
  within : fault.index < bytes.length
  longest : IsGreatest {n | n ≤ bytes.length ∧ ∃ text, bytesOf text = bytes.take n} fault.index
  incomplete_iff : fault.broken = none ↔ Begins (bytes.drop fault.index)
  broken_eq : ∀ k, fault.broken = some k → 1 ≤ k ∧ k ≤ 3 ∧ ∃ m, k = max 1 m ∧
    IsGreatest {n | n ≤ (bytes.drop fault.index).length ∧ Begins ((bytes.drop fault.index).take n)} m

/-- No two faults describe the same bytes. -/
theorem Fault.Describes.unique (hFault : fault.Describes bytes) (hOther : other.Describes bytes) :
    fault = other := by
  obtain ⟨index, broken⟩ := fault
  obtain ⟨otherIndex, otherBroken⟩ := other
  obtain rfl : index = otherIndex := hFault.longest.unique hOther.longest
  cases broken with
  | none =>
    obtain rfl : otherBroken = none := hOther.incomplete_iff.mpr (hFault.incomplete_iff.mp rfl)
    rfl
  | some k =>
    cases otherBroken with
    | none => exact absurd (hFault.incomplete_iff.mpr (hOther.incomplete_iff.mp rfl)) nofun
    | some l =>
      obtain ⟨-, -, m, rfl, hLongest⟩ := hFault.broken_eq k rfl
      obtain ⟨-, -, n, rfl, hLongestOther⟩ := hOther.broken_eq l rfl
      rw [hLongest.unique hLongestOther]

/-- Bytes that have a fault are those of no text. -/
theorem Fault.Describes.not_text (hFault : fault.Describes bytes) (text : String) : bytesOf text ≠ bytes := by
  rintro rfl
  exact hFault.within.not_ge (hFault.longest.2 ⟨le_rfl, text, by rw [List.take_length]⟩)

/-! Bytes and their numbers. -/

theorem toNat_injective : Function.Injective (List.map UInt8.toNat) :=
  List.map_injective_iff.mpr fun _ _ => UInt8.toNat_inj.mp

/-- The bytes of a character are those that the table gives. -/
theorem map_utf8EncodeChar (c : Char) : (String.utf8EncodeChar c).map UInt8.toNat = encodeCode c.toNat := by
  have hValid : c.val.toNat.isValidChar := c.valid
  change (String.utf8EncodeChar c).map UInt8.toNat = encodeCode c.val.toNat
  unfold String.utf8EncodeChar encodeCode
  unfold Nat.isValidChar at hValid
  dsimp only
  generalize c.val.toNat = code at hValid
  split_ifs <;> first | omega | (simp; omega)

theorem map_bytesOf (text : String) : (bytesOf text).map UInt8.toNat = encode text.toList := by
  rw [bytesOf, List.map_flatMap, encode]
  exact congrArg (List.flatMap · text.toList) (funext map_utf8EncodeChar)

theorem bytesOf_ofList_eq_iff {letters : List Char} :
    bytesOf (String.ofList letters) = bytes ↔ encode letters = bytes.map UInt8.toNat := by
  rw [← toNat_injective.eq_iff, map_bytesOf, String.toList_ofList]

theorem begins_iff : Begins bytes ↔ Begun (bytes.map UInt8.toNat) := by
  rw [begun_iff]
  refine exists_congr fun c => ?_
  rw [← map_utf8EncodeChar, List.prefix_map_iff_of_injective fun _ _ => UInt8.toNat_inj.mp, toNat_injective.ne_iff]

/-! Where the reader stops. -/

/-- It wants for bytes just when what is left is the beginning of a character. -/
theorem Stuck.incomplete_iff (hStuck : Stuck (rest.map UInt8.toNat) broken) : broken = none ↔ Begins rest := by
  rw [begins_iff]
  constructor
  · rintro rfl
    exact hStuck.begun
  · intro hBegun
    cases broken with
    | none => rfl
    | some k =>
      obtain ⟨m, -, -, -, -, hEnds⟩ := hStuck.exists_begun
      exact absurd (hBegun.of_prefix (List.take_prefix _ _)) hEnds

/-- Otherwise it counts the longest beginning of a character as broken, but at least one byte. -/
theorem Stuck.exists_longest {k : Nat} (hStuck : Stuck (rest.map UInt8.toNat) (some k)) :
    1 ≤ k ∧ k ≤ 3 ∧ ∃ m, k = max 1 m ∧ IsGreatest {n | n ≤ rest.length ∧ Begins (rest.take n)} m := by
  obtain ⟨m, hBroken, hLess, hShort, hBegun, hEnds⟩ := hStuck.exists_begun
  rw [List.length_map] at hLess
  refine ⟨by omega, by omega, m, hBroken, ⟨hLess.le, ?_⟩, ?_⟩
  · rwa [begins_iff, List.map_take]
  · rintro n ⟨-, hBegins⟩
    rw [begins_iff, List.map_take] at hBegins
    refine Nat.not_lt.mp fun hLonger => hEnds (hBegins.of_prefix ?_)
    exact List.take_prefix_take_left hLonger

/-- The reader does not come as far as the end of a longer text in front: it would have read that. -/
theorem length_le_of_stuck {n : Nat} (hStops : decodeFrom 0 (bytes.map UInt8.toNat) = .error fault)
    (hLength : n ≤ bytes.length) (hText : bytesOf text = bytes.take n) : n ≤ fault.index := by
  have hFront : bytes.map UInt8.toNat = encode text.toList ++ (bytes.drop n).map UInt8.toNat := by
    rw [← map_bytesOf, hText, ← List.map_append, List.take_append_drop]
  have hSize : (encode text.toList).length = n := by
    rw [← map_bytesOf, hText, List.length_map, List.length_take, min_eq_left hLength]
  rw [hFront, decodeFrom_encode, hSize, Nat.zero_add] at hStops
  cases hBehind : decodeFrom n ((bytes.drop n).map UInt8.toNat) with
  | ok letters =>
    rw [hBehind] at hStops
    cases hStops
  | error behind =>
    rw [hBehind] at hStops
    obtain rfl := Except.error.inj hStops
    exact le_of_decodeFrom_error hBehind

/-- Bytes that are no text have a fault, and the reader stops there. -/
theorem exists_fault (hNone : ∀ text, bytesOf text ≠ bytes) :
    ∃ fault, decode bytes = .error fault ∧ fault.Describes bytes := by
  rcases exists_text_or_stuck (bytes.map UInt8.toNat) with ⟨letters, hBytes⟩ |
    ⟨letters, rest, broken, hBytes, hStuck⟩
  · exact absurd (bytesOf_ofList_eq_iff.mpr hBytes.symm) (hNone _)
  let index := (encode letters).length
  have hTake : encode letters = (bytes.take index).map UInt8.toNat := by
    rw [List.map_take, hBytes, List.take_left]
  have hDrop : rest = (bytes.drop index).map UInt8.toNat := by
    rw [List.map_drop, hBytes, List.drop_left]
  have hStops : decodeFrom 0 (bytes.map UInt8.toNat) = .error ⟨index, broken⟩ := by
    rw [hBytes, decodeFrom_encode, decodeFrom_stuck hStuck, Nat.zero_add]
    rfl
  have hSome : bytes.drop index ≠ [] := by
    intro hEmpty
    rw [hDrop, hEmpty] at hStuck
    cases hStuck
  have hWithin : index < bytes.length := Nat.not_le.mp fun hAll => hSome (List.drop_eq_nil_of_le hAll)
  rw [hDrop] at hStuck
  refine ⟨⟨index, broken⟩, by rw [decode, hStops]; rfl, hWithin, ⟨⟨hWithin.le, ?_⟩, ?_⟩, hStuck.incomplete_iff, ?_⟩
  · exact ⟨_, bytesOf_ofList_eq_iff.mpr hTake⟩
  · rintro n ⟨hLength, text, hText⟩
    exact length_le_of_stuck hStops hLength hText
  · rintro k rfl
    exact hStuck.exists_longest

theorem decode_bytesOf (text : String) : decode (bytesOf text) = .ok text := by
  have hRead := decodeFrom_encode text.toList 0 []
  rw [List.append_nil] at hRead
  rw [decode, map_bytesOf, hRead]
  change Except.ok (String.ofList (text.toList ++ [])) = .ok text
  rw [List.append_nil, String.ofList_toList]

/-- Bytes are decoded to the one text that they encode. -/
theorem decode_eq_ok_iff : decode bytes = .ok text ↔ bytesOf text = bytes := by
  constructor
  · intro hRead
    have hSome : ∃ other, bytesOf other = bytes := by
      by_contra hNone
      obtain ⟨fault, hError, -⟩ := exists_fault (not_exists.mp hNone)
      rw [hError] at hRead
      cases hRead
    obtain ⟨other, rfl⟩ := hSome
    rw [decode_bytesOf] at hRead
    rw [Except.ok.inj hRead]
  · rintro rfl
    exact decode_bytesOf text

/-- Bytes are refused with the first place at which they encode nothing. -/
theorem decode_eq_error_iff : decode bytes = .error fault ↔ fault.Describes bytes := by
  constructor
  · intro hRead
    have hNone : ∀ text, bytesOf text ≠ bytes := by
      intro text hText
      rw [decode_eq_ok_iff.mpr hText] at hRead
      cases hRead
    obtain ⟨other, hOther, hDescribes⟩ := exists_fault hNone
    rw [hOther] at hRead
    rwa [← Except.error.inj hRead]
  · intro hDescribes
    obtain ⟨other, hOther, hDescribesOther⟩ := exists_fault hDescribes.not_text
    rw [hOther, hDescribes.unique hDescribesOther]

end HeapBridge.Text.Utf8

namespace HeapBridge

open Text.Utf8

/-- Of a text argument counts what is in front of its first zero byte. It is read as a text just when these are
the bytes of that text, and otherwise it is rejected for the fault that describes them, whose message says where
the fault is and either that the bytes end there too early or how many of them are broken. -/
theorem readText_exact (bytes : List UInt8) :
    let visible := bytes.takeWhile (· ≠ 0)
    (∀ text, readText (some bytes) = .ok text ↔ bytesOf text = visible) ∧
    (∀ error, readText (some bytes) = .error error ↔
      ∃ fault : Fault, error = .invalidArgument (.invalidText fault) ∧ fault.Describes visible) ∧
    ∀ fault, (BridgeError.invalidArgument (.invalidText fault)).message =
      "Invalid UTF-8: " ++ match fault.broken with
        | none => s!"incomplete utf-8 byte sequence from index {fault.index}"
        | some k => s!"invalid utf-8 sequence of {k} bytes from index {fault.index}" := by
  refine ⟨fun text => ?_, fun error => ?_, ?_⟩
  · rw [← decode_eq_ok_iff, readText]
    cases decode (bytes.takeWhile (· ≠ 0)) <;> simp
  · simp only [← decode_eq_error_iff, readText]
    cases decode (bytes.takeWhile (· ≠ 0)) <;> simp [eq_comm]
  · rintro ⟨index, _ | k⟩ <;> rfl

example : readText (some [0x61, 0xF0, 0x9F, 0x98, 0, 0x80]) = .error (.invalidArgument (.invalidText ⟨1, none⟩)) := rfl

end HeapBridge
