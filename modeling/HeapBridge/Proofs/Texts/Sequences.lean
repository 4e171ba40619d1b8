import HeapBridge.Text.Utf8
import Mathlib.Tactic.IntervalCases
/-!
The sequences of UTF-8. The reader goes by a table of leading bytes; here it is told that the table has the bytes
of each character and no others, and that bytes can be taken apart in one way only: into those of a text, and
those at which the reader stops if there are any.
-/
namespace HeapBridge.Text.Utf8

variable {a b low high size code index : Nat} {bytes part : List Nat} {broken : Option Nat}

/-- The bytes that the table admits for one character, and the code point that is read from them. -/
inductive Sequence : List Nat → Nat → Prop where
  | one {a : Nat} (hFirst : a < 0x80) : Sequence [a] a
  | two {a b low high : Nat} (hLead : lead a = some (1, low, high)) (hSecond : low ≤ b ∧ b ≤ high) :
    Sequence [a, b] (codePoint a [b])
  | three {a b c low high : Nat} (hLead : lead a = some (2, low, high)) (hSecond : low ≤ b ∧ b ≤ high)
    (hThird : isTail c) : Sequence [a, b, c] (codePoint a [b, c])
  | four {a b c d low high : Nat} (hLead : lead a = some (3, low, high)) (hSecond : low ≤ b ∧ b ≤ high)
    (hThird : isTail c) (hFourth : isTail d) : Sequence [a, b, c, d] (codePoint a [b, c, d])

theorem isTail_iff : isTail b = true ↔ 0x80 ≤ b ∧ b ≤ 0xBF := by simp [isTail]

theorem isTail_low (n : Nat) : isTail (0x80 + n % 64) = true := isTail_iff.mpr (by omega)

theorem lead_bounds (hLead : lead a = some (size, low, high)) :
    0x80 ≤ a ∧ 1 ≤ size ∧ size ≤ 3 ∧ low ≤ high := by
  unfold lead at hLead
  split_ifs at hLead <;> obtain ⟨⟩ := Option.some.inj hLead <;> omega

/-- What the table admits is how the code point is written, which is one of a character. -/
theorem Sequence.encodes (hSequence : Sequence bytes code) : code.isValidChar ∧ encodeCode code = bytes := by
  cases hSequence with
  | one hFirst => exact ⟨.inl (by omega), if_pos hFirst⟩
  | two hLead hSecond =>
    unfold lead at hLead
    simp only [codePoint, encodeCode, Nat.isValidChar, List.foldl, List.length]
    split_ifs at hLead <;> obtain ⟨⟩ := Option.some.inj hLead
    refine ⟨by omega, ?_⟩
    rw [if_neg (by omega), if_pos (by omega)]
    simp only [List.cons.injEq, and_true]
    omega
  | three hLead hSecond hThird =>
    rw [isTail_iff] at hThird
    unfold lead at hLead
    simp only [codePoint, encodeCode, Nat.isValidChar, List.foldl, List.length]
    split_ifs at hLead <;> obtain ⟨⟩ := Option.some.inj hLead <;>
    · refine ⟨by omega, ?_⟩
      rw [if_neg (by omega), if_neg (by omega), if_pos (by omega)]
      simp only [List.cons.injEq, and_true]
      omega
  | four hLead hSecond hThird hFourth =>
    rw [isTail_iff] at hThird hFourth
    unfold lead at hLead
    simp only [codePoint, encodeCode, Nat.isValidChar, List.foldl, List.length]
    split_ifs at hLead <;> obtain ⟨⟩ := Option.some.inj hLead <;>
    · refine ⟨by omega, ?_⟩
      rw [if_neg (by omega), if_neg (by omega), if_neg (by omega)]
      simp only [List.cons.injEq, and_true]
      omega

/-! The first two bytes of a character are in the table. -/

theorem exists_lead_two (hLow : 0x80 ≤ code) (hHigh : code < 0x800) :
    ∃ low high, lead (0xC0 + code / 64) = some (1, low, high) ∧
      low ≤ 0x80 + code % 64 ∧ 0x80 + code % 64 ≤ high := by
  refine ⟨0x80, 0xBF, ?_, by omega, by omega⟩
  rw [lead, if_pos (by omega)]

theorem exists_lead_three (hLow : 0x800 ≤ code) (hHigh : code < 0x10000) (hValid : code.isValidChar) :
    ∃ low high, lead (0xE0 + code / 4096) = some (2, low, high) ∧
      low ≤ 0x80 + code / 64 % 64 ∧ 0x80 + code / 64 % 64 ≤ high := by
  unfold Nat.isValidChar at hValid
  unfold lead
  split_ifs <;> first | omega | exact ⟨_, _, rfl, by omega, by omega⟩

theorem exists_lead_four (hLow : 0x10000 ≤ code) (hValid : code.isValidChar) :
    ∃ low high, lead (0xF0 + code / 262144) = some (3, low, high) ∧
      low ≤ 0x80 + code / 4096 % 64 ∧ 0x80 + code / 4096 % 64 ≤ high := by
  unfold Nat.isValidChar at hValid
  unfold lead
  split_ifs <;> first | omega | exact ⟨_, _, rfl, by omega, by omega⟩

/-- Each scalar value is encoded by a sequence. -/
theorem sequence_of_valid (hValid : code.isValidChar) : Sequence (encodeCode code) code := by
  unfold encodeCode
  split_ifs with hOne hTwo hThree
  · exact .one hOne
  · obtain ⟨low, high, hLead, hSecond⟩ := exists_lead_two (Nat.not_lt.mp hOne) hTwo
    have hSequence := Sequence.two hLead hSecond
    have hCode : codePoint (0xC0 + code / 64) [0x80 + code % 64] = code := by
      simp only [codePoint, List.foldl, List.length]
      omega
    rwa [hCode] at hSequence
  · obtain ⟨low, high, hLead, hSecond⟩ := exists_lead_three (Nat.not_lt.mp hTwo) hThree hValid
    have hSequence := Sequence.three hLead hSecond (isTail_low code)
    have hCode : codePoint (0xE0 + code / 4096) [0x80 + code / 64 % 64, 0x80 + code % 64] = code := by
      simp only [codePoint, List.foldl, List.length]
      omega
    rwa [hCode] at hSequence
  · obtain ⟨low, high, hLead, hSecond⟩ := exists_lead_four (Nat.not_lt.mp hThree) hValid
    have hSequence := Sequence.four hLead hSecond (isTail_low (code / 64)) (isTail_low code)
    have hCode : codePoint (0xF0 + code / 262144)
        [0x80 + code / 4096 % 64, 0x80 + code / 64 % 64, 0x80 + code % 64] = code := by
      simp only [codePoint, List.foldl, List.length]
      omega
    rwa [hCode] at hSequence

theorem sequence_encodeCode (c : Char) : Sequence (encodeCode c.toNat) c.toNat := sequence_of_valid c.valid

/-- The table admits the bytes of each character and no others. -/
theorem sequence_iff : Sequence bytes code ↔ ∃ c : Char, c.toNat = code ∧ encodeCode code = bytes := by
  constructor
  · intro hSequence
    obtain ⟨hValid, hBytes⟩ := hSequence.encodes
    exact ⟨Char.ofNatAux code hValid, rfl, hBytes⟩
  · rintro ⟨c, rfl, rfl⟩
    exact sequence_encodeCode c

/-! The reader. -/

theorem not_outside (hSecond : low ≤ b ∧ b ≤ high) : ¬ (b < low || high < b) = true := by
  simp only [Bool.or_eq_true, decide_eq_true_eq]
  omega

/-- A sequence is read as its character, and reading goes on behind it. -/
theorem decodeFrom_sequence (hSequence : Sequence bytes code) (index : Nat) (rest : List Nat) :
    decodeFrom index (bytes ++ rest) = (Char.ofNat code :: ·) <$> decodeFrom (index + bytes.length) rest := by
  cases hSequence with
  | one hFirst => rw [List.singleton_append, decodeFrom, if_pos hFirst, List.length_singleton]
  | two hLead hSecond =>
    rw [List.cons_append, decodeFrom, if_neg (lead_bounds hLead).1.not_gt, hLead]
    dsimp only [List.cons_append, List.nil_append]
    rw [if_neg (not_outside hSecond), if_pos rfl]
    rfl
  | three hLead hSecond hThird =>
    rw [List.cons_append, decodeFrom, if_neg (lead_bounds hLead).1.not_gt, hLead]
    dsimp only [List.cons_append, List.nil_append]
    rw [if_neg (not_outside hSecond), if_neg (by decide), if_neg (by simp [hThird]), if_pos rfl]
    rfl
  | four hLead hSecond hThird hFourth =>
    rw [List.cons_append, decodeFrom, if_neg (lead_bounds hLead).1.not_gt, hLead]
    dsimp only [List.cons_append, List.nil_append]
    rw [if_neg (not_outside hSecond), if_neg (by decide), if_neg (by simp [hThird]), if_neg (by decide),
      if_neg (by simp [hFourth])]
    rfl

/-- An encoded text is read back, whatever follows it. -/
theorem decodeFrom_encode (text : List Char) (index : Nat) (rest : List Nat) :
    decodeFrom index (encode text ++ rest) = (text ++ ·) <$> decodeFrom (index + (encode text).length) rest := by
  induction text generalizing index with
  | nil =>
    change decodeFrom index rest = id <$> decodeFrom index rest
    rw [id_map]
  | cons c text ih =>
    have hBytes : encode (c :: text) = encodeCode c.toNat ++ encode text := rfl
    rw [hBytes, List.append_assoc, decodeFrom_sequence (sequence_encodeCode c), ih, List.length_append,
      ← Nat.add_assoc, Char.ofNat_toNat]
    cases decodeFrom (index + (encodeCode c.toNat).length + (encode text).length) rest <;> rfl

/-- Bytes at which the reader stops, and how many of them it counts as broken: none if the bytes end too early. -/
inductive Stuck : List Nat → Option Nat → Prop where
  | first {a : Nat} (rest : List Nat) (hFirst : 0x80 ≤ a) (hLead : lead a = none) : Stuck (a :: rest) (some 1)
  | afterFirst {a size low high : Nat} (hLead : lead a = some (size, low, high)) : Stuck [a] none
  | second {a b size low high : Nat} (rest : List Nat) (hLead : lead a = some (size, low, high))
    (hSecond : b < low ∨ high < b) : Stuck (a :: b :: rest) (some 1)
  | afterSecond {a b size low high : Nat} (hLead : lead a = some (size, low, high)) (hSize : 1 < size)
    (hSecond : low ≤ b ∧ b ≤ high) : Stuck [a, b] none
  | third {a b c size low high : Nat} (rest : List Nat) (hLead : lead a = some (size, low, high)) (hSize : 1 < size)
    (hSecond : low ≤ b ∧ b ≤ high) (hThird : isTail c = false) : Stuck (a :: b :: c :: rest) (some 2)
  | afterThird {a b c size low high : Nat} (hLead : lead a = some (size, low, high)) (hSize : 2 < size)
    (hSecond : low ≤ b ∧ b ≤ high) (hThird : isTail c) : Stuck [a, b, c] none
  | fourth {a b c d size low high : Nat} (rest : List Nat) (hLead : lead a = some (size, low, high))
    (hSize : 2 < size) (hSecond : low ≤ b ∧ b ≤ high) (hThird : isTail c) (hFourth : isTail d = false) :
    Stuck (a :: b :: c :: d :: rest) (some 3)

/-- Decoding stops where bytes are stuck, and says how many of them. -/
theorem decodeFrom_stuck (hStuck : Stuck bytes broken) (index : Nat) :
    decodeFrom index bytes = .error ⟨index, broken⟩ := by
  cases hStuck with
  | first rest hFirst hLead => rw [decodeFrom, if_neg hFirst.not_gt, hLead]
  | afterFirst hLead => rw [decodeFrom, if_neg (lead_bounds hLead).1.not_gt, hLead]
  | second rest hLead hSecond =>
    rw [decodeFrom, if_neg (lead_bounds hLead).1.not_gt, hLead]
    exact if_pos (by simpa using hSecond)
  | afterSecond hLead hSize hSecond =>
    rw [decodeFrom, if_neg (lead_bounds hLead).1.not_gt, hLead]
    dsimp only
    rw [if_neg (not_outside hSecond), if_neg hSize.ne']
  | third rest hLead hSize hSecond hThird =>
    rw [decodeFrom, if_neg (lead_bounds hLead).1.not_gt, hLead]
    dsimp only
    rw [if_neg (not_outside hSecond), if_neg hSize.ne', if_pos (by simp [hThird])]
  | afterThird hLead hSize hSecond hThird =>
    rw [decodeFrom, if_neg (lead_bounds hLead).1.not_gt, hLead]
    dsimp only
    rw [if_neg (not_outside hSecond), if_neg (by omega), if_neg (by simp [hThird]), if_neg hSize.ne']
  | fourth rest hLead hSize hSecond hThird hFourth =>
    rw [decodeFrom, if_neg (lead_bounds hLead).1.not_gt, hLead]
    dsimp only
    rw [if_neg (not_outside hSecond), if_neg (by omega), if_neg (by simp [hThird]), if_neg hSize.ne',
      if_pos (by simp [hFourth])]

/-- Bytes begin with a sequence or stop the reader. -/
theorem exists_sequence_or_stuck (hSome : bytes ≠ []) :
    (∃ sequence code rest, Sequence sequence code ∧ bytes = sequence ++ rest) ∨ ∃ broken, Stuck bytes broken := by
  obtain ⟨a, rest, rfl⟩ := List.exists_cons_of_ne_nil hSome
  by_cases hFirst : a < 0x80
  · exact .inl ⟨[a], a, rest, .one hFirst, rfl⟩
  cases hLead : lead a with
  | none => exact .inr ⟨_, .first rest (Nat.not_lt.mp hFirst) hLead⟩
  | some bounds =>
    obtain ⟨size, low, high⟩ := bounds
    obtain ⟨-, hSize, hSizes, -⟩ := lead_bounds hLead
    rcases rest with _ | ⟨b, rest⟩
    · exact .inr ⟨_, .afterFirst hLead⟩
    by_cases hSecond : low ≤ b ∧ b ≤ high
    swap
    · exact .inr ⟨_, .second rest hLead (by omega)⟩
    by_cases hTwo : size = 1
    · subst hTwo
      exact .inl ⟨[a, b], _, rest, .two hLead hSecond, rfl⟩
    rcases rest with _ | ⟨c, rest⟩
    · exact .inr ⟨_, .afterSecond hLead (by omega) hSecond⟩
    cases hThird : isTail c with
    | false => exact .inr ⟨_, .third rest hLead (by omega) hSecond hThird⟩
    | true =>
      by_cases hThree : size = 2
      · subst hThree
        exact .inl ⟨[a, b, c], _, rest, .three hLead hSecond hThird, rfl⟩
      obtain rfl : size = 3 := by omega
      rcases rest with _ | ⟨d, rest⟩
      · exact .inr ⟨_, .afterThird hLead (by decide) hSecond hThird⟩
      cases hFourth : isTail d with
      | false => exact .inr ⟨_, .fourth rest hLead (by decide) hSecond hThird hFourth⟩
      | true => exact .inl ⟨[a, b, c, d], _, rest, .four hLead hSecond hThird hFourth, rfl⟩

/-- Bytes are those of a text, or those of a text and then some that stop the reader. -/
theorem exists_text_or_stuck (bytes : List Nat) :
    (∃ text, bytes = encode text) ∨ ∃ text rest broken, bytes = encode text ++ rest ∧ Stuck rest broken := by
  induction hLength : bytes.length using Nat.strong_induction_on generalizing bytes with
  | _ length ih =>
    by_cases hNone : bytes = []
    · exact .inl ⟨[], hNone⟩
    rcases exists_sequence_or_stuck hNone with ⟨sequence, code, rest, hSequence, rfl⟩ | ⟨broken, hStuck⟩
    swap
    · exact .inr ⟨[], bytes, broken, rfl, hStuck⟩
    have hShorter : rest.length < length := by
      rw [← hLength, List.length_append]
      cases hSequence <;> simp
    obtain ⟨c, rfl, rfl⟩ := sequence_iff.mp hSequence
    rcases ih _ hShorter rest rfl with ⟨text, rfl⟩ | ⟨text, rest, broken, rfl, hStuck⟩
    · exact .inl ⟨c :: text, rfl⟩
    · exact .inr ⟨c :: text, rest, broken, (List.append_assoc ..).symm, hStuck⟩

/-- A fault is not in front of where reading began. -/
theorem le_of_decodeFrom_error {fault : Fault} (hError : decodeFrom index bytes = .error fault) :
    index ≤ fault.index := by
  rcases exists_text_or_stuck bytes with ⟨text, rfl⟩ | ⟨text, rest, broken, rfl, hStuck⟩
  · have hRead := decodeFrom_encode text index []
    rw [List.append_nil, hError] at hRead
    cases hRead
  · rw [decodeFrom_encode, decodeFrom_stuck hStuck] at hError
    obtain rfl := Except.error.inj hError
    exact Nat.le_add_right _ _

/-! Beginnings of sequences. -/

/-- What the table admits at the beginning of a sequence that has yet to go on. -/
inductive Begun : List Nat → Prop where
  | none : Begun []
  | first {a size low high : Nat} (hLead : lead a = some (size, low, high)) : Begun [a]
  | second {a b size low high : Nat} (hLead : lead a = some (size, low, high)) (hSize : 1 < size)
    (hSecond : low ≤ b ∧ b ≤ high) : Begun [a, b]
  | third {a b c size low high : Nat} (hLead : lead a = some (size, low, high)) (hSize : 2 < size)
    (hSecond : low ≤ b ∧ b ≤ high) (hThird : isTail c) : Begun [a, b, c]

/-- What has begun can be completed, by the lowest bytes for instance. -/
theorem Begun.exists_sequence (hBegun : Begun part) :
    ∃ sequence code, Sequence sequence code ∧ part <+: sequence ∧ part ≠ sequence := by
  have hTail : isTail 0x80 = true := isTail_low 0
  cases hBegun with
  | none => exact ⟨[0], 0, .one (by decide), by simp, by simp⟩
  | @first a size low high hLead =>
    obtain ⟨-, hSize, hSizes, hBounds⟩ := lead_bounds hLead
    obtain rfl | rfl | rfl : size = 1 ∨ size = 2 ∨ size = 3 := by omega
    · exact ⟨[a, low], _, .two hLead ⟨le_rfl, hBounds⟩, by simp, by simp⟩
    · exact ⟨[a, low, 0x80], _, .three hLead ⟨le_rfl, hBounds⟩ hTail, by simp, by simp⟩
    · exact ⟨[a, low, 0x80, 0x80], _, .four hLead ⟨le_rfl, hBounds⟩ hTail hTail, by simp, by simp⟩
  | @second a b size low high hLead hSize hSecond =>
    obtain ⟨-, -, hSizes, -⟩ := lead_bounds hLead
    obtain rfl | rfl : size = 2 ∨ size = 3 := by omega
    · exact ⟨[a, b, 0x80], _, .three hLead hSecond hTail, by simp, by simp⟩
    · exact ⟨[a, b, 0x80, 0x80], _, .four hLead hSecond hTail hTail, by simp, by simp⟩
  | @third a b c size low high hLead hSize hSecond hThird =>
    obtain ⟨-, -, hSizes, -⟩ := lead_bounds hLead
    obtain rfl : size = 3 := by omega
    exact ⟨[a, b, c, 0x80], _, .four hLead hSecond hThird hTail, by simp, by simp⟩

/-- A sequence that is cut short has only begun. -/
theorem Sequence.begun_take (hSequence : Sequence bytes code) {n : Nat} (hLess : n < bytes.length) :
    Begun (bytes.take n) := by
  cases hSequence with
  | one hFirst =>
    obtain rfl : n = 0 := by simpa using hLess
    exact .none
  | two hLead hSecond =>
    simp only [List.length_cons, List.length_nil] at hLess
    interval_cases n
    · exact .none
    · exact .first hLead
  | three hLead hSecond hThird =>
    simp only [List.length_cons, List.length_nil] at hLess
    interval_cases n
    · exact .none
    · exact .first hLead
    · exact .second hLead (by decide) hSecond
  | four hLead hSecond hThird hFourth =>
    simp only [List.length_cons, List.length_nil] at hLess
    interval_cases n
    · exact .none
    · exact .first hLead
    · exact .second hLead (by decide) hSecond
    · exact .third hLead (by decide) hSecond hThird

/-- The table admits the beginnings of characters and no others. -/
theorem begun_iff : Begun part ↔ ∃ c : Char, part <+: encodeCode c.toNat ∧ part ≠ encodeCode c.toNat := by
  constructor
  · intro hBegun
    obtain ⟨sequence, code, hSequence, hPrefix, hOther⟩ := hBegun.exists_sequence
    obtain ⟨c, rfl, rfl⟩ := sequence_iff.mp hSequence
    exact ⟨c, hPrefix, hOther⟩
  · rintro ⟨c, hPrefix, hOther⟩
    have hLess : part.length < (encodeCode c.toNat).length :=
      hPrefix.length_le.lt_of_ne fun hSame => hOther (hPrefix.eq_of_length hSame)
    rw [List.prefix_iff_eq_take.mp hPrefix]
    exact (sequence_encodeCode c).begun_take hLess

/-- The beginning of a beginning is one. -/
theorem Begun.of_prefix (hBegun : Begun bytes) (hPrefix : part <+: bytes) : Begun part := by
  obtain ⟨c, hBytes, hOther⟩ := begun_iff.mp hBegun
  refine begun_iff.mpr ⟨c, hPrefix.trans hBytes, ?_⟩
  rintro rfl
  exact hOther (hBytes.eq_of_length_le hPrefix.length_le)

/-- Where the bytes end too early, a sequence has begun. -/
theorem Stuck.begun (hStuck : Stuck bytes none) : Begun bytes := by
  cases hStuck with
  | afterFirst hLead => exact .first hLead
  | afterSecond hLead hSize hSecond => exact .second hLead hSize hSecond
  | afterThird hLead hSize hSecond hThird => exact .third hLead hSize hSecond hThird

/-- Elsewhere the reader stops at the first byte with which nothing can go on that has begun. It counts what has
begun as broken, and the byte itself if that is nothing. -/
theorem Stuck.exists_begun {k : Nat} (hStuck : Stuck bytes (some k)) :
    ∃ m, k = max 1 m ∧ m < bytes.length ∧ m < 4 ∧ Begun (bytes.take m) ∧ ¬ Begun (bytes.take (m + 1)) := by
  cases hStuck with
  | first rest hFirst hLead =>
    refine ⟨0, rfl, Nat.succ_pos _, by decide, .none, fun hBegun => ?_⟩
    cases hBegun with
    | first hOther => exact absurd (hLead.symm.trans hOther) nofun
  | second rest hLead hSecond =>
    refine ⟨1, rfl, by simp, by decide, .first hLead, fun hBegun => ?_⟩
    cases hBegun with
    | second hOther _ hBounds =>
      obtain ⟨⟩ := Option.some.inj (hLead.symm.trans hOther)
      omega
  | third rest hLead hSize hSecond hThird =>
    refine ⟨2, rfl, by simp, by decide, .second hLead hSize hSecond, fun hBegun => ?_⟩
    cases hBegun with
    | third _ _ _ hTail => exact absurd (hThird.symm.trans hTail) nofun
  | fourth rest hLead hSize hSecond hThird hFourth =>
    exact ⟨3, rfl, by simp, by decide, .third hLead hSize hSecond hThird, nofun⟩

end HeapBridge.Text.Utf8
