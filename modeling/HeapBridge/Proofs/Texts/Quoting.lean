import HeapBridge.Text.Quoted
import Mathlib.Data.List.Basic
/-!
Quoted texts read back. A quoted text tells what it quotes: one pass over it, which only has to know whether it is
in the middle of an escape, gives the text back. And all that is written is printable, so a quoted text can be
handed to a reader of lines or of zero-terminated texts.
-/
namespace HeapBridge.Text.Quoted

variable {c d : Char} {digits rest : List Char}

/-- Where a reader of a quoted text stands. -/
inductive Place where
  | outside
  | afterBackslash
  | beforeNumber
  /-- In a number of which this much has been read. -/
  | inNumber (value : Nat)

/-- The character that a letter after a backslash stands for. -/
def meant (c : Char) : Char :=
  if c = '0' then '\x00' else if c = 't' then '\t' else if c = 'n' then '\n' else if c = 'r' then '\r' else c

def digitValue (c : Char) : Nat := if c.isDigit then c.toNat - '0'.toNat else c.toNat - 'a'.toNat + 10

/-- Reads the inside of a quoted text and the mark at its end. -/
def readFrom : Place → List Char → Option (List Char)
  | _, [] => none
  | .outside, c :: rest =>
    if c = '"' then (if rest = [] then some [] else none)
    else if c = '\\' then readFrom .afterBackslash rest
    else (c :: ·) <$> readFrom .outside rest
  | .afterBackslash, c :: rest =>
    if c = 'u' then readFrom .beforeNumber rest else (meant c :: ·) <$> readFrom .outside rest
  | .beforeNumber, _ :: rest => readFrom (.inNumber 0) rest
  | .inNumber value, c :: rest =>
    if c = '\x7d' then (Char.ofNat value :: ·) <$> readFrom .outside rest
    else readFrom (.inNumber (16 * value + digitValue c)) rest

def unquote? (quoted : String) : Option String :=
  match quoted.toList with
  | '"' :: inside => String.ofList <$> readFrom .outside inside
  | _ => none

/-! Numbers. -/

/-- The number that digits go on to from what has been read of them. -/
def valueFrom (value : Nat) (digits : List Char) : Nat :=
  digits.foldl (fun value c => 16 * value + digitValue c) value

theorem digitChar_facts : ∀ n < 16, digitValue n.digitChar = n ∧ n.digitChar ≠ '\x7d' ∧
    0x20 ≤ n.digitChar.toNat ∧ n.digitChar.toNat < 0x7F := by
  decide

/-- The last digit is that of the remainder, and those before it are those of the quotient. -/
theorem hex_eq {n : Nat} (hLarge : 16 ≤ n) : hex n = hex (n / 16) ++ [(n % 16).digitChar] :=
  Nat.toDigits_of_base_le (by decide) hLarge

theorem hex_of_lt {n : Nat} (hSmall : n < 16) : hex n = [n.digitChar] := Nat.toDigits_of_lt_base hSmall

/-- Digits are read as the number that they are the digits of. -/
theorem valueFrom_hex (n : Nat) : valueFrom 0 (hex n) = n := by
  induction n using Nat.strongRecOn with
  | ind n ih =>
    by_cases hSmall : n < 16
    · rw [hex_of_lt hSmall]
      change 16 * 0 + digitValue n.digitChar = n
      rw [(digitChar_facts n hSmall).1, Nat.mul_zero, Nat.zero_add]
    · have hLast := (digitChar_facts (n % 16) (Nat.mod_lt _ (by decide))).1
      rw [hex_eq (Nat.not_lt.mp hSmall), valueFrom, List.foldl_append]
      change 16 * valueFrom 0 (hex (n / 16)) + digitValue (n % 16).digitChar = n
      rw [ih _ (by omega), hLast, Nat.div_add_mod]

/-- Hexadecimal digits come from the numbers below sixteen. -/
theorem exists_of_mem_hex {n : Nat} (hMem : d ∈ hex n) : ∃ k < 16, d = k.digitChar := by
  induction n using Nat.strongRecOn with
  | ind n ih =>
    by_cases hSmall : n < 16
    · rw [hex_of_lt hSmall, List.mem_singleton] at hMem
      exact ⟨n, hSmall, hMem⟩
    · rw [hex_eq (Nat.not_lt.mp hSmall), List.mem_append, List.mem_singleton] at hMem
      rcases hMem with hFront | hLast
      · exact ih _ (by omega) hFront
      · exact ⟨n % 16, Nat.mod_lt _ (by decide), hLast⟩

/-- Digits are read as the number that they write. -/
theorem readFrom_digits (hDigits : '\x7d' ∉ digits) (value : Nat) (rest : List Char) :
    readFrom (.inNumber value) (digits ++ '\x7d' :: rest) =
      (Char.ofNat (valueFrom value digits) :: ·) <$> readFrom .outside rest := by
  induction digits generalizing value with
  | nil =>
    rw [List.nil_append, readFrom, if_pos rfl]
    rfl
  | cons c digits ih =>
    rw [List.mem_cons, not_or] at hDigits
    rw [List.cons_append, readFrom, if_neg (Ne.symm hDigits.1), ih hDigits.2]
    rfl

/-- A character that is written by its number is read back. -/
theorem readFrom_numbered (c : Char) (rest : List Char) :
    readFrom .outside (numbered c ++ rest) = (c :: ·) <$> readFrom .outside rest := by
  have hDigits : '\x7d' ∉ hex c.toNat := by
    intro hMem
    obtain ⟨k, hLess, hSame⟩ := exists_of_mem_hex hMem
    exact (digitChar_facts k hLess).2.1 hSame.symm
  have hText : numbered c ++ rest = '\\' :: 'u' :: '\x7b' :: (hex c.toNat ++ '\x7d' :: rest) := by simp [numbered]
  rw [hText, readFrom, if_neg (by decide), if_pos rfl, readFrom, if_pos rfl, readFrom, readFrom_digits hDigits,
    valueFrom_hex, Char.ofNat_toNat]

/-! Characters. -/

/-- A character is read back from how it is written, whatever comes behind it. -/
theorem readFrom_escape (c : Char) (rest : List Char) :
    readFrom .outside (escape c ++ rest) = (c :: ·) <$> readFrom .outside rest := by
  unfold escape
  split_ifs with hNul hTab hNewline hReturn hMark hHidden
  · subst hNul; rfl
  · subst hTab; rfl
  · subst hNewline; rfl
  · subst hReturn; rfl
  · rw [Bool.or_eq_true, decide_eq_true_eq, decide_eq_true_eq] at hMark
    rcases hMark with rfl | rfl <;> rfl
  · exact readFrom_numbered c rest
  · rw [Bool.or_eq_true, decide_eq_true_eq, decide_eq_true_eq, not_or] at hMark
    rw [List.singleton_append, readFrom, if_neg hMark.1, if_neg hMark.2]

theorem readFrom_escapes (text : List Char) : readFrom .outside (text.flatMap escape ++ ['"']) = some text := by
  induction text with
  | nil => rfl
  | cons c text ih =>
    rw [List.flatMap_cons, List.append_assoc, readFrom_escape, ih]
    rfl

theorem unquote?_quote (text : String) : unquote? (quote text) = some text := by
  rw [unquote?, quote, String.toList_ofList, encode]
  change String.ofList <$> readFrom .outside (text.toList.flatMap escape ++ ['"']) = some text
  rw [readFrom_escapes, Option.map_eq_map, Option.map_some, String.ofList_toList]

/-- Numbers are written in printable characters. -/
theorem isPrintable_of_mem_numbered (hMem : d ∈ numbered c) : isPrintable d.toNat = true := by
  simp only [numbered, List.cons_append, List.mem_cons, List.mem_append, List.not_mem_nil, or_false] at hMem
  rcases hMem with rfl | rfl | rfl | hDigit | rfl
  · rfl
  · rfl
  · rfl
  · obtain ⟨k, hLess, rfl⟩ := exists_of_mem_hex hDigit
    obtain ⟨-, -, hLow, hHigh⟩ := digitChar_facts k hLess
    exact isPrintable_of_ascii hLow hHigh
  · rfl

theorem isPrintable_of_mem_short (hPrintable : isPrintable c.toNat = true) (hMem : d ∈ ['\\', c]) :
    isPrintable d.toNat = true := by
  rw [List.mem_pair] at hMem
  rcases hMem with rfl | rfl
  · rfl
  · exact hPrintable

/-- What is written for a character is printable. -/
theorem isPrintable_of_mem_escape (hMem : d ∈ escape c) : isPrintable d.toNat = true := by
  unfold escape at hMem
  split_ifs at hMem with hNul hTab hNewline hReturn hMark hHidden
  · exact isPrintable_of_mem_short rfl hMem
  · exact isPrintable_of_mem_short rfl hMem
  · exact isPrintable_of_mem_short rfl hMem
  · exact isPrintable_of_mem_short rfl hMem
  · rw [Bool.or_eq_true, decide_eq_true_eq, decide_eq_true_eq] at hMark
    exact isPrintable_of_mem_short (by rcases hMark with rfl | rfl <;> rfl) hMem
  · exact isPrintable_of_mem_numbered hMem
  · rw [Bool.or_eq_true, Bool.not_eq_true', not_or, Bool.not_eq_false] at hHidden
    rw [List.mem_singleton.mp hMem]
    exact hHidden.2

/-- Quoting leaves nothing unprintable. -/
theorem isPrintable_of_mem_quote {text : String} (hMem : d ∈ (quote text).toList) : isPrintable d.toNat = true := by
  rw [quote, String.toList_ofList, encode, List.cons_append, List.mem_cons, List.mem_append, List.mem_flatMap,
    List.mem_singleton] at hMem
  rcases hMem with rfl | ⟨c, -, hInside⟩ | rfl
  · rfl
  · exact isPrintable_of_mem_escape hInside
  · rfl

/-- The characters at which lines are broken. -/
def lineBreaks : List Char := ['\n', '\x0b', '\x0c', '\r', '\u0085', '\u2028', '\u2029']

theorem not_isPrintable_of_mem_lineBreaks (hMem : c ∈ lineBreaks) : isPrintable c.toNat = false := by
  have hAll : (lineBreaks.all fun c => !isPrintable c.toNat) = true := by decide +kernel
  simpa using List.all_eq_true.mp hAll c hMem

end HeapBridge.Text.Quoted
