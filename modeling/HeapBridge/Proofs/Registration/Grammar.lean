import HeapBridge.Proofs.Registration.Encodings
/-!
The grammar of wrappable encodings. What an encoding stands for is read letter by letter; here it is told which
texts have a reading at all, that a text has no two, and that reading by byte offsets, as a caller does who
holds the bytes of a text, comes to the same and never cuts a letter in two.
-/
namespace HeapBridge.TypeEncoding

variable {signature name other text : String} {letters body rest : List Char} {close c : Char}

/-- How an encoding is read that stands for a name: qualifiers, a caret, an opening bracket, the name, what ends
it, and anything else. -/
inductive Reads : String → String → Prop where
  | intro (qualifiers name rest : String) {opening closing ending : Char}
    (hQualifiers : ∀ c ∈ qualifiers.toList, c ∈ "rnNoORV".toList)
    (hBrackets : opening = '\x7b' ∧ closing = '\x7d' ∨ opening = '(' ∧ closing = ')')
    (hEnding : ending = '=' ∨ ending = closing)
    (hProper : name ≠ "" ∧ name ≠ "?")
    (hName : '=' ∉ name.toList ∧ closing ∉ name.toList) :
    Reads (qualifiers ++ "^" ++ opening.toString ++ name ++ ending.toString ++ rest) name

theorem isQualifier_iff : isQualifier c = true ↔ c ∈ "rnNoORV".toList := by
  simp [isQualifier, or_assoc]

/-- Two brackets open an aggregate. -/
theorem closing?_eq_some_iff {opening : Char} :
    closing? opening = some close ↔ opening = '\x7b' ∧ close = '\x7d' ∨ opening = '(' ∧ close = ')' := by
  unfold closing?
  split
  next hCurly => simp [hCurly, eq_comm]
  next hOther =>
    split
    next hRound => simp [hRound, eq_comm]
    next hNone => simp [hOther, hNone]

/-- A name ends before the first equals sign or closing bracket, of which there has to be one. -/
theorem name?_eq_some_iff :
    name? close body = some letters ↔ (∃ ending rest, body = letters ++ ending :: rest ∧
      (ending = '=' ∨ ending = close)) ∧ (letters ≠ [] ∧ letters ≠ ['?']) ∧ '=' ∉ letters ∧ close ∉ letters := by
  have hKept : (∀ c ∈ letters, (c ≠ '=' && c ≠ close) = true) ↔ '=' ∉ letters ∧ close ∉ letters := by
    constructor
    · intro hAll
      exact ⟨fun hMem => by simpa using hAll _ hMem, fun hMem => by simpa using hAll _ hMem⟩
    · rintro ⟨hEquals, hClose⟩ c hMem
      have hBoth : c ≠ '=' ∧ c ≠ close := ⟨fun hSame => hEquals (hSame ▸ hMem), fun hSame => hClose (hSame ▸ hMem)⟩
      simpa using hBoth
  constructor
  · intro hName
    simp only [name?, Bool.or_eq_true, decide_eq_true_eq] at hName
    split at hName
    next => cases hName
    next hProper =>
      obtain rfl := Option.some.inj hName
      push Not at hProper
      refine ⟨?_, ⟨hProper.1.2, hProper.2⟩, hKept.mp fun c hMem => ?_⟩
      swap
      · exact List.mem_takeWhile_imp (p := fun c => c ≠ '=' && c ≠ close) hMem
      have hSplit := List.takeWhile_append_dropWhile (p := fun c => c ≠ '=' && c ≠ close) (l := body)
      cases hRest : body.dropWhile fun c => c ≠ '=' && c ≠ close with
      | nil =>
        rw [hRest, List.append_nil] at hSplit
        exact absurd (congrArg List.length hSplit) hProper.1.1
      | cons ending rest =>
        rw [hRest] at hSplit
        have hSome : body.dropWhile (fun c => c ≠ '=' && c ≠ close) ≠ [] := by
          rw [hRest]
          exact List.cons_ne_nil _ _
        have hEnding := List.head_dropWhile_not _ hSome
        simp only [hRest, List.head_cons, Bool.and_eq_false_iff, decide_eq_false_iff_not, not_not] at hEnding
        exact ⟨ending, rest, hSplit.symm, hEnding⟩
  · rintro ⟨⟨ending, rest, rfl, hEnding⟩, ⟨hSome, hNamed⟩, hOther⟩
    have hStops : ¬ (ending ≠ '=' && ending ≠ close) = true := by
      rcases hEnding with rfl | rfl <;> simp
    have hTake : (letters ++ ending :: rest).takeWhile (fun c => c ≠ '=' && c ≠ close) = letters := by
      rw [List.takeWhile_append_of_pos (hKept.mpr hOther), List.takeWhile_cons_of_neg (p := fun c => c ≠ '=' && c ≠ close) hStops,
        List.append_nil]
    rw [name?, hTake]
    simp [hSome, hNamed]

/-- What is left without qualifiers begins with a letter that is none. -/
theorem dropWhile_eq_cons_iff : letters.dropWhile isQualifier = c :: rest ↔
    ∃ front, letters = front ++ c :: rest ∧ (∀ c ∈ front, isQualifier c = true) ∧ isQualifier c = false := by
  constructor
  · intro hRest
    have hSplit := List.takeWhile_append_dropWhile (p := isQualifier) (l := letters)
    have hHead := List.head_dropWhile_not isQualifier (l := letters) (by simp [hRest])
    rw [hRest] at hSplit
    simp only [hRest, List.head_cons] at hHead
    exact ⟨_, hSplit.symm, fun c hMem => List.mem_takeWhile_imp hMem, hHead⟩
  · rintro ⟨front, rfl, hFront, hHead⟩
    rw [List.dropWhile_append_of_pos hFront, List.dropWhile_cons_of_neg (by simp [hHead])]

/-- An encoding stands for a name just when it can be read so. -/
theorem identifier?_eq_some_iff : identifier? signature = some name ↔ Reads signature name := by
  constructor
  · intro hName
    obtain ⟨letters, hPointee, rfl⟩ := Option.map_eq_some_iff.mp hName
    unfold pointee? at hPointee
    split at hPointee
    next opening body hRest =>
      obtain ⟨front, hText, hFront, _⟩ := dropWhile_eq_cons_iff.mp hRest
      obtain ⟨closing, hClosing, hLetters⟩ := Option.bind_eq_some_iff.mp hPointee
      obtain ⟨⟨ending, rest, rfl, hEnding⟩, ⟨hSome, hNamed⟩, hOther⟩ := name?_eq_some_iff.mp hLetters
      have hSignature : signature = String.ofList front ++ "^" ++ opening.toString ++ String.ofList letters ++
          ending.toString ++ String.ofList rest := by
        rw [← String.toList_inj, hText]
        simp
      rw [hSignature]
      refine .intro _ _ _ ?_ (closing?_eq_some_iff.mp hClosing) hEnding ⟨?_, ?_⟩ ?_
      · rw [String.toList_ofList]
        exact fun c hMem => isQualifier_iff.mp (hFront c hMem)
      · exact fun hEmpty => hSome (by simpa using congrArg String.toList hEmpty)
      · exact fun hUnnamed => hNamed (by simpa using congrArg String.toList hUnnamed)
      · rwa [String.toList_ofList]
    next => cases hPointee
  · rintro ⟨qualifiers, name, rest, hQualifiers, hBrackets, hEnding, ⟨hSome, hNamed⟩, hOther⟩
    rename_i opening closing ending
    have hText : (qualifiers ++ "^" ++ opening.toString ++ name ++ ending.toString ++ rest).toList =
        qualifiers.toList ++ '^' :: opening :: (name.toList ++ ending :: rest.toList) := by
      simp
    have hLetters : name? closing (name.toList ++ ending :: rest.toList) = some name.toList := by
      refine name?_eq_some_iff.mpr ⟨⟨ending, rest.toList, rfl, hEnding⟩, ⟨?_, ?_⟩, hOther⟩
      · exact fun hEmpty => hSome (String.toList_inj.mp hEmpty)
      · exact fun hUnnamed => hNamed (String.toList_inj.mp hUnnamed)
    rw [identifier?, hText, dropWhile_qualifiers fun c hMem => isQualifier_iff.mpr (hQualifiers c hMem)]
    change ((closing? opening).bind fun closing => name? closing _).map String.ofList = _
    rw [closing?_eq_some_iff.mpr hBrackets, Option.bind_some, hLetters, Option.map_some, String.ofList_toList]

theorem Reads.unique (hName : Reads signature name) (hOther : Reads signature other) : name = other :=
  Option.some.inj ((identifier?_eq_some_iff.mpr hName).symm.trans (identifier?_eq_some_iff.mpr hOther))

/-- An identifier is what its encoding stands for just when it is a name that has nothing in it that would end
it. -/
theorem identifier?_ofIdentifier_eq_some_iff {qualifiers identifier : String}
    (hQualifiers : ∀ c ∈ qualifiers.toList, c ∈ "rnNoORV".toList) (rest : String) :
    identifier? (qualifiers ++ ofIdentifier identifier ++ rest) = some identifier ↔
      identifier ≠ "" ∧ identifier ≠ "?" ∧ '=' ∉ identifier.toList ∧ '\x7d' ∉ identifier.toList := by
  rw [identifier?_ofIdentifier fun c hMem => isQualifier_iff.mpr (hQualifiers c hMem)]
  by_cases hEmpty : identifier = ""
  · subst hEmpty
    exact iff_of_false (by decide) (by simp)
  · rw [carried?_eq_self_iff hEmpty, IsCarried]
    tauto

/-- What qualifiers are skipped is the longest part in front that consists of them. -/
theorem exists_skipQualifiers (signature : String) :
    ∃ front, signature = front ++ skipQualifiers signature ∧ (∀ c ∈ front.toList, c ∈ "rnNoORV".toList) ∧
      ∀ longer rest, signature = longer ++ rest → (∀ c ∈ longer.toList, c ∈ "rnNoORV".toList) →
        longer.toList <+: front.toList := by
  refine ⟨String.ofList (signature.toList.takeWhile isQualifier), ?_, ?_, ?_⟩
  · rw [← String.toList_inj]
    simp [skipQualifiers]
  · rw [String.toList_ofList]
    exact fun c hMem => isQualifier_iff.mp (List.mem_takeWhile_imp hMem)
  · rintro longer rest rfl hLonger
    rw [String.toList_ofList, String.toList_append,
      List.takeWhile_append_of_pos fun c hMem => isQualifier_iff.mpr (hLonger c hMem)]
    exact List.prefix_append _ _

/-! Reading by byte offsets. -/

/-- A text from a byte offset on, unless the offset is inside a letter or behind the end. -/
def sliceFrom? (text : String) (offset : Nat) : Option String :=
  if (String.Pos.Raw.mk offset).isValid text then some ((String.Pos.Raw.mk offset).extract text text.rawEndPos)
  else none

/-- A text up to a byte offset, unless the offset is inside a letter or behind the end. -/
def sliceTo? (text : String) (offset : Nat) : Option String :=
  if (String.Pos.Raw.mk offset).isValid text then some ((String.Pos.Raw.mk 0).extract text (.mk offset))
  else none

/-- The byte offset of the first letter that passes a test. -/
def offset? (test : Char → Bool) (text : String) : Option Nat :=
  if text.toList.any test then some (String.ofList (text.toList.takeWhile fun c => !test c)).utf8ByteSize
  else none

/-- The name at the head of an aggregate's body, cut off at the byte offset of what ends it. -/
def slicedName? (close : Char) (body : String) : Option (Option String) :=
  match offset? (fun c => c = '=' || c = close) body with
  | none => some none
  | some stop => (sliceTo? body stop).map fun name => if name = "" ∨ name = "?" then none else some name

/-- The identifier of an encoding as it is read by byte offsets. There is no answer if a slice were to begin or to
end inside a letter. -/
def slicedIdentifier? (signature : String) : Option (Option String) :=
  match (skipQualifiers signature).toList with
  | '^' :: bracket :: rest =>
    match closing? bracket with
    | none => some none
    | some close => (sliceFrom? (String.ofList (bracket :: rest)) 1).bind (slicedName? close)
  | _ => some none

theorem isValid_append (front rest : String) :
    (String.Pos.Raw.mk front.utf8ByteSize).isValid (front ++ rest) = true :=
  String.Pos.Raw.isValid_eq_true_iff.mpr (String.Pos.Raw.isValid_append.mpr (.inl String.Pos.Raw.isValid_rawEndPos))

/-- Offsets count bytes, so a slice between two of them gives back what was put there. -/
theorem extract_append (front middle rest : String) :
    (String.Pos.Raw.mk front.utf8ByteSize).extract (front ++ (middle ++ rest))
      ⟨front.utf8ByteSize + middle.utf8ByteSize⟩ = middle := by
  unfold String.Pos.Raw.extract
  dsimp only
  split
  next hNothing =>
    have hEmpty : middle.utf8ByteSize = 0 := by omega
    exact (String.utf8ByteSize_eq_zero_iff.mp hEmpty).symm
  next =>
    rw [← String.toList_inj, String.toList_ofList, String.toList_append, String.toList_append]
    have hSkipped := String.Pos.Raw.extract.go₁_append_right front.toList (middle.toList ++ rest.toList) 0
      front.utf8ByteSize ⟨front.utf8ByteSize + middle.utf8ByteSize⟩ (by rw [String.utf8Len_toList, Nat.add_zero])
    have hTaken := String.Pos.Raw.extract.go₂_append_left middle.toList rest.toList front.utf8ByteSize
      (front.utf8ByteSize + middle.utf8ByteSize) (by rw [String.utf8Len_toList, Nat.add_comm])
    exact hSkipped.trans hTaken

theorem sliceFrom?_append (front rest : String) : sliceFrom? (front ++ rest) front.utf8ByteSize = some rest := by
  have hExtract := extract_append front rest ""
  have hEnd : (front ++ rest).rawEndPos = ⟨front.utf8ByteSize + rest.utf8ByteSize⟩ := by
    rw [String.rawEndPos, String.utf8ByteSize_append]
  rw [String.append_empty, ← hEnd] at hExtract
  rw [sliceFrom?, if_pos (isValid_append front rest), hExtract]

theorem sliceTo?_append (front rest : String) : sliceTo? (front ++ rest) front.utf8ByteSize = some front := by
  have hExtract := extract_append "" front rest
  rw [String.empty_append, String.utf8ByteSize_empty, Nat.zero_add] at hExtract
  rw [sliceTo?, if_pos (isValid_append front rest), hExtract]

/-- The offset of a character is the length in bytes of what stands before it. -/
theorem offset?_ofList (test : Char → Bool) (body : List Char) : offset? test (String.ofList body) =
    if (body.takeWhile fun c => !test c).length = body.length then none
    else some (String.ofList (body.takeWhile fun c => !test c)).utf8ByteSize := by
  have hWhole : (body.takeWhile fun c => !test c).length = body.length ↔ ¬ body.any test = true := by
    have hSame : (body.takeWhile fun c => !test c).length = body.length ↔
        (body.takeWhile fun c => !test c) = body :=
      ⟨(List.takeWhile_prefix _).eq_of_length, congrArg List.length⟩
    rw [hSame, List.takeWhile_eq_self_iff]
    simp
  rw [offset?, String.toList_ofList]
  by_cases hAny : body.any test = true
  · rw [if_pos hAny, if_neg fun hSame => hWhole.mp hSame hAny]
  · rw [if_neg hAny, if_pos (hWhole.mpr hAny)]

/-- Slicing by bytes reads the same name as going through the characters. -/
theorem slicedName?_eq (close : Char) (body : List Char) :
    slicedName? close (String.ofList body) = some ((name? close body).map String.ofList) := by
  have hTest : (fun c => !(c = '=' || c = close : Bool)) = fun c => c ≠ '=' && c ≠ close := by
    funext c
    simp
  have hSplit := List.takeWhile_append_dropWhile (p := fun c => c ≠ '=' && c ≠ close) (l := body)
  rw [slicedName?, offset?_ofList, hTest, name?]
  generalize body.takeWhile (fun c => c ≠ '=' && c ≠ close) = name at hSplit ⊢
  have hEmpty : String.ofList name = "" ↔ name = [] := by rw [← String.toList_inj]; simp
  have hUnnamed : String.ofList name = "?" ↔ name = ['?'] := by rw [← String.toList_inj]; simp
  by_cases hWhole : name.length = body.length
  · simp [hWhole]
  · rw [if_neg hWhole]
    dsimp only
    rw [← hSplit, String.ofList_append, sliceTo?_append, hSplit]
    simp only [Option.map_some, hEmpty, hUnnamed, hWhole, decide_false, Bool.false_or, Bool.or_eq_true,
      decide_eq_true_eq]
    split <;> rfl

/-- No letter is cut in two, and the identifier is the same. -/
theorem slicedIdentifier?_eq (signature : String) : slicedIdentifier? signature = some (identifier? signature) := by
  rw [slicedIdentifier?, skipQualifiers, identifier?, String.toList_ofList]
  generalize signature.toList.dropWhile isQualifier = letters
  split
  next bracket rest =>
    change _ = some (((closing? bracket).bind (name? · rest)).map String.ofList)
    cases hClose : closing? bracket with
    | none => rfl
    | some close =>
      have hSize : bracket.toString.utf8ByteSize = 1 := by
        rcases closing?_eq_some_iff.mp hClose with ⟨rfl, _⟩ | ⟨rfl, _⟩ <;> rfl
      have hBody : String.ofList (bracket :: rest) = bracket.toString ++ String.ofList rest :=
        String.toList_inj.mp (by simp)
      dsimp only
      rw [hBody, ← hSize, sliceFrom?_append, Option.bind_some, Option.bind_some]
      exact slicedName?_eq close rest
  next hOther =>
    have hNone : pointee? letters = none := by
      unfold pointee?
      split
      next bracket rest => exact absurd rfl (hOther bracket rest)
      next => rfl
    rw [hNone]
    rfl

/-- Exactly the texts of the grammar are accepted: an encoding stands for a name just when it has a reading with
that name, a text has at most one, and to find it by byte offsets cuts no letter of any script in two. So the
encoding of an identifier, with qualifiers in front and any text behind, stands for it just when it is a name
without an equals sign or closing bracket; and of an encoding just the qualifiers in front are skipped, all of
them. -/
theorem grammar_exact :
    (∀ signature name, identifier? signature = some name ↔ Reads signature name) ∧
    (∀ signature name other, Reads signature name → Reads signature other → name = other) ∧
    (∀ signature, slicedIdentifier? signature = some (identifier? signature)) ∧
    (∀ qualifiers identifier rest, (∀ c ∈ qualifiers.toList, c ∈ "rnNoORV".toList) →
      (identifier? (qualifiers ++ ofIdentifier identifier ++ rest) = some identifier ↔
        identifier ≠ "" ∧ identifier ≠ "?" ∧ '=' ∉ identifier.toList ∧ '\x7d' ∉ identifier.toList)) ∧
    (∀ signature, ∃ front, signature = front ++ skipQualifiers signature ∧
      (∀ c ∈ front.toList, c ∈ "rnNoORV".toList) ∧
      ∀ longer rest, signature = longer ++ rest → (∀ c ∈ longer.toList, c ∈ "rnNoORV".toList) →
        longer.toList <+: front.toList) := by
  refine ⟨fun _ _ => identifier?_eq_some_iff, fun _ _ _ hName hOther => hName.unique hOther, slicedIdentifier?_eq,
    ?_, exists_skipQualifiers⟩
  intro qualifiers identifier rest hQualifiers
  exact identifier?_ofIdentifier_eq_some_iff hQualifiers rest

example : slicedIdentifier? "r^(Währung=iq)" = some (some "Währung") := by decide

end HeapBridge.TypeEncoding
