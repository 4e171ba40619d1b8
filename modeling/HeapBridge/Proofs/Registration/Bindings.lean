import Mathlib.Data.List.Nodup
import Mathlib.Data.String.Basic
import Mathlib.Logic.Function.Basic
import HeapBridge.Conversion
/-!
Bindings. The registry is a map from identifiers to wrappers in which the first well-formed attempt to
bind an identifier stands: attempts that are not well formed are rejected for what is wrong with them,
later ones as duplicates, and neither changes anything.
-/
namespace HeapBridge

/-- An attempt to register: the wrapper if it is well formed, or why it is not. -/
abbrev Attempt := Except BridgeError PointerWrapper

def PointerWrapper.attempt (wrapper : PointerWrapper) : Attempt :=
  if isIdentifier wrapper.typeId then .ok wrapper else .error (.invalidIdentifier wrapper.typeId)

/-- What is bound to identifiers. -/
abbrev Bindings := String → Option PointerWrapper

namespace Bindings

variable {bindings : Bindings} {typeId : String}

/-- What an attempt comes to. -/
def verdict (bindings : Bindings) : Attempt → Except BridgeError Unit
  | .ok wrapper =>
    match bindings wrapper.typeId with
    | some _ => .error (.duplicateWrapper wrapper.typeId)
    | none => .ok ()
  | .error error => .error error

def bind (bindings : Bindings) : Attempt → Bindings
  | .ok wrapper =>
    match bindings wrapper.typeId with
    | some _ => bindings
    | none => Function.update bindings wrapper.typeId (some wrapper)
  | .error _ => bindings

/-- What the first well-formed attempt in a history binds to each identifier. -/
def first (history : List Attempt) : Bindings := fun typeId =>
  history.findSome? fun attempt => attempt.toOption.filter fun wrapper => wrapper.typeId = typeId

theorem first_append (history attempts : List Attempt) (typeId : String) :
    first (history ++ attempts) typeId = (first history typeId).or (first attempts typeId) := by
  simp only [first, List.findSome?_append]

/-- An attempt that is rejected changes nothing. -/
theorem bind_of_verdict {attempt : Attempt} {error : BridgeError}
    (hVerdict : bindings.verdict attempt = .error error) : bindings.bind attempt = bindings := by
  cases attempt with
  | error => rfl
  | ok wrapper =>
    cases hBound : bindings wrapper.typeId with
    | some bound => simp only [bind, hBound]
    | none => simp [verdict, hBound] at hVerdict

/-- One more attempt binds what the attempts before it have left free. -/
theorem bind_first (history : List Attempt) (attempt : Attempt) :
    (first history).bind attempt = first (history ++ [attempt]) := by
  funext typeId
  rw [first_append]
  cases attempt with
  | error error =>
    change first history typeId = (first history typeId).or none
    rw [Option.or_none]
  | ok wrapper =>
    have hOne : first [.ok wrapper] typeId =
        if wrapper.typeId = typeId then some wrapper else none := by
      by_cases hSame : wrapper.typeId = typeId <;> simp [first, Except.toOption, Option.filter, hSame]
    rw [hOne]
    cases hBound : first history wrapper.typeId with
    | some bound =>
      simp only [bind, hBound]
      by_cases hSame : wrapper.typeId = typeId
      · rw [← hSame, hBound]
        rfl
      · rw [if_neg hSame, Option.or_none]
    | none =>
      simp only [bind, hBound]
      by_cases hSame : wrapper.typeId = typeId
      · rw [← hSame, Function.update_self, hBound, if_pos rfl, Option.none_or]
      · rw [Function.update_of_ne (Ne.symm hSame), if_neg hSame, Option.or_none]

end Bindings

namespace Text.Utf8

variable {m n : Nat}

/-- A smaller code point has smaller bytes, whatever follows. -/
theorem encodeCode_append_lt (hLess : m < n) (rest others : List Nat) :
    encodeCode m ++ rest < encodeCode n ++ others := by
  unfold encodeCode
  split_ifs <;> simp only [List.cons_append, List.nil_append, List.cons_lt_cons_iff] <;> omega

/-- Texts are ordered as their bytes are. -/
theorem encode_lt {text other : List Char} (hLess : text < other) : encode text < encode other := by
  induction text generalizing other with
  | nil =>
    cases other with
    | nil => exact absurd hLess (lt_irrefl _)
    | cons c rest =>
      have hBytes : ∃ first others, encodeCode c.toNat ++ encode rest = first :: others := by
        unfold encodeCode
        split_ifs <;> simp
      obtain ⟨first, others, hBytes⟩ := hBytes
      change [] < encodeCode c.toNat ++ encode rest
      rw [hBytes]
      exact List.nil_lt_cons first others
  | cons c rest ih =>
    cases other with
    | nil => exact absurd hLess (List.not_lt_nil _)
    | cons d others =>
      rcases List.cons_lt_cons_iff.mp hLess with hFirst | ⟨rfl, hRest⟩
      · exact encodeCode_append_lt hFirst _ _
      · exact List.append_left_lt (ih hRest)

end Text.Utf8

/-- The bytewise order of texts. -/
def BytesBelow (text other : String) : Prop :=
  Text.Utf8.encode text.toList < Text.Utf8.encode other.toList

theorem bytesBelow_of_lt {text other : String} (hLess : text < other) : BytesBelow text other :=
  Text.Utf8.encode_lt (String.lt_iff_toList_lt.mp hLess)

namespace Registry

variable {registry : Registry} {bindings : Bindings} {text other : String} {texts : List String}

theorem textBelow_iff : textBelow text other = true ↔ text ≤ other := by
  rw [textBelow, Bool.not_eq_true', decide_eq_false_iff_not, not_lt]

theorem mem_insertSorted : other ∈ insertSorted text texts ↔ other = text ∨ other ∈ texts := by
  induction texts with
  | nil => simp [insertSorted]
  | cons first rest ih =>
    unfold insertSorted
    split
    · simp
    · simp only [List.mem_cons, ih, or_left_comm]

/-- Identifiers stay in order as one is added. -/
theorem pairwise_insertSorted (hNew : text ∉ texts) (hSorted : texts.Pairwise (· < ·)) :
    (insertSorted text texts).Pairwise (· < ·) := by
  induction texts with
  | nil => simp [insertSorted]
  | cons first rest ih =>
    obtain ⟨hFirst, hRest⟩ := List.pairwise_cons.mp hSorted
    obtain ⟨hOther, hNew⟩ := not_or.mp (mt List.mem_cons.mpr hNew)
    unfold insertSorted
    split
    next hBelow =>
      have hLess : text < first := lt_of_le_of_ne (textBelow_iff.mp hBelow) hOther
      exact List.pairwise_cons.mpr ⟨fun found hFound => by
        rcases List.mem_cons.mp hFound with rfl | hFound
        · exact hLess
        · exact hLess.trans (hFirst found hFound), hSorted⟩
    next hAbove =>
      have hLess : first < text := not_le.mp (mt textBelow_iff.mpr hAbove)
      refine List.pairwise_cons.mpr ⟨fun found hFound => ?_, ih hNew hRest⟩
      rcases mem_insertSorted.mp hFound with rfl | hFound
      · exact hLess
      · exact hFirst found hFound

/-- Different texts sorted are the same texts in increasing order. -/
theorem sorted_foldr (hDistinct : texts.Nodup) :
    (texts.foldr insertSorted []).Pairwise (· < ·) ∧
      ∀ text, text ∈ texts.foldr insertSorted [] ↔ text ∈ texts := by
  induction texts with
  | nil => exact ⟨List.Pairwise.nil, fun _ => Iff.rfl⟩
  | cons first rest ih =>
    obtain ⟨hFirst, hRest⟩ := List.nodup_cons.mp hDistinct
    obtain ⟨hSorted, hMem⟩ := ih hRest
    refine ⟨pairwise_insertSorted (mt (hMem first).mp hFirst) hSorted, fun text => ?_⟩
    rw [List.foldr_cons, mem_insertSorted, hMem, List.mem_cons]

/-- Whether a registry that works serves these bindings. -/
structure Serves (registry : Registry) (bindings : Bindings) : Prop where
  alive : registry.poisoned = false
  distinct : (registry.wrappers.map (·.typeId)).Nodup
  bound : ∀ typeId, registry.find? typeId = bindings typeId
  /-- An installation of the built-in wrappers cannot have failed. -/
  installed : ∀ outcome, registry.builtins = some outcome → outcome = .ok ()

namespace Serves

theorem empty : Serves {} fun _ => none :=
  ⟨rfl, List.nodup_nil, fun _ => rfl, nofun⟩

/-- Whoever looks for an identifier finds what is bound to it. -/
theorem lookup (hServes : registry.Serves bindings) (typeId : String) :
    registry.lookup typeId =
      match bindings typeId with
      | some wrapper => .ok wrapper
      | none => .error (.unknownType typeId) := by
  rw [Registry.lookup, hServes.alive, hServes.bound]
  rfl

/-- The listing of a registry has just what is bound, in increasing order. -/
theorem typeIds (hServes : registry.Serves bindings) :
    ∃ ids, registry.typeIds = .ok ids ∧ ids.Pairwise BytesBelow ∧
      ∀ typeId, typeId ∈ ids ↔ (bindings typeId).isSome = true := by
  obtain ⟨hSorted, hMem⟩ := sorted_foldr hServes.distinct
  refine ⟨_, if_neg (by simp [hServes.alive]), hSorted.imp bytesBelow_of_lt, fun typeId => ?_⟩
  rw [hMem, ← hServes.bound, Registry.find?, List.find?_isSome]
  simp [List.mem_map]

/-- Whether a registration goes through is told by the bindings. -/
theorem insert (hServes : registry.Serves bindings) (wrapper : PointerWrapper) :
    registry.insert wrapper = (bindings.verdict wrapper.attempt).map fun _ => registry.push wrapper := by
  rw [Registry.insert, hServes.alive, hServes.bound, PointerWrapper.attempt]
  cases isIdentifier wrapper.typeId with
  | false => rfl
  | true =>
    simp only [Bool.not_true, Bool.false_eq_true, if_false, if_true, Bindings.verdict]
    cases bindings wrapper.typeId <;> rfl

/-- A wrapper that is accepted is served from then on. -/
theorem push {wrapper : PointerWrapper} (hServes : registry.Serves bindings)
    (hVerdict : bindings.verdict wrapper.attempt = .ok ()) :
    (registry.push wrapper).Serves (bindings.bind wrapper.attempt) := by
  have hFree : wrapper.attempt = .ok wrapper ∧ bindings wrapper.typeId = none := by
    unfold PointerWrapper.attempt at hVerdict ⊢
    split at hVerdict
    next hIdentifier =>
      refine ⟨if_pos hIdentifier, ?_⟩
      simp only [Bindings.verdict] at hVerdict
      cases hBound : bindings wrapper.typeId with
      | none => rfl
      | some bound => simp [hBound] at hVerdict
    next => cases hVerdict
  obtain ⟨hAttempt, hFree⟩ := hFree
  have hNew : wrapper.typeId ∉ registry.wrappers.map (·.typeId) := by
    have hNone := (hServes.bound wrapper.typeId).trans hFree
    rw [Registry.find?, List.find?_eq_none] at hNone
    simpa using hNone
  refine ⟨hServes.alive, ?_, fun typeId => ?_, hServes.installed⟩
  · rw [Registry.push, List.map_append, List.map_cons, List.map_nil, ← List.concat_eq_append]
    exact hServes.distinct.concat hNew
  · have hBind : bindings.bind wrapper.attempt =
        Function.update bindings wrapper.typeId (some wrapper) := by
      simp only [hAttempt, Bindings.bind, hFree]
    have hFind := hServes.bound typeId
    rw [Registry.find?] at hFind
    rw [hBind, Registry.find?, Registry.push, List.find?_append, hFind]
    by_cases hSame : wrapper.typeId = typeId
    · rw [← hSame, hFree, Function.update_self]
      simp
    · rw [Function.update_of_ne (Ne.symm hSame)]
      simp [hSame]

end Serves

end Registry

end HeapBridge
