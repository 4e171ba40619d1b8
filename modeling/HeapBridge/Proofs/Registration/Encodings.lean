import Mathlib.Data.List.TakeWhile
import HeapBridge.Proofs.Registration.Installation
/-!
Encodings of registered identifiers. The registry takes every text that is not empty and has no NUL, but the
encoding of a pointer ends the name of what it points to at the first equals sign or closing bracket, and a
question mark stands for no name. So an identifier is reached through its encoding just when it has neither
and is not a question mark; any other registered identifier is never what its encoding stands for.
-/
namespace HeapBridge

open Host (Ref)
open Session TypeEncoding

variable {qualifiers identifier : String} {commands : List Command} {session : Session}

namespace TypeEncoding

/-- The letters of a name that stand before the first equals sign or closing bracket. -/
def stem (name : List Char) : List Char := name.takeWhile fun c => c ≠ '=' && c ≠ '\x7d'

/-- The part of an identifier that its encoding carries, unless that is no name. -/
def carried? (identifier : String) : Option String :=
  if stem identifier.toList = [] ∨ stem identifier.toList = ['?'] then none
  else some (String.ofList (stem identifier.toList))

/-- An identifier that its encoding carries as a whole. -/
def IsCarried (identifier : String) : Prop :=
  '=' ∉ identifier.toList ∧ '\x7d' ∉ identifier.toList ∧ identifier ≠ "?"

instance : DecidablePred IsCarried := fun _ => inferInstanceAs (Decidable (_ ∧ _ ∧ _))

/-- Names stand for themselves up to the characters that end one. -/
theorem stem_eq_self_iff {name : List Char} : stem name = name ↔ '=' ∉ name ∧ '\x7d' ∉ name := by
  rw [stem, List.takeWhile_eq_self_iff]
  constructor
  · intro hAll
    exact ⟨fun hMem => by simpa using hAll _ hMem, fun hMem => by simpa using hAll _ hMem⟩
  · rintro ⟨hEquals, hClose⟩ c hMem
    have hOther : c ≠ '=' ∧ c ≠ '\x7d' :=
      ⟨fun hSame => hEquals (hSame ▸ hMem), fun hSame => hClose (hSame ▸ hMem)⟩
    simpa using hOther

/-- An equals sign ends a name, whatever follows. -/
theorem takeWhile_append_equals (name rest : List Char) :
    (name ++ '=' :: rest).takeWhile (fun c => c ≠ '=' && c ≠ '\x7d') = stem name := by
  rw [List.takeWhile_append]
  split
  next hWhole =>
    have hSelf : stem name = name := (List.takeWhile_prefix _).eq_of_length hWhole
    rw [hSelf]
    simp
  next => rfl

/-- What an object encoding carries is what stands before the first equals sign. -/
theorem name?_append (name rest : List Char) :
    name? '\x7d' (name ++ '=' :: rest) =
      if stem name = [] ∨ stem name = ['?'] then none else some (stem name) := by
  have hShorter : (stem name).length ≠ (name ++ '=' :: rest).length := by
    have hLength : (stem name).length ≤ name.length := (List.takeWhile_prefix _).length_le
    simp only [List.length_append, List.length_cons]
    omega
  rw [name?, takeWhile_append_equals]
  simp only [hShorter, decide_false, Bool.false_or, Bool.or_eq_true, decide_eq_true_eq]

/-- Qualifiers in front are skipped; nothing of the encoding proper is. -/
theorem dropWhile_qualifiers {front : List Char} (hFront : ∀ c ∈ front, isQualifier c = true)
    (rest : List Char) : (front ++ '^' :: rest).dropWhile isQualifier = '^' :: rest := by
  rw [List.dropWhile_append_of_pos hFront]
  exact List.dropWhile_cons_of_neg (by decide)

/-- The encoding of an identifier, with qualifiers in front and text behind, stands for the part that it
carries. -/
theorem identifier?_ofIdentifier (hQualifiers : ∀ c ∈ qualifiers.toList, isQualifier c = true)
    (identifier behind : String) :
    identifier? (qualifiers ++ ofIdentifier identifier ++ behind) = carried? identifier := by
  have hText : (qualifiers ++ ofIdentifier identifier ++ behind).toList =
      qualifiers.toList ++
        '^' :: '\x7b' :: (identifier.toList ++ '=' :: '\x7d' :: behind.toList) := by
    simp [ofIdentifier]
  rw [identifier?, hText, dropWhile_qualifiers hQualifiers]
  change (name? '\x7d' (identifier.toList ++ '=' :: '\x7d' :: behind.toList)).map String.ofList = _
  rw [name?_append, carried?]
  split <;> rfl

/-- An identifier is carried whole if it has none of the characters that end a name. -/
theorem carried?_eq_self_iff (hProper : identifier ≠ "") :
    carried? identifier = some identifier ↔ IsCarried identifier := by
  have hStem : String.ofList (stem identifier.toList) = identifier ↔
      '=' ∉ identifier.toList ∧ '\x7d' ∉ identifier.toList := by
    rw [← stem_eq_self_iff, ← String.toList_inj, String.toList_ofList]
  constructor
  · intro hCarried
    unfold carried? at hCarried
    split at hCarried
    next => cases hCarried
    next hName =>
      obtain ⟨hEquals, hClose⟩ := hStem.mp (Option.some.inj hCarried)
      refine ⟨hEquals, hClose, ?_⟩
      rintro rfl
      exact hName (.inr rfl)
  · rintro ⟨hEquals, hClose, hNamed⟩
    have hSelf := stem_eq_self_iff.mpr ⟨hEquals, hClose⟩
    rw [carried?, hSelf, if_neg, String.ofList_toList]
    rintro (hEmpty | hUnnamed)
    · exact hProper (String.toList_inj.mp hEmpty)
    · exact hNamed (String.toList_inj.mp hUnnamed)

end TypeEncoding

namespace Session

/-- In a session that ends with a working registry its attempts are all that has happened to it. -/
theorem registers_performAll_of_alive
    (hAlive : (performAll commands session).2.world.registry.poisoned = false) :
    Registers (attempts commands session) session.world (performAll commands session).2.world := by
  induction commands generalizing session with
  | nil => exact .of_eq rfl
  | cons command rest ih =>
    have hAfter : (perform command session).2.world.registry.poisoned = false := by
      by_contra hPoisoned
      have hStill := (poisoned_performAll (Bool.of_not_eq_false hPoisoned) rest).2
      exact Bool.false_ne_true (hAlive.symm.trans hStill)
    have hFirst : Registers (command.attempts session) session.world
        (perform command session).2.world := by
      cases hPoison : command.isPoison with
      | false => exact registers_perform hPoison session
      | true =>
        obtain ⟨typeId, rfl⟩ : ∃ typeId, command = .wrapper (.poison typeId) := by
          unfold Command.isPoison at hPoison
          split at hPoison
          next typeId => exact ⟨typeId, rfl⟩
          next => cases hPoison
        refine .of_eq ((registry_perform_poison typeId session).resolve_right fun hRegistry => ?_)
        rw [hRegistry] at hAfter
        cases hAfter
    exact hFirst.trans (ih hAlive)

end Session

/-- What an attempt has bound that went through stays bound, whatever is attempted later. -/
theorem Bindings.first_of_verdict {earlier : List Attempt} {wrapper : PointerWrapper}
    (hVerdict : (first earlier).verdict (.ok wrapper) = .ok ()) (later : List Attempt) :
    first (earlier ++ .ok wrapper :: later) wrapper.typeId = some wrapper := by
  have hFree : first earlier wrapper.typeId = none := by
    rw [verdict] at hVerdict
    split at hVerdict
    next => cases hVerdict
    next hNone => exact hNone
  rw [first_append, hFree, Option.none_or]
  simp [first, Except.toOption, Option.filter]

/-- Whatever is done, only proper identifiers get into the table. -/
theorem Moves.identifiers {may : Deed → Prop} {start finish : Account} (moves : Moves may start finish)
    (hStart : start.world.registry.All fun wrapper => isIdentifier wrapper.typeId = true) :
    finish.world.registry.All fun wrapper => isIdentifier wrapper.typeId = true := by
  induction moves with
  | refl => exact hStart
  | step _ last ih =>
    cases last with
    | host change => rwa [change.cursors_registry.2]
    | drop address _ => rwa [(World.aside_dropNative address _).2.2]
    | register wrapper _ hInsert =>
      rename_i middle registry
      obtain rfl := Registry.insert_eq_ok hInsert
      have hProper : isIdentifier wrapper.typeId = true := by
        unfold Registry.insert at hInsert
        split at hInsert
        next => cases hInsert
        next hProper => simpa using hProper
      intro other hOther
      rcases List.mem_append.mp hOther with hOld | hNew
      · exact ih other hOld
      · rwa [List.mem_singleton.mp hNew]
    | _ => exact ih

/-- Whatever a session registers has an identifier that could be registered. -/
theorem Session.identifiers_performAll (commands : List Command)
    (hSession : session.world.registry.All fun wrapper => isIdentifier wrapper.typeId = true) :
    (performAll commands session).2.world.registry.All fun wrapper =>
      isIdentifier wrapper.typeId = true := by
  induction commands generalizing session with
  | nil => exact hSession
  | cons command rest ih =>
    obtain ⟨start, finish, hStart, hFinish, hMoves⟩ := exists_moves_perform command session
    have hRegistry : start.world.registry = session.world.registry := by rw [hStart, registry_forget]
    exact ih (hFinish ▸ hMoves.identifiers (hRegistry ▸ hSession))

/-- A wrapper is reached through an encoding: the encoding is described by the name of the wrapper, and to
convert by the encoding is to convert by the identifier, in every world and by every way in. -/
structure World.Reaches (world : World) (signature : String) (wrapper : PointerWrapper) : Prop where
  describes : world.describe signature = some wrapper.name
  toHost : ∀ pointer, toHostFor signature pointer = HeapBridge.toHost wrapper.typeId pointer
  fromHost : ∀ value, fromHostFor signature value = HeapBridge.fromHost wrapper.typeId value
  performed : ∀ session,
    (∀ pointer result, perform (.wrapper (.toHostFor signature pointer result)) session =
      perform (.wrapper (.toHost wrapper.typeId pointer result)) session) ∧
    ∀ value, perform (.wrapper (.fromHostFor signature value)) session =
      perform (.wrapper (.fromHost wrapper.typeId value)) session

/-- An encoding that stands for the identifier of a registered wrapper reaches it. -/
theorem World.reaches {world : World} {signature : String} {wrapper : PointerWrapper}
    (hIdentifier : TypeEncoding.identifier? signature = some wrapper.typeId)
    (hLookup : world.registry.lookup wrapper.typeId = .ok wrapper) : world.Reaches signature wrapper := by
  have hToHost (pointer : Pointer) :
      toHostFor signature pointer = HeapBridge.toHost wrapper.typeId pointer := by
    rw [toHostFor, identifierOf, hIdentifier]
    rfl
  have hFromHost (value : Ref) :
      fromHostFor signature value = HeapBridge.fromHost wrapper.typeId value := by
    rw [fromHostFor, identifierOf, hIdentifier]
    rfl
  refine ⟨?_, hToHost, hFromHost, fun session => ⟨fun pointer result => ?_, fun value => ?_⟩⟩
  · rw [World.describe, hIdentifier]
    dsimp only
    rw [hLookup]
  · simp only [perform, Command.run, WrapperCommand.run, hToHost]
  · have hConverters : fromHostFor signature = HeapBridge.fromHost wrapper.typeId := funext hFromHost
    simp only [perform, Command.run, WrapperCommand.run, hConverters]

namespace Session

/-- In every session with a working registry, a wrapper whose registration went through is reached through
the encoding of its identifier, whatever qualifiers stand in front and whatever stands behind, if the encoding
carries the identifier. If it does not, then the encoding stands for the part that it carries, and never for
the identifier. -/
theorem encodings_reach {earlier later : List Attempt} {wrapper : PointerWrapper}
    (hAlive : (performAll commands {}).2.world.registry.poisoned = false)
    (hAttempt : attempts commands {} = earlier ++ .ok wrapper :: later)
    (hVerdict : (Bindings.first earlier).verdict (.ok wrapper) = .ok ())
    (hQualifiers : ∀ c ∈ qualifiers.toList, TypeEncoding.isQualifier c = true) (behind : String) :
    let world := (performAll commands {}).2.world
    let signature := qualifiers ++ TypeEncoding.ofIdentifier wrapper.typeId ++ behind
    (TypeEncoding.IsCarried wrapper.typeId → world.Reaches signature wrapper) ∧
      (¬ TypeEncoding.IsCarried wrapper.typeId →
        TypeEncoding.identifier? signature = TypeEncoding.carried? wrapper.typeId ∧
          TypeEncoding.carried? wrapper.typeId ≠ some wrapper.typeId) := by
  intro world signature
  have hServes := registers_performAll_of_alive hAlive [] .empty
  rw [List.nil_append] at hServes
  have hLookup : world.registry.lookup wrapper.typeId = .ok wrapper := by
    rw [hServes.lookup, hAttempt, Bindings.first_of_verdict hVerdict]
  have hProper : wrapper.typeId ≠ "" := by
    have hIdentifier : isIdentifier wrapper.typeId = true :=
      identifiers_performAll commands (by exact nofun) _ (Registry.mem_of_lookup hLookup).1
    intro hEmpty
    rw [hEmpty] at hIdentifier
    cases hIdentifier
  have hStands := TypeEncoding.identifier?_ofIdentifier hQualifiers wrapper.typeId behind
  refine ⟨fun hCarried => ?_, fun hCut => ⟨hStands, mt (carried?_eq_self_iff hProper).mp hCut⟩⟩
  exact World.reaches (hStands.trans ((carried?_eq_self_iff hProper).mpr hCarried)) hLookup

/-- A type whose name no plain text would have, registered from within a conversion after a writer has died
over an improper identifier. -/
def oddRegistration : List Command :=
  [.wrapper (.register "T" "T" (.register "\x7bé?^ ") .number), .wrapper (.poison ""),
    .wrapper (.toHost "T" .null none), .wrapper (.registerBorrowing "\x7bé?^ " "late")]

theorem encodings_reach_oddRegistration :
    (performAll oddRegistration {}).2.world.registry.poisoned = false ∧
      TypeEncoding.IsCarried "\x7bé?^ " ∧
      (performAll oddRegistration {}).2.world.Reaches
        ("rN" ++ TypeEncoding.ofIdentifier "\x7bé?^ " ++ "16=\x7d") (.borrowing "\x7bé?^ " "Nested") := by
  have hAlive : (performAll oddRegistration {}).2.world.registry.poisoned = false := by
    decide +kernel
  have hCarried : TypeEncoding.IsCarried "\x7bé?^ " := by decide +kernel
  have hAttempts : attempts oddRegistration {} =
      [.ok ⟨"T", "T", .register "\x7bé?^ ", .number⟩] ++
        .ok (.borrowing "\x7bé?^ " "Nested") :: [.ok (.borrowing "\x7bé?^ " "late")] := by
    decide +kernel
  have hQualifiers : ∀ c ∈ "rN".toList, TypeEncoding.isQualifier c = true := by
    simp [TypeEncoding.isQualifier]
  exact ⟨hAlive, hCarried,
    (encodings_reach hAlive hAttempts (by decide) hQualifiers "16=\x7d").1 hCarried⟩

/-- An identifier with an equals sign is registered, and its encoding stands for another. -/
theorem equals_not_reached :
    let session := (performAll [.wrapper (.registerBorrowing "a=b" "N")] {}).2
    attempts [.wrapper (.registerBorrowing "a=b" "N")] {} = [.ok (.borrowing "a=b" "N")] ∧
      session.world.registry.poisoned = false ∧
      session.world.registry.lookup "a=b" = .ok (.borrowing "a=b" "N") ∧
      session.world.describe (TypeEncoding.ofIdentifier "a=b") = none ∧
      ((toHostFor (TypeEncoding.ofIdentifier "a=b") .null).run.run session.world).1 =
        .error (.unknownType "a") ∧
      ((toHost "a=b" .null).run.run session.world).1 = .ok .nil := by
  decide +kernel

end Session

end HeapBridge
