import HeapBridge.Proofs.Boundary.Blindness
import HeapBridge.Proofs.Texts.Quoting
/-!
What the last error has to say of identifiers that are rejected. Such an identifier is empty or has a NUL in it, with
which the message would not be kept; so the message quotes it, and whoever reads the last error can tell from it
which identifier it was.
-/
namespace HeapBridge

open Text Text.Quoted

variable {typeId : String}

/-- The identifier that a message tells of as rejected. -/
def rejectedIdentifier? (message : String) : Option String :=
  unquote? (String.ofList (message.toList.drop "invalid pointer type identifier: ".length))

theorem drop_toList_append (front text : String) : (front ++ text).toList.drop front.length = text.toList := by
  rw [String.toList_append, ← String.length_toList, List.drop_left]

theorem rejectedIdentifier?_message (typeId : String) :
    rejectedIdentifier? (BridgeError.invalidIdentifier typeId).message = some typeId := by
  have hQuoted : (BridgeError.invalidIdentifier typeId).message.toList.drop
      "invalid pointer type identifier: ".length = (quote typeId).toList :=
    drop_toList_append _ _
  rw [rejectedIdentifier?, hQuoted, String.ofList_toList, unquote?_quote]

/-- Rejected identifiers come quoted, so nothing in the message breaks a line or goes unseen. -/
theorem isPrintable_of_mem_rejection {c : Char}
    (hMem : c ∈ (BridgeError.invalidIdentifier typeId).message.toList) : isPrintable c.toNat = true := by
  have hFront : "invalid pointer type identifier: ".toList.all (isPrintable ·.toNat) = true := by decide
  change c ∈ ("invalid pointer type identifier: " ++ quote typeId).toList at hMem
  rw [String.toList_append, List.mem_append] at hMem
  rcases hMem with hLeading | hQuoted
  · exact List.all_eq_true.mp hFront c hLeading
  · exact isPrintable_of_mem_quote hQuoted

theorem hasNul_rejection (typeId : String) : hasNul (BridgeError.invalidIdentifier typeId).message = false := by
  rw [hasNul, List.contains_eq_mem, decide_eq_false_iff_not]
  exact fun hNul => absurd (isPrintable_of_mem_rejection hNul) (by decide)

/-- A rejected identifier is told without loss, whatever is in it: the message stays as the last error, has no NUL
and no line break in it, and the identifier is read back from it, so that no two identifiers have one message. -/
theorem rejections_lossless :
    (∀ (world : World) (thread : Thread) (typeId : String),
      let message := (BridgeError.invalidIdentifier typeId).message
      (world.setLastError thread message).lastError? thread = some message ∧ message ≠ "" ∧
        (∀ c ∈ message.toList, c ≠ '\x00' ∧ c ∉ lineBreaks) ∧ rejectedIdentifier? message = some typeId) ∧
    Function.Injective fun typeId => (BridgeError.invalidIdentifier typeId).message := by
  refine ⟨fun world thread typeId => ⟨?_, ?_, fun c hMem => ?_, rejectedIdentifier?_message typeId⟩, ?_⟩
  · rw [World.lastError?_setLastError, if_pos rfl, hasNul_rejection]
    rfl
  · intro hEmpty
    have hRead := rejectedIdentifier?_message typeId
    rw [hEmpty] at hRead
    cases hRead
  · have hPrintable := isPrintable_of_mem_rejection hMem
    constructor
    · rintro rfl
      cases hPrintable
    · intro hBreak
      rw [not_isPrintable_of_mem_lineBreaks hBreak] at hPrintable
      cases hPrintable
  · intro typeId other hSame
    have hRead := congrArg rejectedIdentifier? hSame
    dsimp only at hRead
    rwa [rejectedIdentifier?_message, rejectedIdentifier?_message, Option.some.injEq] at hRead

end HeapBridge
