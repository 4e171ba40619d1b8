import HeapBridge.Host.Arguments
import HeapBridge.Host.Subscripts
/-!
What lists, tuples, texts and byte strings can do alike: they are joined, repeated and searched. A
sequence that cannot change is its own result where the result is equal to it.
-/
namespace HeapBridge.Host

/-- The first item in a range of indices that is the same as the needle. The sequence is looked at anew
after each comparison. -/
def firstSame (ops : Ops) (sequence needle : Ref) (stop : Int) : Nat → Nat → HostM (Option Nat)
  | 0, _ => outOfSteps
  | steps + 1, index => do
    match (← bodyOf sequence).items?.bind (·[index]?) with
    | none => return none
    | some item =>
      if stop ≤ index then return none
      else if ← matching ops item needle then return some index
      else firstSame ops sequence needle stop steps (index + 1)

def countSame (ops : Ops) (sequence needle : Ref) : Nat → Nat → HostM Nat
  | 0, _ => outOfSteps
  | steps + 1, index => do
    match (← bodyOf sequence).items?.bind (·[index]?) with
    | none => return 0
    | some item =>
      let isSame ← matching ops item needle
      return (if isSame then 1 else 0) + (← countSame ops sequence needle steps (index + 1))

/-- The bound of a range of indices that an argument stands for, one that is too large being moved into
the range of lengths. -/
def bound (ops : Ops) (argument : Ref) : HostM Int := do
  if (← heap).isIndex argument then clampedIndex ops argument
  else refuse "TypeError" "slice indices must be integers or have an __index__ method"

/-- A bound of indices, of which a negative one counts from the end. -/
def counted (length : Nat) (bound : Int) : Int := if bound < 0 then max 0 (bound + length) else bound

/-- The index of the first item that is the same as the first argument, in the range that the other
arguments give. -/
def indexOf (ops : Ops) (sequence : Ref) (arguments : List Ref) : HostM (Option Nat) := do
  Arguments.between "index" 1 3 arguments
  let start ← arguments[1]?.elim (pure 0) (bound ops)
  let stop ← arguments[2]?.elim (pure maxLength) (bound ops)
  let length := (← ListObject.items sequence).length
  firstSame ops sequence (arguments.headD .nil) (counted length stop) stepLimit
    (counted length start).toNat

/-- What is said about operands that cannot be joined. -/
def notJoined (kind : Kind) (left right : String) : String :=
  match kind with
  | .bytes => s!"can't concat {Cause.clipped right} to {Cause.clipped left}"
  | kind =>
    s!"can only concatenate {kind.typeName} (not \"{Cause.long right}\") to {kind.typeName}"

def joined (left right : Ref) : HostM Ref := do
  let heap ← heap
  let rebuilt (joined : HostM Ref) (isLeftEmpty isRightEmpty : Bool) : HostM Ref := do
    if isLeftEmpty && (← isExact right) then return right
    else if isRightEmpty && (← isExact left) then return left
    else joined
  match heap.body left, heap.body right with
  | .list a, .list b => make (.list (a ++ b))
  | .tuple a, .tuple b => rebuilt (make (.tuple (a ++ b))) a.isEmpty b.isEmpty
  | .text a, .text b => rebuilt (make (.text (a ++ b))) a.isEmpty b.isEmpty
  | .bytes a, .bytes b => rebuilt (make (.bytes (a ++ b))) a.isEmpty b.isEmpty
  | body, _ =>
    refuse "TypeError" (notJoined body.kind (heap.typeName left) (heap.typeName right))

/-- A list so many times in a row. -/
def repetition {α : Type} (count : Nat) (items : List α) : List α :=
  (List.replicate count items).flatten

/-- What is said about a sequence that would be too long to have a length. -/
def tooLong (kind : Kind) : Cause :=
  match kind with
  | .text => .refused "OverflowError" "repeated string is too long"
  | .bytes => .refused "OverflowError" "repeated bytes are too long"
  | _ => .noMemory

def repeated (ops : Ops) (sequence times : Ref) : HostM Ref := do
  let count := (← boundedIndex ops "OverflowError" times).toNat
  let heap ← heap
  let body := heap.body sequence
  let length := ((heap.size? body).getD 0) * count
  if maxLength < length then fail (tooLong body.kind)
  else
    reserve length
    match body with
    | .list items => make (.list (repetition count items))
    | body =>
      if count = 1 && (← isExact sequence) then return sequence
      else
        match body with
        | .tuple items => make (.tuple (repetition count items))
        | .text codes => make (.text (repetition count codes))
        | .bytes content => make (.bytes (repetition count content))
        | _ => return .notImplemented

def callSequenceOperator? (ops : Ops) (sequence : Ref) (name : String) (arguments : List Ref) :
    HostM (Option Ref) := do
  match name with
  | "__add__" => some <$> do joined sequence (← Arguments.operand arguments)
  | "__mul__" | "__rmul__" => some <$> do repeated ops sequence (← Arguments.factor arguments)
  | "__getitem__" => some <$> do builtinItem ops sequence (← Arguments.operand arguments)
  | _ => return none

def callTupleMethod? (ops : Ops) (tuple : Ref) (name : String) (arguments : List Ref) :
    HostM (Option Ref) := do
  match name with
  | "count" => some <$> do
    let needle ← Arguments.only s!"{← typeNameOf tuple}.count" arguments
    make (.int (← countSame ops tuple needle stepLimit 0))
  | "index" => some <$> do
    match ← indexOf ops tuple arguments with
    | some place => make (.int place)
    | none => refuse "ValueError" "tuple.index(x): x not in tuple"
  | _ => return none

end HeapBridge.Host
