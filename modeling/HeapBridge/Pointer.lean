import HeapBridge.Host.Reference
/-!
Native pointers. A pointer is NULL, the address of a native object, the address of a host object,
or any other machine word. Every pointer has a number, by which pointers are compared; different
objects have different ones. A word that was read back is only a number: whether it is the address of
an object is decided where the word is used.
-/
namespace HeapBridge

open Host (Atom Ref isSmall)

inductive Pointer where
  | null
  | word (number : Nat)
  | native (address : Nat)
  | host (ref : Ref)
  deriving DecidableEq, Repr, Inhabited

/-- How the handles behind a wrapped pointer are kept alive. -/
inductive Discipline where
  /-- Objects of the native heap. -/
  | nativeObject
  /-- Framework handles; in the absence of the framework they are native objects. -/
  | frameworkObject
  /-- Handles of a family kept elsewhere: every retain and release is passed on in order. -/
  | external (family : Nat)
  deriving DecidableEq, Repr, Inhabited

namespace Pointer

def wordCount : Nat := Nat.pow 2 64

/-- The first address of the stretch that both heaps share. -/
def base : Nat := 0x55b7c0de2000

/-- Objects are aligned to 16 bytes, and those of the two heaps take turns. -/
def stride : Nat := 32

/-- The number of host objects set aside for the interned values. -/
def atomCount : Nat := 1024

/-- The place of an interned value among the host's first objects. What is not interned has none of its
own. -/
def atomIndex : Atom → Nat
  | .nil => 0
  | .bool false => 1
  | .bool true => 2
  | .emptyTuple => 3
  | .text [] => 4
  | .bytes [] => 5
  | .notImplemented => 6
  | .int value => if isSmall value then 7 + (value + 5).toNat else atomCount - 1
  | .text (code :: _) => if code < 256 then 300 + code else atomCount - 1
  | .bytes (byte :: _) => 600 + byte.toNat

def refIndex : Ref → Nat
  | .atom value => atomIndex value
  | .object address => atomCount + address

def number : Pointer → Nat
  | .null => 0
  | .word n => n
  | .native address => base + stride * address
  | .host ref => base + stride * refIndex ref + 16

def atomAt? : Nat → Option Atom
  | 0 => some .nil
  | 1 => some (.bool false)
  | 2 => some (.bool true)
  | 3 => some .emptyTuple
  | 4 => some (.text [])
  | 5 => some (.bytes [])
  | 6 => some .notImplemented
  | index + 7 =>
    if index < 262 then some (.int (index - 5))
    else if 293 ≤ index ∧ index < 549 then some (.text [index - 293])
    else if 593 ≤ index ∧ index < 849 then some (.bytes [(index - 593).toUInt8])
    else none

def refAt? (index : Nat) : Option Ref :=
  if index < atomCount then (atomAt? index).map .atom else some (.object (index - atomCount))

def ofAddress? (n : Nat) : Option Pointer :=
  if n < base then none
  else if (n - base) % stride = 0 then some (.native ((n - base) / stride))
  else if (n - base) % stride = 16 then (refAt? ((n - base) / stride)).map .host
  else none

/-- No two interned values have one number. -/
theorem atomIndex_of_atomAt? {index : Nat} {value : Atom} (hAt : atomAt? index = some value) :
    atomIndex value = index := by
  unfold atomAt? at hAt
  split at hAt
  case h_1 | h_2 | h_3 | h_4 | h_5 | h_6 | h_7 =>
    cases hAt
    rfl
  case h_8 index =>
    split at hAt
    next hInt =>
      cases hAt
      have hSmall : isSmall (index - 5) = true := by
        simp only [isSmall, Bool.and_eq_true, decide_eq_true_eq]
        omega
      rw [atomIndex, if_pos hSmall]
      omega
    next =>
      split at hAt
      next hText =>
        cases hAt
        have hShort : index - 293 < 256 := by omega
        rw [atomIndex, if_pos hShort]
        omega
      next =>
        split at hAt
        next hByte =>
          cases hAt
          rw [atomIndex, Nat.toUInt8, UInt8.toNat_ofNat']
          omega
        next => cases hAt

/-- No two references have one number. -/
theorem refIndex_of_refAt? {index : Nat} {ref : Ref} (hAt : refAt? index = some ref) :
    refIndex ref = index := by
  unfold refAt? at hAt
  split at hAt
  next =>
    obtain ⟨value, hValue, rfl⟩ := Option.map_eq_some_iff.mp hAt
    exact atomIndex_of_atomAt? hValue
  next hLarge =>
    cases hAt
    simp only [refIndex]
    omega

/-- The object that is found at an address has that address. -/
theorem number_of_ofAddress? {n : Nat} {pointer : Pointer} (hFound : ofAddress? n = some pointer) :
    pointer.number = n := by
  have hSplit := Nat.mod_add_div (n - base) stride
  unfold ofAddress? at hFound
  split at hFound
  next => cases hFound
  next =>
    split at hFound
    next =>
      cases hFound
      simp only [number]
      omega
    next =>
      split at hFound
      next =>
        obtain ⟨ref, hRef, rfl⟩ := Option.map_eq_some_iff.mp hFound
        simp only [number, refIndex_of_refAt? hRef]
        omega
      next => cases hFound

theorem number_native (address : Nat) : number (.native address) = base + stride * address := rfl

theorem number_host (ref : Ref) : number (.host ref) = base + stride * refIndex ref + 16 := rfl

theorem number_native_ne_zero (address : Nat) : number (.native address) ≠ 0 := by
  rw [number_native, base]
  omega

theorem number_native_inj {address other : Nat} :
    number (.native address) = number (.native other) ↔ address = other := by
  rw [number_native, number_native, stride]
  omega

/-- The address of a native object leads back to it. -/
theorem ofAddress?_native (address : Nat) :
    ofAddress? (number (.native address)) = some (.native address) := by
  have hOffset : base + stride * address - base = stride * address := by omega
  rw [ofAddress?, number_native, if_neg (by omega), hOffset, if_pos (Nat.mul_mod_right _ _),
    Nat.mul_div_cancel_left _ (by decide)]

/-- Only the pointer to a native object has the number of one, unless it is a mere word. -/
theorem eq_native_of_number_eq {pointer : Pointer} {address : Nat}
    (hNumber : pointer.number = number (.native address)) :
    pointer = .native address ∨ pointer = .word (number (.native address)) := by
  cases pointer with
  | null =>
    rw [number_native, number, base] at hNumber
    omega
  | word n => exact .inr (congrArg _ hNumber)
  | native other =>
    rw [number_native, number_native, stride] at hNumber
    exact .inl (congrArg _ (by omega))
  | host ref =>
    rw [number_native, number_host, stride] at hNumber
    omega

def ofNumber (n : Nat) : Pointer := if n = 0 then .null else .word n

def isNull (pointer : Pointer) : Bool := pointer.number = 0

end Pointer

/-- What host code sees of a pointer type that has no host representation of its own: which type
it points to, under which display name, where, and whether it owns a reference to the handle. -/
structure Handle where
  typeId : String
  typeName : String
  pointer : Pointer
  ownership : Option Discipline
  deriving DecidableEq, Repr, Inhabited

end HeapBridge
