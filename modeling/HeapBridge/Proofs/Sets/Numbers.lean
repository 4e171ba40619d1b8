import HeapBridge.Binary64
import Mathlib.Algebra.Order.Field.Power
import Mathlib.Algebra.Order.Field.Rat
import Mathlib.Data.Nat.ModEq
import Mathlib.Tactic.Linarith
import Mathlib.Tactic.Ring
/-!
Equal numbers have equal hashes. Two numbers are compared by what they stand for, whatever their types and
mantissas; hashes are residues modulo a prime of which a power of two is one, so they depend on what a
number stands for only.
-/
namespace HeapBridge.Binary64

/-- What a number stands for. -/
inductive Numeric where
  | rational (value : ℚ)
  | infinite (negative : Bool)

def Value.numeric? : Value → Option Numeric
  | .nan => none
  | .infinite negative => some (.infinite negative)
  | .finite negative mantissa exponent =>
    some (.rational (signed negative mantissa * (2 : ℚ) ^ exponent))

def Value.hash? : Value → Option Int
  | .nan => none
  | .infinite negative => some (if negative then -314159 else 314159)
  | .finite negative mantissa exponent =>
    let residue : Int := (mantissa * Nat.pow 2 (exponent % 61).toNat % hashPrime : Nat)
    some (avoidFailure (if negative then -residue else residue))

theorem hash?_eq (bits : UInt64) : Binary64.hash? bits = (decode bits).hash? := by
  unfold Binary64.hash? Value.hash?
  cases decode bits <;> rfl

/-- Sign and magnitude make up the number. -/
theorem signed_natAbs (n : Int) : Value.signed (n < 0) n.natAbs = n := by
  unfold Value.signed
  split
  next hNegative =>
    have hLess : n < 0 := by simpa using hNegative
    omega
  next hPositive =>
    have hLess : ¬ n < 0 := by simpa using hPositive
    omega

theorem numeric?_ofInt (n : Int) : (Value.ofInt n).numeric? = some (.rational n) := by
  rw [Value.ofInt, Value.numeric?, signed_natAbs, zpow_zero, mul_one]

theorem hash?_ofInt (n : Int) : (Value.ofInt n).hash? = some (hashInt n) := by
  have hResidue : n.natAbs * Nat.pow 2 ((0 : Int) % 61).toNat = n.natAbs := Nat.mul_one _
  rw [Value.ofInt, Value.hash?, hResidue, hashInt]
  simp only [decide_eq_true_eq]

/-! Comparison. -/

/-- A number of a large exponent is one of a smaller exponent too. -/
theorem signed_mul_zpow (negative : Bool) (mantissa : Nat) {least exponent : Int}
    (hLeast : least ≤ exponent) :
    (Value.signed negative mantissa : ℚ) * 2 ^ exponent =
      ((Value.signed negative mantissa * Nat.pow 2 (exponent - least).toNat : Int) : ℚ) *
        2 ^ least := by
  have hPower : (2 : ℚ) ^ exponent = 2 ^ (exponent - least).toNat * 2 ^ least := by
    rw [← zpow_natCast, Int.toNat_of_nonneg (by omega), ← zpow_add₀ (by norm_num)]
    congr 1
    omega
  have hScale : Nat.pow 2 (exponent - least).toNat = 2 ^ (exponent - least).toNat := rfl
  rw [hPower, hScale]
  push_cast
  ring

/-- Numbers are compared by what they stand for. -/
theorem order?_eq_iff (x y : Value) :
    x.order? y = some .eq ↔ x.numeric? = y.numeric? ∧ x.numeric?.isSome = true := by
  rcases x with _ | a | ⟨a, m, e⟩ <;> rcases y with _ | b | ⟨b, n, f⟩
  case finite.finite =>
    have hLeft := signed_mul_zpow a m (Int.min_le_left e f)
    have hRight := signed_mul_zpow b n (Int.min_le_right e f)
    have hPower : (2 : ℚ) ^ min e f ≠ 0 := zpow_ne_zero _ (by norm_num)
    simp only [Value.order?, Value.numeric?, Option.some.injEq, compare_eq_iff_eq, Option.isSome_some,
      and_true, Numeric.rational.injEq, hLeft, hRight, mul_left_inj' hPower, Int.cast_inj]
  case infinite.infinite => cases a <;> cases b <;> simp [Value.order?, Value.numeric?]
  case infinite.finite => cases a <;> simp [Value.order?, Value.numeric?]
  case finite.infinite => cases b <;> simp [Value.order?, Value.numeric?]
  all_goals simp [Value.order?, Value.numeric?]

/-! Hashing. -/

theorem two_pow_modEq (power count : Nat) : 2 ^ (power + 61 * count) ≡ 2 ^ power [MOD hashPrime] := by
  have hOne : 2 ^ 61 ≡ 1 [MOD hashPrime] := by decide
  rw [pow_add, pow_mul]
  simpa using (hOne.pow count).mul_left (2 ^ power)

/-- One number has one residue, however it is written. -/
theorem residue_eq_of_le {m n : Nat} {e f : Int} (hLess : e ≤ f)
    (hSame : (m : ℚ) * 2 ^ e = n * 2 ^ f) :
    m * Nat.pow 2 (e % 61).toNat % hashPrime = n * Nat.pow 2 (f % 61).toNat % hashPrime := by
  have hMantissa : m = n * 2 ^ (f - e).toNat := by
    have hPower : (2 : ℚ) ^ f = 2 ^ (f - e).toNat * 2 ^ e := by
      rw [← zpow_natCast, Int.toNat_of_nonneg (by omega), ← zpow_add₀ (by norm_num)]
      congr 1
      omega
    rw [hPower, ← mul_assoc] at hSame
    exact_mod_cast mul_right_cancel₀ (zpow_ne_zero e (by norm_num)) hSame
  obtain ⟨count, hCount⟩ : ∃ count, (f - e).toNat + (e % 61).toNat = (f % 61).toNat + 61 * count :=
    ⟨((f - e).toNat + (e % 61).toNat) / 61, by omega⟩
  have hShifted : m * 2 ^ (e % 61).toNat = n * 2 ^ ((f % 61).toNat + 61 * count) := by
    rw [← hCount, hMantissa, pow_add, mul_assoc]
  exact hShifted ▸ (two_pow_modEq _ count).mul_left n

theorem residue_eq {m n : Nat} {e f : Int} (hSame : (m : ℚ) * 2 ^ e = n * 2 ^ f) :
    m * Nat.pow 2 (e % 61).toNat % hashPrime = n * Nat.pow 2 (f % 61).toNat % hashPrime := by
  rcases le_total e f with hLess | hGreater
  · exact residue_eq_of_le hLess hSame
  · exact (residue_eq_of_le hGreater hSame.symm).symm

/-- Equal numbers are zero, or agree in their signs and magnitudes. -/
theorem sign_and_size {a b : Bool} {m n : Nat} {e f : Int}
    (hSame : (Value.signed a m : ℚ) * 2 ^ e = Value.signed b n * 2 ^ f) :
    (m = 0 ∧ n = 0) ∨ (a = b ∧ (m : ℚ) * 2 ^ e = n * 2 ^ f) := by
  have hLeft : (0 : ℚ) < 2 ^ e := zpow_pos (by norm_num) e
  have hRight : (0 : ℚ) < 2 ^ f := zpow_pos (by norm_num) f
  have hFirst : (0 : ℚ) ≤ m * 2 ^ e := mul_nonneg (Nat.cast_nonneg m) hLeft.le
  have hSecond : (0 : ℚ) ≤ n * 2 ^ f := mul_nonneg (Nat.cast_nonneg n) hRight.le
  have hOpposite (hSum : (m : ℚ) * 2 ^ e = -(n * 2 ^ f)) : m = 0 ∧ n = 0 := by
    have hZero : (m : ℚ) * 2 ^ e = 0 := by linarith
    have hOther : (n : ℚ) * 2 ^ f = 0 := by linarith
    simpa [hLeft.ne', hRight.ne'] using And.intro hZero hOther
  cases a <;> cases b <;> simp [Value.signed] at hSame ⊢
  · exact .inr hSame
  · exact hOpposite hSame
  · exact hOpposite (by linarith)
  · exact .inr hSame

/-- Equal numbers have equal hashes. -/
theorem hash?_congr {x y : Value} (hSame : x.numeric? = y.numeric?) : x.hash? = y.hash? := by
  rcases x with _ | a | ⟨a, m, e⟩ <;> rcases y with _ | b | ⟨b, n, f⟩
  case finite.finite =>
    simp only [Value.numeric?, Option.some.injEq, Numeric.rational.injEq] at hSame
    have hAlike := sign_and_size hSame
    rcases hAlike with ⟨rfl, rfl⟩ | ⟨rfl, hMagnitude⟩
    · simp [Value.hash?]
    · rw [Value.hash?, Value.hash?, residue_eq hMagnitude]
  case infinite.infinite => cases a <;> cases b <;> simp_all [Value.numeric?, Value.hash?]
  all_goals simp_all [Value.numeric?]

end HeapBridge.Binary64
