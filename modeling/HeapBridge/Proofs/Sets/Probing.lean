import HeapBridge.Host.SetTable
import Mathlib.RingTheory.ZMod.UnitsCyclic
/-!
Probe sequences come to every slot. Once the hash is used up, the starts of a sequence are those of a linear
congruence of full period. So every slot is on every sequence, and near enough to the beginning that no
search gives up before it is there.
-/
namespace HeapBridge.Host.Probe

variable {size bits : Nat} {hash : Int} {probe : Probe}

/-- The next start of a sequence. -/
def jump (size : Nat) (probe : Probe) : Probe :=
  { start := (probe.start * 5 + 1 + probe.perturb / 32) % size
    offset := 0
    perturb := probe.perturb / 32 }

def after (hash : Int) (size steps : Nat) : Probe := (next · size)^[steps] (first hash size)

@[simp] theorem after_zero (hash : Int) (size : Nat) : after hash size 0 = first hash size := rfl

theorem after_succ (hash : Int) (size steps : Nat) :
    after hash size (steps + 1) = (after hash size steps).next size :=
  Function.iterate_succ_apply' ..

theorem next_eq_jump (hLast : ¬ (probe.start + run < size ∧ probe.offset < run)) :
    probe.next size = probe.jump size := by
  rw [next, if_neg (by simpa using hLast)]
  rfl

theorem next_eq_step (hMore : probe.start + run < size ∧ probe.offset < run) :
    probe.next size = { probe with offset := probe.offset + 1 } := by
  rw [next, if_pos (by simpa using hMore)]

/-- Whether a place is one to which sequences come: they stay inside the table. -/
def Proper (size : Nat) (probe : Probe) : Prop :=
  probe.start < size ∧ (probe.offset = 0 ∨ probe.start + run < size ∧ probe.offset ≤ run)

theorem Proper.index_lt (hProper : probe.Proper size) : probe.index < size := by
  obtain ⟨hStart, hOffset | ⟨hRow, hOffset⟩⟩ := hProper
  · rwa [index, hOffset]
  · unfold index
    omega

theorem Proper.next (hProper : probe.Proper size) : (probe.next size).Proper size := by
  by_cases hMore : probe.start + run < size ∧ probe.offset < run
  · rw [next_eq_step hMore]
    exact ⟨hProper.1, .inr ⟨hMore.1, hMore.2⟩⟩
  · rw [next_eq_jump hMore]
    exact ⟨Nat.mod_lt _ (Nat.zero_lt_of_lt hProper.1), .inl rfl⟩

/-- Probes stay inside the table. -/
theorem proper_after (hash : Int) (hSize : 0 < size) (steps : Nat) :
    (after hash size steps).Proper size := by
  induction steps with
  | zero => exact ⟨Nat.mod_lt _ hSize, .inl rfl⟩
  | succ steps ih =>
    rw [after_succ]
    exact ih.next

/-- The slots in a row from a start are gone through one by one. -/
theorem iterate_next (hRow : probe.start + run < size) (hFirst : probe.offset = 0) {steps : Nat}
    (hSteps : steps ≤ run) : (next · size)^[steps] probe = { probe with offset := steps } := by
  induction steps with
  | zero =>
    obtain ⟨start, offset, perturb⟩ := probe
    obtain rfl : offset = 0 := hFirst
    rfl
  | succ steps ih =>
    rw [Function.iterate_succ_apply', ih (Nat.le_of_succ_le hSteps)]
    exact next_eq_step ⟨hRow, hSteps⟩

/-- From a start it takes at most ten steps to the next one. -/
theorem exists_jump (hFirst : probe.offset = 0) :
    ∃ steps ≤ 10, (next · size)^[steps] probe = probe.jump size := by
  by_cases hRow : probe.start + run < size
  · refine ⟨10, Nat.le_refl _, ?_⟩
    have hRun : (next · size)^[9] probe = { probe with offset := 9 } :=
      iterate_next hRow hFirst (Nat.le_refl run)
    rw [Function.iterate_succ_apply', hRun]
    exact next_eq_jump fun hMore => Nat.lt_irrefl run hMore.2
  · exact ⟨1, by decide, next_eq_jump fun hMore => hRow hMore.1⟩

/-- Each jump is reached within ten steps. -/
theorem exists_after (hash : Int) (size count : Nat) :
    ∃ steps ≤ 10 * count, after hash size steps = (jump size)^[count] (first hash size) := by
  induction count with
  | zero => exact ⟨0, Nat.le_refl _, rfl⟩
  | succ count ih =>
    obtain ⟨steps, hSteps, hAfter⟩ := ih
    have hFirst : ((jump size)^[count] (first hash size)).offset = 0 := by
      cases count with
      | zero => rfl
      | succ count => rw [Function.iterate_succ_apply']; rfl
    have hNext : ∃ steps ≤ 10, (next · size)^[steps] ((jump size)^[count] (first hash size)) =
        ((jump size)^[count] (first hash size)).jump size := exists_jump hFirst
    obtain ⟨more, hMore, hJump⟩ := hNext
    refine ⟨more + steps, by omega, ?_⟩
    rw [after, Function.iterate_add_apply, Function.iterate_succ_apply', ← hJump, ← hAfter]
    rfl

/-- What is left of a hash is less with each start. -/
theorem perturb_iterate_jump (size count : Nat) (probe : Probe) :
    ((jump size)^[count] probe).perturb = probe.perturb / 32 ^ count := by
  induction count with
  | zero => simp
  | succ count ih =>
    rw [Function.iterate_succ_apply', jump, ih, Nat.div_div_eq_div_mul, pow_succ]

/-- After a while nothing of the hash is left. -/
theorem perturb_used (hash : Int) (size count : Nat) :
    ((jump size)^[13 + count] (first hash size)).perturb = 0 := by
  have hWord : word hash < 2 ^ 64 := by
    have hMod : hash % 2 ^ 64 < 2 ^ 64 := Int.emod_lt_of_pos hash (by decide)
    have hWord : word hash = (hash % 2 ^ 64).toNat := rfl
    omega
  rw [perturb_iterate_jump]
  refine Nat.div_eq_of_lt (hWord.trans_le ?_)
  calc 2 ^ 64 ≤ 32 ^ 13 := by decide
    _ ≤ 32 ^ (13 + count) := Nat.pow_le_pow_right (by decide) (Nat.le_add_right ..)

/-! The starts without a hash. -/

/-- The start after another one when nothing is left of the hash. -/
def follow (size start : Nat) : Nat := (start * 5 + 1) % size

theorem iterate_follow_lt {start : Nat} (hStart : start < size) (count : Nat) :
    (follow size)^[count] start < size := by
  cases count with
  | zero => exact hStart
  | succ count =>
    rw [Function.iterate_succ_apply']
    exact Nat.mod_lt _ (Nat.zero_lt_of_lt hStart)

/-- Up to a factor and a summand, following is multiplication by five. -/
theorem four_mul_follow (bits start : Nat) :
    ((4 * follow (2 ^ bits) start + 1 : Nat) : ZMod (2 ^ (bits + 2))) =
      5 * ((4 * start + 1 : Nat) : ZMod (2 ^ (bits + 2))) := by
  have hScaled : 4 * follow (2 ^ bits) start = 4 * (start * 5 + 1) % 2 ^ (bits + 2) := by
    rw [follow, pow_add, Nat.mul_comm (2 ^ bits), ← Nat.mul_mod_mul_left]
    norm_num
  rw [hScaled]
  push_cast [ZMod.natCast_mod]
  ring

/-- In multiples of four and one the starts are powers of five. -/
theorem four_mul_iterate_follow (bits start count : Nat) :
    ((4 * (follow (2 ^ bits))^[count] start + 1 : Nat) : ZMod (2 ^ (bits + 2))) =
      5 ^ count * ((4 * start + 1 : Nat) : ZMod (2 ^ (bits + 2))) := by
  induction count with
  | zero => simp
  | succ count ih =>
    rw [Function.iterate_succ_apply', four_mul_follow, ih, pow_succ]
    ring

/-- The path of starts does not meet itself before it has been everywhere. -/
theorem iterate_follow_inj {start first second : Nat} (hFirst : first < 2 ^ bits)
    (hSecond : second < 2 ^ bits)
    (hSame : (follow (2 ^ bits))^[first] start = (follow (2 ^ bits))^[second] start) :
    first = second := by
  have hUnit : IsUnit ((4 * start + 1 : Nat) : ZMod (2 ^ (bits + 2))) := by
    rw [ZMod.isUnit_iff_coprime]
    refine Nat.Coprime.pow_right _ ?_
    rw [Nat.coprime_two_right]
    exact ⟨2 * start, by ring⟩
  have hPowers : (5 : ZMod (2 ^ (bits + 2))) ^ first = 5 ^ second := by
    refine hUnit.mul_right_cancel ?_
    rw [← four_mul_iterate_follow, ← four_mul_iterate_follow, hSame]
  rw [← ZMod.orderOf_five bits] at hFirst hSecond
  exact pow_injOn_Iio_orderOf hFirst hSecond hPowers

/-- Following comes to every start. -/
theorem exists_iterate_follow {start target : Nat} (hStart : start < 2 ^ bits)
    (hTarget : target < 2 ^ bits) : ∃ count < 2 ^ bits, (follow (2 ^ bits))^[count] start = target := by
  let visit (count : Fin (2 ^ bits)) : Fin (2 ^ bits) :=
    ⟨(follow (2 ^ bits))^[count] start, iterate_follow_lt hStart count⟩
  have hInjective : Function.Injective visit := fun first second hSame =>
    Fin.ext (iterate_follow_inj first.isLt second.isLt (Fin.ext_iff.mp hSame))
  obtain ⟨count, hCount⟩ := Finite.surjective_of_injective hInjective ⟨target, hTarget⟩
  exact ⟨count, count.isLt, Fin.ext_iff.mp hCount⟩

/-- After thirteen jumps the hash is used up, and the path follows its starts. -/
theorem start_iterate_jump (hash : Int) (size count : Nat) :
    ((jump size)^[13 + count] (first hash size)).start =
      (follow size)^[count] ((jump size)^[13] (first hash size)).start := by
  induction count with
  | zero => rfl
  | succ count ih =>
    rw [← Nat.add_assoc, Function.iterate_succ_apply', jump, perturb_used hash size count,
      Function.iterate_succ_apply', ← ih]
    rfl

/-- Every slot is on every sequence, and not far from the beginning. -/
theorem exists_index {target : Nat} (hash : Int) (hTarget : target < 2 ^ bits) :
    ∃ steps < 10 * 2 ^ bits + 130, (after hash (2 ^ bits) steps).index = target := by
  have hStart : ((jump (2 ^ bits))^[13] (first hash (2 ^ bits))).start < 2 ^ bits :=
    Nat.mod_lt _ (Nat.two_pow_pos bits)
  obtain ⟨count, hCount, hFollow⟩ := exists_iterate_follow hStart hTarget
  obtain ⟨steps, hSteps, hAfter⟩ := exists_after hash (2 ^ bits) (13 + count)
  refine ⟨steps, by omega, ?_⟩
  have hOffset : ((jump (2 ^ bits))^[13 + count] (first hash (2 ^ bits))).offset = 0 := by
    rw [Nat.add_comm, Function.iterate_add_apply]
    cases count with
    | zero => rfl
    | succ count => rw [Function.iterate_succ_apply']; rfl
  rw [hAfter, index, hOffset, start_iterate_jump, hFollow]
  rfl

end HeapBridge.Host.Probe
