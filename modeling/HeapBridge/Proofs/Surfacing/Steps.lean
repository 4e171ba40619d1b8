import HeapBridge.Proofs.Evaluating
/-!
Operations that are followed for a number of steps. Scripts decide how long a loop of the host goes on, so one
is followed for `stepLimit` steps only. The limit decides nothing else: a loop that comes to its end before it
comes to the same with any more steps, and one that does not says so by a fault of its own.
-/
namespace HeapBridge.Host

variable {α β ι : Type} {ops : Ops}

/-- Whether a run of one operation is one of the other, too, unless it runs out of steps. -/
def HostM.Approximates (short long : HostM α) : Prop := ∀ context world,
  short.eval context world = long.eval context world ∨
    ∃ fault after, short.eval context world = (.error fault, after) ∧ fault.cause = .outOfSteps

namespace HostM.Approximates

theorem refl (action : HostM α) : action.Approximates action := fun _ _ => .inl rfl

theorem outOfSteps (long : HostM α) : (outOfSteps : HostM α).Approximates long := fun _ _ =>
  .inr ⟨_, _, rfl, rfl⟩

/-- What goes on after the same beginning runs out of steps in the same places. -/
theorem bind {first : HostM α} {short long : α → HostM β}
    (hNext : ∀ value, (short value).Approximates (long value)) :
    (first >>= short).Approximates (first >>= long) := by
  intro context world
  rw [eval_bind, eval_bind]
  rcases first.eval context world with ⟨fault | value, after⟩
  · exact .inl rfl
  · exact hNext value context after

end HostM.Approximates

section Sequences

variable (sequence needle : Ref)

end Sequences

section Iterators

variable (iterator : Ref)

end Iterators

section Tables

variable (container key : Ref) (hash : Int)

end Tables

end HeapBridge.Host
