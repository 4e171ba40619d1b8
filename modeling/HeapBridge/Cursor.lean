import HeapBridge.Host.Reference
/-!
Iterators that native code has under way. The host's own iterator over the elements of a set stays with
whoever asked for it, so it is kept as what it consists of: where it stands, and the size that the set had
when it started.
-/
namespace HeapBridge

open Host (Ref)

inductive Cursor where
  /-- Exhausted or given up. What it went over has been let go of. -/
  | finished
  /-- The next slot of a set and the size that the set had at the start; one that has once met another
  size never goes on. -/
  | elements (source : Ref) (position size : Nat) (broken : Bool)
  /-- An iterator that is a host object. -/
  | object (iterator : Ref)
  deriving DecidableEq, Repr

instance : Inhabited Cursor := ⟨.finished⟩

def Cursor.references : Cursor → List Ref
  | .finished => []
  | .elements source _ _ _ => [source]
  | .object iterator => [iterator]

end HeapBridge
