import HeapBridge.Proofs.Boundary.Refinement
import HeapBridge.Session.Run
/-!
What can be read as the last error. Each call of an exported function that works on the bridge replaces
what the calls before it on its thread have left: an error of an earlier call is never read after a later
one, and the calls of other threads play no part. Texts that hold a NUL are not kept, so after such a
failure nothing is read.
-/
namespace HeapBridge.Export

open Session (performAll)

/-- The exported functions that set or clear the last error. -/
inductive Function where
  | call (request : Call)
  | clearLastError

namespace Function

def after (thread : Thread) : Function → World → World
  | .call request, world => ((request.perform thread).run world).2
  | .clearLastError, world => world.clearLastError thread

/-- What the last error says of a function that is called in this world. -/
def told (world : World) : Function → Option String
  | .call request => lastErrorOf (request.outcome world).1
  | .clearLastError => none

/-- The world after functions were called one after the other, each on its thread. -/
def afterAll : List (Thread × Function) → World → World
  | [], world => world
  | (thread, function) :: rest, world => afterAll rest (function.after thread world)

theorem afterAll_append (first second : List (Thread × Function)) (world : World) :
    afterAll (first ++ second) world = afterAll second (afterAll first world) := by
  induction first generalizing world with
  | nil => rfl
  | cons turn rest ih => exact ih (turn.2.after turn.1 world)

/-- A function tells its own thread, and no other, what became of it. -/
theorem lastError?_after (function : Function) (thread other : Thread) (world : World) :
    (function.after thread world).lastError? other =
      if other = thread then function.told world else world.lastError? other := by
  cases function with
  | call request =>
    rw [after, request.run_perform]
    exact request.lastError?_leave thread other world
  | clearLastError => exact World.lastError?_clearLastError thread other world

/-- Calls on other threads leave what is read on this one. -/
theorem lastError?_afterAll_of_ne {turns : List (Thread × Function)} {thread : Thread}
    (hOthers : ∀ turn ∈ turns, turn.1 ≠ thread) (world : World) :
    (afterAll turns world).lastError? thread = world.lastError? thread := by
  induction turns generalizing world with
  | nil => rfl
  | cons turn rest ih =>
    obtain ⟨hTurn, hRest⟩ := List.forall_mem_cons.mp hOthers
    rw [afterAll, ih hRest, lastError?_after, if_neg hTurn.symm]

/-- The last error of a thread tells of the latest call on it, whatever was there before. It is the text of
the error that the call failed with, unless that holds a NUL, and nothing if the call did not fail. -/
theorem lastError?_latest {later : List (Thread × Function)} {thread : Thread}
    (hLater : ∀ turn ∈ later, turn.1 ≠ thread) (earlier : List (Thread × Function))
    (function : Function) (world : World) :
    (afterAll (earlier ++ (thread, function) :: later) world).lastError? thread =
      function.told (afterAll earlier world) := by
  rw [afterAll_append, afterAll, lastError?_afterAll_of_ne hLater, lastError?_after, if_pos rfl]

/-- Two failures and a call that succeeds on one thread, and then a failure on another. -/
theorem lastError?_latest_success :
    (∀ turn ∈ [((5, .call (.setCount .null)) : Thread × Function)], turn.1 ≠ 3) ∧
      (afterAll ([(3, .call (.setCount .null)), (3, .call (.setNew none))] ++
        (3, .call (.hasWrapper none)) :: [(5, .call (.setCount .null))]) {}).lastError? 3 = none := by
  have hLater : ∀ turn ∈ [((5, .call (.setCount .null)) : Thread × Function)], turn.1 ≠ 3 := by
    decide
  exact ⟨hLater, lastError?_latest hLater _ _ _⟩

end Function

/-- A call that fails may leave no last error behind: the text of a host exception may hold a NUL. And the
functions on plain objects leave the last error alone, so that the message of an earlier failure is still
read after one of them has succeeded. -/
theorem lastError?_untold :
    let refusing := performAll [.wrapper (.register "T" "T" (.refuse "ValueError" "a\x00b") .number)] {}
    let call := Call.toHost (some [84]) .null
    let failed := ((Call.setCount .null).perform 0).run {}
    (call.outcome refusing.2.world).1 = .error (.conversion "T" "ValueError: a\x00b") ∧
      ((call.perform 0).run refusing.2.world).2.lastError? 0 = none ∧
      (objectNew.run failed.2).1 = some 0 ∧
      (objectNew.run failed.2).2.lastError? 0 = some "Not a foreign set" := by
  decide +kernel

end HeapBridge.Export
