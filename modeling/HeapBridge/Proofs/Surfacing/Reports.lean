import HeapBridge.Bridge
import HeapBridge.Proofs.Evaluating
/-!
What a fault tells. The report of a fault is its traceback and, behind it, the exception under its name. The
traceback tells of each frame once and in order, and there is none without frames. The frames come from scripts:
one that raises starts with its own, and one that called puts its own in front of those that the fault has passed
through before. Nothing else gives a fault a frame.
-/
namespace HeapBridge

open Host (Action Cause Context Fault HostM Ops Ref nestingLimit)

namespace Host

namespace TracebackLine

def toldAfter (last : Frame) : List TracebackLine → List Frame
  | [] => []
  | .passed frame :: rest => frame :: toldAfter frame rest
  | .repeated more :: rest => List.replicate more last ++ toldAfter last rest

/-- The frames that lines tell of. -/
def told : List TracebackLine → List Frame
  | .passed frame :: rest => frame :: toldAfter frame rest
  | _ => []

end TracebackLine

namespace Traceback

open TracebackLine (told toldAfter)

/-- What is written of a repetition tells of the frames beyond those written out. -/
theorem toldAfter_repetition (last : Frame) (count : Nat) (rest : List TracebackLine) :
    toldAfter last (repetition count ++ rest) =
      List.replicate (count - repeatLimit) last ++ toldAfter last rest := by
  unfold repetition
  split
  next hFew => rw [Nat.sub_eq_zero_of_le hFew, List.replicate_zero, List.nil_append, List.nil_append]
  next => rfl

/-- Behind a frame that came `count` times in a row the lines tell of those times that are not written, and
then of the other frames. -/
theorem toldAfter_linesAfter (last : Frame) (count : Nat) (frames : List Frame) :
    toldAfter last (linesAfter last count frames) =
      List.replicate (count - repeatLimit) last ++ frames := by
  induction frames generalizing last count with
  | nil =>
    have hRepetition := toldAfter_repetition last count []
    rwa [List.append_nil] at hRepetition
  | cons frame rest ih =>
    rw [linesAfter]
    split
    next hSame =>
      subst hSame
      split
      next hFew =>
        rw [List.singleton_append, toldAfter, ih, Nat.sub_eq_zero_of_le (Nat.le_of_lt hFew), Nat.sub_eq_zero_of_le hFew]
        rfl
      next hMany =>
        have hMore : count + 1 - repeatLimit = count - repeatLimit + 1 := by omega
        rw [List.nil_append, ih, hMore, List.replicate_succ', List.append_assoc, List.singleton_append]
    next =>
      rw [toldAfter_repetition, toldAfter, ih]
      rfl

/-- The lines of a traceback tell of each frame once, and in order. -/
theorem told_lines (frames : List Frame) : told (lines frames) = frames := by
  cases frames with
  | nil => rfl
  | cons frame rest =>
    rw [lines, told, toldAfter_linesAfter]
    rfl

end Traceback

namespace Fault

/-- The text that the report of a fault starts with: nothing if no frame was passed through, and otherwise
lines that tell of the innermost frames, each of them once and in order. -/
inductive Traced (fault : Fault) : String → Prop where
  | bare (hFrames : fault.frames = []) : Traced fault ""
  | frames {recent : List Frame} (hFrames : fault.frames ≠ [])
    (hRecent : recent = fault.frames.drop (fault.frames.length - Traceback.frameLimit))
    (hTold : TracebackLine.told (Traceback.lines recent) = recent) :
    Traced fault ("Traceback (most recent call last):\n" ++
      String.join ((Traceback.lines recent).map TracebackLine.text))

theorem traced (fault : Fault) : fault.Traced fault.traceback := by
  obtain ⟨cause, frames⟩ := fault
  cases frames with
  | nil => exact .bare rfl
  | cons frame rest => exact .frames (List.cons_ne_nil frame rest) rfl (Traceback.told_lines _)

/-- The text of the exception that a fault stands for, which has to be shown if it is a key. -/
def textIn (fault : Fault) : HostM String :=
  match fault.cause with
  | .missingKey key => (·.toText) <$> holding [key] (ops.shown key)
  | .raised "KeyError" text => pure (CodePoints.toText (Text.Shown.text (CodePoints.ofString text)))
  | cause => pure cause.text

/-- What the exception tells of itself in a world: its text, or that it has none to show. -/
def tells (fault : Fault) (world : World) : String :=
  match (HostM.runOn fault.textIn world).1 with
  | .ok text => text
  | .error _ => "<exception str() failed>"

/-- What is shown of a fault can always be shown. -/
theorem describe_eq_ok (fault : Fault) (world : World) :
    (HostM.runOn (describe ops fault) world).1 = .ok (fault.exception ++ ": " ++ fault.tells world) := by
  obtain ⟨cause, frames⟩ := fault
  cases cause with
  | missingKey key =>
    simp only [HostM.runOn, describe, tells, textIn, HostM.eval_bind, HostM.eval_attempt, HostM.eval_map]
    rcases (holding [key] (ops.shown key)).eval {} world with ⟨fault | codes, after⟩ <;> rfl
  | raised exception text =>
    by_cases hKey : exception = "KeyError"
    · subst hKey
      rfl
    · simp [HostM.runOn, describe, tells, textIn, hKey]
  | _ => rfl

/-- A report is the traceback and what the exception tells of itself, under its name. -/
theorem textFrom_report (fault : Fault) (world : World) :
    (world.textFrom (report ops fault)).1 =
      fault.traceback ++ (fault.exception ++ ": " ++ fault.tells world) := by
  have hDescribe := fault.describe_eq_ok world
  rw [World.textFrom, report, HostM.runOn_bind]
  rcases hRun : HostM.runOn (describe ops fault) world with ⟨other | text, after⟩ <;>
    rw [hRun] at hDescribe
  · cases hDescribe
  · rw [Except.ok.inj hDescribe]
    rfl

end Fault

theorem eval_release_ok (depth : Nat) (refs : List Ref) (context : Context) (world : World) :
    (((Ops.ofDepth depth).release refs).eval context world).1 = .ok () := by
  cases depth <;> rfl

end Host

end HeapBridge
