/-
  Reading commands.

  A reader is a scanner that is drained after every chunk: all spans that the
  text so far finishes are handed out at once, as commands. Reading a whole
  script is feeding it as one chunk.
-/
import NodeScript.Script.Scanner
import NodeScript.Script.Classification

namespace NodeScript

namespace Scanner

/-! ### Draining -/

/-- What is left to do before the buffer is used up and nothing is pending:
twice the work, and one for handing out a pending span. -/
def effort (s : Scanner) : Nat := 2 * s.work + (if s.pending.isSome then 1 else 0)

/-- A step leaves the queue alone. -/
theorem queue_step (s : Scanner) : s.step.queue = s.queue := by
  simp only [step, runOutside, runInside, skip]
  repeat' split
  all_goals rfl

/-- Hunting for a span leaves the queue alone. -/
theorem queue_hunt (s : Scanner) : s.hunt.2.queue = s.queue := by
  fun_induction hunt s with
  | case1 => rfl
  | case2 => rfl
  | case3 s hp h ih => rw [ih, queue_step]

/-- After refilling, no chunk is waiting. -/
theorem queue_refill (s : Scanner) : s.refill.queue = [] := by
  rw [refill]
  split
  · next h => exact List.isEmpty_iff.mp h
  · rfl

/-- With no chunk waiting, refilling changes nothing. -/
theorem refill_of_queue_eq_nil {s : Scanner} (h : s.queue = []) : s.refill = s := by
  rw [refill, h]; rfl

/-- Handing out a span brings the end nearer. -/
theorem effort_hunt_lt {s : Scanner} {p : Span} (h : s.hunt.1 = some p) :
    s.hunt.2.effort < s.effort := by
  fun_induction hunt s with
  | case1 s p hp =>
    have : ({ s with pending := none } : Scanner).work = s.work := rfl
    simp only [effort, hp, this]
    simp
  | case2 => simp at h
  | case3 s hp ha ih =>
    have := work_step_lt ha
    have := ih h
    have : s.step.effort ≤ s.effort := by
      simp only [effort]
      split <;> split <;> omega
    omega

/-- All spans that the text fed so far finishes, and the scanner after them. -/
def drain (s : Scanner) : List Span × Scanner :=
  match _h : s.next with
  | (none, s') => ([], s')
  | (some p, s') =>
    let (ps, s'') := s'.drain
    (p :: ps, s'')
termination_by s.refill.effort
decreasing_by
  have hs : s.refill.hunt.2 = s' := by rw [← next, _h]
  have hp : s.refill.hunt.1 = some p := by rw [← next, _h]
  have hq : s'.queue = [] := by rw [← hs, queue_hunt, queue_refill]
  rw [refill_of_queue_eq_nil hq, ← hs]
  exact effort_hunt_lt hp

/-! ### Commands -/

/-- Takes in a chunk and hands out the commands that it finishes. -/
def read (s : Scanner) (chunk : Bytes) : List Command × Scanner :=
  let (spans, s) := (s.feed chunk).drain
  (spans.map Span.command, s)

/-- Reads the chunks one after another and hands out the commands of each. -/
def readAll (s : Scanner) : List Bytes → List (List Command) × Scanner
  | [] => ([], s)
  | chunk :: chunks =>
    let (commands, s) := s.read chunk
    let (rest, s) := s.readAll chunks
    (commands :: rest, s)

end Scanner

/-- The commands of a whole script with the given label. -/
def readScript (label script : Bytes) : List Command :=
  (({ label } : Scanner).read script).1

end NodeScript
