/-
  The courses that a command can take.

  Whatever its kind and its text, a command either is malformed, or changes the
  simulation and nothing else, or writes one file and adds a line to the output log
  once that is done (`Action.course`). Which of the three it is, what is changed, and
  what is written where, does not depend on anything but the simulation and the name of
  the sink. Lines that are in the output log already have no say in it either, except
  that they are trimmed along with the new ones and exported if a command asks for it.
-/
import NodeScript.Proofs.Interpreter.Meaning
import NodeScript.Proofs.Text.Words

namespace NodeScript

/-! ### Earlier lines -/

namespace Simulation

/-- The simulation with lines in front of its output log. -/
def prepend (s : Simulation) (earlier : List Bytes) : Simulation :=
  { s with output := earlier ++ s.output }

variable (s : Simulation) (earlier : List Bytes)

@[simp]
theorem nodes_prepend : (s.prepend earlier).nodes = s.nodes := rfl

@[simp]
theorem api_prepend : (s.prepend earlier).api = s.api := rfl

@[simp]
theorem start_prepend (n : Int) : (s.prepend earlier).start n = (s.start n).prepend earlier := rfl

@[simp]
theorem stopAll_prepend : (s.prepend earlier).stopAll = s.stopAll.prepend earlier := rfl

@[simp]
theorem setApi_prepend (api : Bytes) :
    (s.prepend earlier).setApi api = (s.setApi api).prepend earlier := rfl

@[simp]
theorem append_prepend (line : Bytes) :
    (s.prepend earlier).append line = (s.append line).prepend earlier := by
  simp [append, prepend]

@[simp]
theorem appendAll_prepend (lines : List Bytes) :
    (s.prepend earlier).appendAll lines = (s.appendAll lines).prepend earlier := by
  simp [appendAll, prepend]

@[simp]
theorem compress_prepend :
    (s.prepend earlier).compress = s.compress.prepend (earlier.map trim) := by
  simp [compress, prepend]

end Simulation

/-- The interpreter with lines in front of its output log. -/
def Interpreter.prepend {σ : Type} (i : Interpreter σ) (earlier : List Bytes) : Interpreter σ :=
  i.update (·.prepend earlier)

theorem Action.confirm_prepend {σ : Type} (written : Interpreter σ × Option WriteFailure)
    (line : Bytes) (earlier : List Bytes) :
    confirm (written.1.prepend earlier, written.2) line =
      ((confirm written line).1.prepend earlier, (confirm written line).2) := by
  obtain ⟨i, _ | failure⟩ := written
  · simp [confirm, Interpreter.prepend, Interpreter.update]
  · rfl

namespace Command

/-- What becomes of the lines that stand in the output log before a command. -/
def carry (c : Command) (earlier : List Bytes) : List Bytes :=
  if c.kind = .compress then earlier.map trim else earlier

/-- A command that asks to export the output log, and says where. -/
def Exports (c : Command) : Prop :=
  c.kind = .exportOutput ∧ Pattern.exportPath.find? c.text ≠ none

theorem carry_of_ne {c : Command} (h : c.kind ≠ .compress) (earlier : List Bytes) :
    c.carry earlier = earlier := if_neg h

end Command

/-- No command of a script says where to export the output log to. -/
theorem not_exports {label script : Bytes} {c : Command} (h : c ∈ readScript label script) :
    ¬ c.Exports := by
  rintro ⟨-, hfind⟩
  have harrow : utf8 "=>" ∈ Pattern.exportPath.words := by decide
  exact hfind (Pattern.find?_eq_none_of_not_mem harrow (by decide) (closing_not_mem_text h))

/-! ### Courses of actions -/

/-- What the action of a command does, the same for every interpreter. -/
inductive Course {σ : Type} [Host σ] (c : Command) (action : Action σ) : Prop where
  /-- It refuses the command. -/
  | malformed (hkind : c.kind ≠ .compress) (h : ∀ i, action i c.text = Action.malformed i)
  /-- It changes the simulation. Lines that were put out earlier have no say in the
  change. -/
  | change (f : Simulation → Simulation)
      (hf : ∀ s earlier, f (s.prepend earlier) = (f s).prepend (c.carry earlier))
      (h : ∀ i, action i c.text = Action.change i f)
  /-- It writes a file. Lines that were put out earlier have a say in what is written
  only if the output log is exported. -/
  | write (hc : c.kind = .log ∨ c.Exports) (name line : Bytes → Bytes)
      (content : Simulation → Bytes)
      (hcontent : ¬ c.Exports → ∀ s earlier, content (s.prepend earlier) = content s)
      (h : ∀ i, action i c.text =
        Action.confirm (i.write (name i.sink) (content i.simulation)) (line i.sink))

theorem Course.adds {σ : Type} [Host σ] {c : Command} {action : Action σ}
    {f : Simulation → Simulation} (hkind : c.kind ≠ .compress)
    (h : ∀ i, action i c.text = Action.change i f)
    (hf : ∀ s earlier, f (s.prepend earlier) = (f s).prepend earlier) : Course c action := by
  refine .change f (fun s earlier => ?_) h
  rw [hf, Command.carry_of_ne hkind]

namespace Action

variable {σ : Type} [Host σ] {c : Command}

theorem course_start (hkind : c.kind ≠ .compress) : Course c (start (σ := σ)) := by
  cases hfind : Pattern.nodeId.find? c.text with
  | none => exact .malformed hkind fun i => by rw [start, hfind]
  | some digits =>
    by_cases hle : Bytes.digitsValue digits ≤ Bytes.maxInt64
    · exact .adds hkind (fun i => by rw [start, hfind]; exact if_pos hle) fun s earlier => by simp
    · exact .malformed hkind fun i => by rw [start, hfind]; exact if_neg hle

theorem course_stop (hkind : c.kind ≠ .compress) : Course c (stop (σ := σ)) := by
  by_cases hword : Bytes.containsWord (utf8 "node [*]") c.text
  · exact .adds hkind (fun i => if_pos hword) fun s earlier => by simp
  · exact .malformed hkind fun i => if_neg hword

theorem course_stat (hkind : c.kind ≠ .compress) : Course c (stat (σ := σ)) := by
  by_cases hword : Bytes.containsWord (utf8 "Node[*]") c.text
  · exact .adds hkind (fun i => if_pos hword) fun s earlier => by simp
  · exact .adds hkind (fun i => if_neg hword) fun s earlier => by simp

theorem course_setApi (hkind : c.kind ≠ .compress) : Course c (setApi (σ := σ)) := by
  cases hfind : Pattern.nodeApi.find? c.text with
  | none => exact .malformed hkind fun i => by rw [setApi, hfind]
  | some api =>
    exact .adds hkind (fun i => by rw [setApi, hfind]) fun s earlier => by simp

theorem course_send (hkind : c.kind ≠ .compress) : Course c (send (σ := σ)) := by
  cases hfind : Pattern.sendArgument.find? c.text with
  | none => exact .malformed hkind fun i => by rw [send, hfind]
  | some argument =>
    exact .adds hkind (fun i => by rw [send, hfind]) fun s earlier => by simp

theorem course_log (hkind : c.kind = .log) : Course c (log (σ := σ)) := by
  refine .write (.inl hkind) id (fun sink => utf8 "Node statistics logged to " ++ sink ++ utf8 ".")
    (fun s => Bytes.lines s.nodes.records) ?_ fun i => rfl
  exact fun _ s earlier => rfl

theorem course_exportOutput (hkind : c.kind = .exportOutput) :
    Course c (exportOutput (σ := σ)) := by
  cases hfind : Pattern.exportPath.find? c.text with
  | none => exact .malformed (by simp [hkind]) fun i => by rw [exportOutput, hfind]
  | some path =>
    have hexports : c.Exports := ⟨hkind, by simp [hfind]⟩
    refine .write (.inr hexports) (fun _ => path)
      (fun _ => utf8 "Output exported to " ++ path ++ utf8 ".")
      (fun s => Bytes.join [newline] s.output) (absurd hexports) fun i => ?_
    rw [exportOutput, hfind]
    rfl

/-- Every action takes one of the three courses. -/
theorem course {action : Action σ} (haction : ofKind? c.kind = some action) :
    Course c action := by
  cases hc : c.kind <;> rw [hc] at haction <;> cases haction
  case start => exact course_start (by simp [hc])
  case stop => exact course_stop (by simp [hc])
  case setApi => exact course_setApi (by simp [hc])
  case connect => exact .adds (by simp [hc]) (fun i => rfl) fun s earlier => by simp
  case stat => exact course_stat (by simp [hc])
  case log => exact course_log hc
  case exportOutput => exact course_exportOutput hc
  case compress =>
    refine .change _ (fun s earlier => ?_) fun i => rfl
    simp [Command.carry, hc]
  case standalone => exact .adds (by simp [hc]) (fun i => rfl) fun s earlier => by simp
  case send => exact course_send (by simp [hc])

end Action

/-! ### Evaluation -/

namespace Interpreter

variable {σ : Type} [Host σ] {c : Command}

/-- The interpreter after the report with which the evaluation of a command begins. -/
def announce (i : Interpreter σ) (c : Command) : Interpreter σ :=
  i.report .debug [commandField c] (utf8 "evaluating")

/-- The end of an evaluation: a failure is reported, and a failed write is a fault. -/
def conclude (c : Command) : Interpreter σ × Option Failure → Interpreter σ × Option Fault
  | (i, none) => (i, none)
  | (i, some .malformed) => (i.report .debug [commandField c] (utf8 "malformed"), none)
  | (i, some (.write failure)) =>
    (i.report .error [(Event.errorField, failure.problem.message), commandField c]
      (utf8 "fault"), some ⟨c, failure⟩)

/-- The fault of a command whose action failed, if the failure is one. -/
def fault? (c : Command) : Failure → Option Fault
  | .malformed => none
  | .write failure => some ⟨c, failure⟩

theorem fault_conclude (c : Command) (outcome : Interpreter σ × Option Failure) :
    (conclude c outcome).2 = outcome.2.bind (fault? c) := by
  obtain ⟨i, _ | _ | failure⟩ := outcome
  · rfl
  · rfl
  · rfl

theorem evaluate_of_none (h : Action.ofKind? (σ := σ) c.kind = none) (i : Interpreter σ) :
    i.evaluate c = (i.report .debug [commandField c] (utf8 "ignored"), none) := by
  rw [evaluate, h]

theorem evaluate_of_some {action : Action σ} (h : Action.ofKind? c.kind = some action)
    (i : Interpreter σ) : i.evaluate c = conclude c (action (i.announce c) c.text) := by
  rw [evaluate, h]
  dsimp only
  rw [announce]
  generalize action (i.report .debug [commandField c] (utf8 "evaluating")) c.text = outcome
  obtain ⟨j, _ | _ | failure⟩ := outcome
  · rfl
  · rfl
  · rfl

theorem evaluateAll_cons (i : Interpreter σ) (c : Command) (cs : List Command) :
    i.evaluateAll (c :: cs) =
      (((i.evaluate c).1.evaluateAll cs).1,
        (i.evaluate c).2.toList ++ ((i.evaluate c).1.evaluateAll cs).2) := rfl

theorem evaluateAll_append (i : Interpreter σ) (cs ds : List Command) :
    i.evaluateAll (cs ++ ds) =
      (((i.evaluateAll cs).1.evaluateAll ds).1,
        (i.evaluateAll cs).2 ++ ((i.evaluateAll cs).1.evaluateAll ds).2) := by
  induction cs generalizing i with
  | nil => rfl
  | cons c cs ih =>
    rw [List.cons_append, evaluateAll_cons, evaluateAll_cons, ih, List.append_assoc]

end Interpreter

end NodeScript
