/-
  Reports change nothing.

  Two interpreters are alike if they have the same files, the same sink and the same
  simulation; what was reported and printed may differ. Whatever is reported leaves an
  interpreter alike (`Alike.report`), and alike interpreters stay alike under the same
  commands, with the same commands at fault (`Alike.evaluate`).
-/
import NodeScript.Proofs.Interpreter.Course

namespace NodeScript

namespace Interpreter

variable {σ φ : Type} [FileHost σ φ] {i j k : Interpreter σ} {c : Command}

/-- Two interpreters that differ at most in what was reported and printed. -/
structure Alike (i j : Interpreter σ) : Prop where
  files : FileHost.files i.host = FileHost.files j.host
  sink : i.sink = j.sink
  simulation : i.simulation = j.simulation

namespace Alike

theorem refl (i : Interpreter σ) : Alike i i := ⟨rfl, rfl, rfl⟩

theorem symm (h : Alike i j) : Alike j i := ⟨h.files.symm, h.sink.symm, h.simulation.symm⟩

theorem trans (h : Alike i j) (h' : Alike j k) : Alike i k :=
  ⟨h.files.trans h'.files, h.sink.trans h'.sink, h.simulation.trans h'.simulation⟩

theorem report (i : Interpreter σ) (level : Level) (fields : List (Bytes × Bytes))
    (message : Bytes) : Alike (i.report level fields message) i :=
  ⟨FileHost.files_report .., rfl, rfl⟩

theorem write (h : Alike i j) (name content : Bytes) :
    Alike (i.write name content).1 (j.write name content).1 ∧
      (i.write name content).2 = (j.write name content).2 := by
  have hi := FileHost.files_write i.host name content
  have hj := FileHost.files_write j.host name content
  rw [h.files, ← hj] at hi
  obtain ⟨hfiles, hrefusal⟩ := Prod.mk.inj hi
  refine ⟨⟨hfiles, h.sink, h.simulation⟩, ?_⟩
  exact congrArg (Option.map (WriteFailure.mk name)) hrefusal

theorem update (h : Alike i j) (f : Simulation → Simulation) :
    Alike (i.update f) (j.update f) :=
  ⟨h.files, h.sink, congrArg f h.simulation⟩

theorem confirm {w w' : Interpreter σ × Option WriteFailure} (h : Alike w.1 w'.1)
    (hw : w.2 = w'.2) (line : Bytes) :
    Alike (Action.confirm w line).1 (Action.confirm w' line).1 ∧
      (Action.confirm w line).2 = (Action.confirm w' line).2 := by
  obtain ⟨i, failure⟩ := w
  obtain ⟨j, failure'⟩ := w'
  obtain rfl : failure = failure' := hw
  cases failure with
  | none => exact ⟨h.update (·.append line), rfl⟩
  | some failure => exact ⟨h, rfl⟩

/-- What is reported at the end leaves the outcome of an action alike. -/
theorem conclude (c : Command) (outcome : Interpreter σ × Option Failure) :
    Alike (Interpreter.conclude c outcome).1 outcome.1 := by
  obtain ⟨i, _ | _ | failure⟩ := outcome
  · exact .refl i
  · exact .report ..
  · exact .report ..

theorem action {action : Action σ} (haction : Action.ofKind? c.kind = some action)
    (h : Alike i j) :
    Alike (action i c.text).1 (action j c.text).1 ∧
      (action i c.text).2 = (action j c.text).2 := by
  cases Action.course haction with
  | malformed _ hmalformed =>
    rw [hmalformed, hmalformed]
    exact ⟨h, rfl⟩
  | change f _ hchange =>
    rw [hchange, hchange]
    exact ⟨h.update f, rfl⟩
  | write _ name line content _ hwrite =>
    rw [hwrite, hwrite, h.sink, h.simulation]
    obtain ⟨halike, hfailure⟩ := h.write (name j.sink) (content j.simulation)
    exact halike.confirm hfailure _

/-- Alike interpreters stay alike, and the same commands are at fault. -/
theorem evaluate (h : Alike i j) (c : Command) :
    Alike (i.evaluate c).1 (j.evaluate c).1 ∧ (i.evaluate c).2 = (j.evaluate c).2 := by
  cases haction : Action.ofKind? (σ := σ) c.kind with
  | none =>
    rw [evaluate_of_none haction, evaluate_of_none haction]
    exact ⟨(report ..).trans (h.trans (report ..).symm), rfl⟩
  | some a =>
    rw [evaluate_of_some haction, evaluate_of_some haction]
    have hannounce : Alike (i.announce c) (j.announce c) :=
      (report ..).trans (h.trans (report ..).symm)
    obtain ⟨halike, hfailure⟩ := hannounce.action haction
    refine ⟨(conclude ..).trans (halike.trans (conclude ..).symm), ?_⟩
    rw [fault_conclude, fault_conclude, hfailure]

theorem evaluateAll (h : Alike i j) (cs : List Command) :
    Alike (i.evaluateAll cs).1 (j.evaluateAll cs).1 ∧
      (i.evaluateAll cs).2 = (j.evaluateAll cs).2 := by
  induction cs generalizing i j with
  | nil => exact ⟨h, rfl⟩
  | cons c cs ih =>
    obtain ⟨halike, hfault⟩ := h.evaluate c
    obtain ⟨hrest, hfaults⟩ := ih halike
    rw [evaluateAll_cons, evaluateAll_cons, hfault, hfaults]
    exact ⟨hrest, rfl⟩

end Alike

end Interpreter

end NodeScript
