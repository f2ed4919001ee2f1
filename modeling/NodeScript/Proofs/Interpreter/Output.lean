/-
  Output that is there already.

  Lines that were put out before a script have no say in what the script does: they
  stay in front of what the script puts out, trimmed if one of its commands trims the
  output log, and all else is the same as if the log had been empty, down to what is
  reported. One command of any number of them is enough to trim all lines, because
  trimming twice is trimming once. The one exception would be a command that exports the
  log, and scripts have none.
-/
import NodeScript.Proofs.Interpreter.Course

namespace NodeScript

namespace Interpreter

variable {σ : Type} [Host σ] {c : Command}

/-! ### One command -/

theorem write_prepend (i : Interpreter σ) (earlier : List Bytes) (name content : Bytes) :
    (i.prepend earlier).write name content =
      ((i.write name content).1.prepend earlier, (i.write name content).2) := rfl

theorem conclude_prepend (outcome : Interpreter σ × Option Failure) (earlier : List Bytes) :
    conclude c (outcome.1.prepend earlier, outcome.2) =
      ((conclude c outcome).1.prepend earlier, (conclude c outcome).2) := by
  obtain ⟨i, _ | _ | failure⟩ := outcome
  · rfl
  · rfl
  · rfl

theorem action_prepend {action : Action σ} (haction : Action.ofKind? c.kind = some action)
    (hc : ¬ c.Exports) (i : Interpreter σ) (earlier : List Bytes) :
    action (i.prepend earlier) c.text =
      ((action i c.text).1.prepend (c.carry earlier), (action i c.text).2) := by
  cases Action.course haction with
  | malformed hkind h =>
    rw [h, h, Command.carry_of_ne hkind]
    rfl
  | change f hf h =>
    rw [h, h]
    show ({ i with simulation := f (i.simulation.prepend earlier) }, none) = _
    rw [hf]
    rfl
  | write hkind name line content hcontent h =>
    have hcompress : c.kind ≠ .compress := by
      rcases hkind with hlog | hexports
      · simp [hlog]
      · exact absurd hexports hc
    -- The statistics are all that is written, and they do not show the output log.
    have hsame : content (i.prepend earlier).simulation = content i.simulation :=
      hcontent hc i.simulation earlier
    rw [h, h, Command.carry_of_ne hcompress, hsame, write_prepend, Action.confirm_prepend]
    rfl

/-- Lines that were put out earlier stay in front of what a command puts out, and
change nothing else about it, not even what is reported. -/
theorem evaluate_prepend (hc : ¬ c.Exports) (i : Interpreter σ) (earlier : List Bytes) :
    (i.prepend earlier).evaluate c =
      ((i.evaluate c).1.prepend (c.carry earlier), (i.evaluate c).2) := by
  cases haction : Action.ofKind? (σ := σ) c.kind with
  | none =>
    have hkind : c.kind ≠ .compress := fun hkind => by rw [hkind] at haction; cases haction
    rw [evaluate_of_none haction, evaluate_of_none haction, Command.carry_of_ne hkind]
    rfl
  | some action =>
    have hannounce : (i.prepend earlier).announce c = (i.announce c).prepend earlier := rfl
    rw [evaluate_of_some haction, evaluate_of_some haction, hannounce,
      action_prepend haction hc, conclude_prepend]

/-! ### Commands one after another -/

/-- What becomes of the lines that stand in the output log before several commands. -/
def carryAll (cs : List Command) (earlier : List Bytes) : List Bytes :=
  if ∃ c ∈ cs, c.kind = .compress then earlier.map trim else earlier

theorem carryAll_cons (c : Command) (cs : List Command) (earlier : List Bytes) :
    carryAll (c :: cs) earlier = carryAll cs (c.carry earlier) := by
  have htrim : (earlier.map trim).map trim = earlier.map trim := by
    rw [List.map_map]
    exact List.map_congr_left fun line _ => trim_trim line
  unfold carryAll Command.carry
  by_cases hc : c.kind = .compress
  · rw [if_pos ⟨c, List.mem_cons_self .., hc⟩, if_pos hc, htrim, ite_self]
  · have hiff : (∃ d ∈ c :: cs, d.kind = .compress) ↔ ∃ d ∈ cs, d.kind = .compress := by
      simp [hc]
    simp only [hiff, if_neg hc]

theorem evaluateAll_prepend {cs : List Command} (hcs : ∀ c ∈ cs, ¬ c.Exports)
    (i : Interpreter σ) (earlier : List Bytes) :
    (i.prepend earlier).evaluateAll cs =
      ((i.evaluateAll cs).1.prepend (carryAll cs earlier), (i.evaluateAll cs).2) := by
  induction cs generalizing i earlier with
  | nil => rfl
  | cons c cs ih =>
    have hrest := ih (fun d hd => hcs d (List.mem_cons_of_mem _ hd)) (i.evaluate c).1
      (c.carry earlier)
    rw [evaluateAll, evaluate_prepend (hcs c (List.mem_cons_self ..))]
    dsimp only
    rw [hrest, carryAll_cons]
    rfl

end Interpreter

/-- **Earlier output has no say in what a script does.** Running a script, which clears
the output log first, and executing it lead to the same nodes, API, surroundings and
faults. After executing it, the log holds what was in it, with every line trimmed if the
script trims the log, and then what running it puts out. So what running it puts out is
the same whatever the log held. -/
theorem earlier_output_has_no_say {σ : Type} [Host σ] (i : Interpreter σ) (script : Bytes) :
    let commands := readScript (utf8 "script") script
    let executed := i.execute (utf8 "script") script
    let ran := i.run script
    let earlier :=
      if ∃ c ∈ commands, c.kind = .compress then i.simulation.output.map trim
      else i.simulation.output
    ran.1.simulation.nodes = executed.1.simulation.nodes ∧
    ran.1.simulation.api = executed.1.simulation.api ∧
    ran.1.host = executed.1.host ∧
    ran.2 = executed.2 ∧
    executed.1.simulation.output = earlier ++ ran.1.simulation.output ∧
    ∀ other : List Bytes,
      ((i.update fun s => { s with output := other }).run script).1.simulation.output =
        ran.1.simulation.output := by
  intro commands executed ran earlier
  have hcleared : i = (i.update Simulation.clear).prepend i.simulation.output := by
    simp [Interpreter.prepend, Interpreter.update, Simulation.prepend, Simulation.clear]
  have hexecuted : executed = (ran.1.prepend earlier, ran.2) := by
    show i.evaluateAll commands = _
    rw [hcleared]
    exact Interpreter.evaluateAll_prepend (fun c => not_exports) _ _
  rw [hexecuted]
  exact ⟨rfl, rfl, rfl, rfl, rfl, fun other => rfl⟩

end NodeScript
