/-
  How the output log grows.

  Commands add lines at the end of the output log. The lines that were there stay in front
  of the new ones, in their order and number, trimmed if one of the commands trims the log.
  So the log after commands is what they carry over of the log before, and behind it what
  it has gained (`output_evaluateAll`). This holds for all commands, those that export the
  log included: exporting reads the log, but does not change the lines in it.
-/
import NodeScript.Proofs.Interpreter.Output

namespace NodeScript

theorem Simulation.clear_prepend (s : Simulation) : s.clear.prepend s.output = s := by
  simp [clear, prepend]

namespace Interpreter

/-! ### Lines carried over -/

variable (cs ds : List Command) (ls ls' : List Bytes)

@[simp]
theorem carryAll_nil : carryAll [] ls = ls := by simp [carryAll]

theorem carryAll_of_ne {cs : List Command} (h : ∀ c ∈ cs, c.kind ≠ .compress) :
    carryAll cs ls = ls := by
  unfold carryAll
  rw [if_neg]
  rintro ⟨c, hc, hkind⟩
  exact h c hc hkind

/-- Lines are carried over one by one. -/
theorem carryAll_append : carryAll cs (ls ++ ls') = carryAll cs ls ++ carryAll cs ls' := by
  unfold carryAll
  split
  · exact List.map_append
  · rfl

theorem carryAll_append_commands : carryAll (cs ++ ds) ls = carryAll ds (carryAll cs ls) := by
  induction cs generalizing ls with
  | nil => rw [List.nil_append, carryAll_nil]
  | cons c cs ih => rw [List.cons_append, carryAll_cons, carryAll_cons, ih]

@[simp]
theorem length_carryAll : (carryAll cs ls).length = ls.length := by
  unfold carryAll
  split
  · exact List.length_map ..
  · rfl

/-- Trimming cannot tell whether a line was trimmed before. -/
@[simp]
theorem map_trim_carryAll : (carryAll cs ls).map trim = ls.map trim := by
  unfold carryAll
  split
  · rw [List.map_map]
    exact List.map_congr_left fun l _ => trim_trim l
  · rfl

/-! ### Lines gained -/

variable {σ : Type}

theorem output_confirm (written : Interpreter σ × Option WriteFailure) (line : Bytes) :
    ∃ added, (Action.confirm written line).1.simulation.output =
      written.1.simulation.output ++ added := by
  obtain ⟨i, _ | failure⟩ := written
  · exact ⟨[line], rfl⟩
  · exact ⟨[], (List.append_nil _).symm⟩

variable [Host σ] {c : Command}

theorem output_action {action : Action σ} (haction : Action.ofKind? c.kind = some action)
    (i : Interpreter σ) :
    ∃ added, (action i c.text).1.simulation.output =
      c.carry i.simulation.output ++ added := by
  cases Action.course haction with
  | malformed hkind h =>
    rw [h, Command.carry_of_ne hkind]
    exact ⟨[], (List.append_nil _).symm⟩
  | change f hf h =>
    -- The lines of the log have no say in the change, so it is as if there were none.
    have hchange := hf i.simulation.clear i.simulation.output
    rw [Simulation.clear_prepend] at hchange
    refine ⟨(f i.simulation.clear).output, ?_⟩
    rw [h]
    exact congrArg Simulation.output hchange
  | write hc name line content _ h =>
    have hkind : c.kind ≠ .compress := by
      rcases hc with hlog | hexports
      · simp [hlog]
      · simp [hexports.1]
    rw [h, Command.carry_of_ne hkind]
    exact output_confirm ..

theorem simulation_conclude (c : Command) (outcome : Interpreter σ × Option Failure) :
    (conclude c outcome).1.simulation = outcome.1.simulation := by
  obtain ⟨i, _ | _ | failure⟩ := outcome
  · rfl
  · rfl
  · rfl

/-- A command adds lines behind those that it carries over. -/
theorem output_evaluate (i : Interpreter σ) (c : Command) :
    ∃ added, (i.evaluate c).1.simulation.output = c.carry i.simulation.output ++ added := by
  cases haction : Action.ofKind? (σ := σ) c.kind with
  | none =>
    have hkind : c.kind ≠ .compress := fun hkind => by rw [hkind] at haction; cases haction
    rw [evaluate_of_none haction, Command.carry_of_ne hkind]
    exact ⟨[], (List.append_nil _).symm⟩
  | some action =>
    rw [evaluate_of_some haction, simulation_conclude]
    exact output_action haction (i.announce c)

/-- What the output log gains by commands: all that stands behind as many lines as there
were. -/
def gain (i : Interpreter σ) (cs : List Command) : List Bytes :=
  (i.evaluateAll cs).1.simulation.output.drop i.simulation.output.length

/-- **The output log grows at its end.** -/
theorem output_evaluateAll (i : Interpreter σ) (cs : List Command) :
    (i.evaluateAll cs).1.simulation.output =
      carryAll cs i.simulation.output ++ i.gain cs := by
  obtain ⟨added, hadded⟩ : ∃ added, (i.evaluateAll cs).1.simulation.output =
      carryAll cs i.simulation.output ++ added := by
    induction cs generalizing i with
    | nil => exact ⟨[], by rw [carryAll_nil, List.append_nil]; rfl⟩
    | cons c cs ih =>
      obtain ⟨first, hfirst⟩ := i.output_evaluate c
      obtain ⟨rest, hrest⟩ := ih (i.evaluate c).1
      refine ⟨carryAll cs first ++ rest, ?_⟩
      rw [evaluateAll_cons, hrest, hfirst, carryAll_append, carryAll_cons, List.append_assoc]
  have hgain : i.gain cs = added := by
    rw [gain, hadded, ← length_carryAll cs, List.drop_left]
  rw [hadded, hgain]

end Interpreter

end NodeScript
