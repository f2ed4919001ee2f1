/-
  Faults of a script.

  Only the log command of a script can be at fault, and whether the sink can be written
  does not change while a script runs: what is written is the sink itself, and once it
  is a file it can be written again (`Rewrites.confined`). So either all log commands of a
  script succeed or all of them fail, and for the same reason (`faults_evaluateAll`).
-/
import NodeScript.Proofs.Diagnostics.Problem
import NodeScript.Proofs.Interpreter.Sink

namespace NodeScript

/-- The line that says that the sink was written. -/
def confirmation (sink : Bytes) : Bytes :=
  utf8 "Node statistics logged to " ++ sink ++ utf8 "."

namespace Interpreter

variable {c : Command}

/-! ### One command -/

/-- A log command is at fault if the sink cannot be written, and adds a line to the
output log if it can. -/
theorem evaluate_log (hlog : c.kind = .log) (i : Interpreter Bench) :
    (i.evaluate c).2 = i.sinkRefusal?.map (fun why => ⟨c, i.sink, why⟩) ∧
      (i.evaluate c).1.simulation.output =
        i.simulation.output ++ if i.sinkRefusal? = none then [confirmation i.sink] else [] := by
  obtain ⟨hworld, hfault, -⟩ := World.agrees_log i hlog
  have hstore := store_bench i.host.files i.sink (Bytes.lines (World.of i).lines)
  cases hrefusal : i.sinkRefusal? with
  | none =>
    rw [show i.host.files.refusal? i.sink = none from hrefusal] at hstore
    rw [World.apply_log_of_none hstore] at hworld hfault
    exact ⟨hfault, congrArg World.output hworld⟩
  | some why =>
    rw [show i.host.files.refusal? i.sink = some why from hrefusal] at hstore
    rw [World.apply_log_of_some hstore] at hworld hfault
    refine ⟨hfault, ?_⟩
    rw [if_neg (by simp), List.append_nil]
    exact congrArg World.output hworld

/-! ### Commands one after another -/

variable {cs : List Command}

/-- The faults of commands that do not export: none if the sink can be written, and
one for each log command if it cannot. -/
theorem faults_evaluateAll (hcs : ∀ c ∈ cs, ¬ c.Exports) (i : Interpreter Bench) :
    (i.evaluateAll cs).2 =
      match i.sinkRefusal? with
      | none => []
      | some why => (cs.filter (·.kind = .log)).map fun c => ⟨c, i.sink, why⟩ := by
  induction cs generalizing i with
  | nil => cases i.sinkRefusal? <;> rfl
  | cons c cs ih =>
    have hc := hcs c (List.mem_cons_self ..)
    have hrest := ih (fun d hd => hcs d (List.mem_cons_of_mem _ hd)) (i.evaluate c).1
    have hrewrites := rewrites_evaluate hc i
    rw [hrewrites.confined.2, hrewrites.sink] at hrest
    show (i.evaluate c).2.toList ++ ((i.evaluate c).1.evaluateAll cs).2 = _
    rw [hrest]
    by_cases hlog : c.kind = .log
    · rw [List.filter_cons_of_pos (by simpa using hlog), (evaluate_log hlog i).1]
      -- Whether the sink can be written was settled before the run began.
      cases i.sinkRefusal? with
      | none => rfl
      | some why => rfl
    · rw [List.filter_cons_of_neg (by simpa using hlog),
        (evaluate_of_ne_log hlog hc i).2]
      rfl

theorem evaluateAll_concat {σ : Type} [Host σ] (i : Interpreter σ) (cs : List Command)
    (c : Command) : (i.evaluateAll (cs ++ [c])).1 = ((i.evaluateAll cs).1.evaluate c).1 := by
  induction cs generalizing i with
  | nil => rfl
  | cons d cs ih => exact ih (i.evaluate d).1

/-- What a log command adds to the output log, wherever it stands among others. -/
theorem output_evaluateAll_concat_log (hcs : ∀ c ∈ cs, ¬ c.Exports) (hlog : c.kind = .log)
    (i : Interpreter Bench) :
    (i.evaluateAll (cs ++ [c])).1.simulation.output =
      (i.evaluateAll cs).1.simulation.output ++
        if i.sinkRefusal? = none then [confirmation i.sink] else [] := by
  have hrewrites := rewrites_evaluateAll hcs i
  rw [evaluateAll_concat, (evaluate_log hlog _).2, hrewrites.confined.2, hrewrites.sink]

end Interpreter

/-! ### Scripts -/

theorem Fault.message_log {c : Command} (hlog : c.kind = .log) (sink : Bytes) (why : Refusal) :
    (Fault.mk c ⟨sink, why⟩).problem.message =
      c.place.render ++ utf8 ": log: writing " ++ sink ++ utf8 ": " ++ why.message := by
  have hwords :
      utf8 ": log: writing " = utf8 ": " ++ utf8 "log" ++ utf8 ": " ++ utf8 "writing " := by
    decide
  show c.place.render ++ utf8 ": " ++ c.kind.name ++ utf8 ": " ++
    (utf8 "writing " ++ sink ++ utf8 ": " ++ why.message) = _
  rw [hlog, hwords]
  simp only [Kind.name, List.append_assoc]

/-- The log commands of a script are those of its brackets that are classified so. -/
theorem filter_log_readScript (label script : Bytes) :
    (readScript label script).filter (·.kind = .log) =
      ((brackets [] script).filter (classify ·.text = .log)).map fun b =>
        ⟨.log, b.text, placeAfter label b.before⟩ := by
  rw [readScript_eq_map_command, List.filter_map]
  refine List.map_congr_left fun b hb => ?_
  have hkind : classify b.text = .log := of_decide_eq_true (List.mem_filter.mp hb).2
  show Command.mk (classify b.text) b.text (placeAfter label b.before) = _
  rw [hkind]

theorem message_log_faults (label script sink : Bytes) (why : Refusal) :
    ((readScript label script).filter (·.kind = .log)).map
        (fun c => (Fault.mk c ⟨sink, why⟩).problem.message) =
      ((brackets [] script).filter (classify ·.text = .log)).map fun b =>
        (placeAfter label b.before).render ++ utf8 ": log: writing " ++ sink ++ utf8 ": " ++
          why.message := by
  rw [filter_log_readScript, List.map_map]
  exact List.map_congr_left fun b _ => Fault.message_log rfl sink why

/-- What can be told from the faults of several commands that failed in the same way. -/
theorem problem?_of_same_failure (failure : WriteFailure) (first : Command)
    (rest : List Command) :
    ∃ p, Interpreter.problem? ((first :: rest).map fun c => ⟨c, failure⟩) = some p ∧
      (∀ notes, (p.notedAll notes).fault? = some (some first, failure.problem)) ∧
      (p.isDenied ↔ failure.why = .denied) := by
  obtain ⟨p, hp⟩ : ∃ p, Interpreter.problem? ((first :: rest).map fun c => ⟨c, failure⟩) = some p :=
    ⟨_, rfl⟩
  have hdenied : ∀ c, (Fault.mk c failure).problem.isDenied ↔ failure.why = .denied := by
    intro c
    simp [Fault.problem, WriteFailure.problem]
  refine ⟨p, hp, fun notes => ?_, ?_⟩
  · rw [Problem.fault?_notedAll]
    exact Problem.fault?_join_cons hp rfl
  · rw [Problem.isDenied_of_join hp, List.any_eq_true]
    constructor
    · rintro ⟨q, hq, hdeniedq⟩
      obtain ⟨f, hf, rfl⟩ := List.mem_map.mp hq
      obtain ⟨c, -, rfl⟩ := List.mem_map.mp hf
      exact (hdenied c).mp hdeniedq
    · intro hwhy
      exact ⟨_, List.mem_cons_self .., (hdenied first).mpr hwhy⟩

/-- **The log commands of a script all succeed, or all fail.** Either there is no error,
and each of them adds its line to the output log; or there is at least one, the error of
the script is their faults in order, one for each, with the place of its `<` and the same
reason in all of them, and none adds a line. Notes in front of the error do not hide that
the first of them is at fault, and a denied permission is at the root of it exactly if
the sink is denied. -/
theorem log_commands_fail_together (i : Interpreter Bench) (label script : Bytes) :
    let commands := readScript label script
    let logs := commands.filter (·.kind = .log)
    let result := i.execute label script
    let output (cs : List Command) := (i.evaluateAll cs).1.simulation.output
    (Interpreter.problem? result.2 = none ∧
      ∀ before c after, commands = before ++ c :: after → c.kind = .log →
        output (before ++ [c]) = output before ++ [confirmation i.sink]) ∨
    (logs ≠ [] ∧ ∃ why p,
      Interpreter.problem? result.2 = some p ∧
      result.2 = logs.map (fun c => ⟨c, i.sink, why⟩) ∧
      (result.2.map (·.problem.message) =
        ((brackets [] script).filter (classify ·.text = .log)).map fun b =>
          (placeAfter label b.before).render ++ utf8 ": log: writing " ++ i.sink ++
            utf8 ": " ++ why.message) ∧
      (∀ before c after, commands = before ++ c :: after → c.kind = .log →
        output (before ++ [c]) = output before) ∧
      (∀ notes, (p.notedAll notes).fault? =
        logs.head?.map fun c => (some c, WriteFailure.problem ⟨i.sink, why⟩)) ∧
      (p.isDenied ↔ i.host.files.denies i.sink)) := by
  intro commands logs result output
  have hcommands : ∀ c ∈ commands, ¬ c.Exports := fun c => not_exports
  have hfaults : result.2 = _ := Interpreter.faults_evaluateAll hcommands i
  have houtput : ∀ before c after, commands = before ++ c :: after → c.kind = .log →
      output (before ++ [c]) =
        output before ++ if i.sinkRefusal? = none then [confirmation i.sink] else [] := by
    intro before c after hsplit hlog
    refine Interpreter.output_evaluateAll_concat_log (fun d hd => hcommands d ?_) hlog i
    rw [hsplit]
    exact List.mem_append_left _ hd
  cases hrefusal : i.sinkRefusal? with
  | none =>
    rw [hrefusal] at hfaults
    left
    refine ⟨by rw [hfaults]; rfl, fun before c after hsplit hlog => ?_⟩
    rw [houtput before c after hsplit hlog, if_pos hrefusal]
  | some why =>
    rw [hrefusal] at hfaults
    have hfaults : result.2 = logs.map fun c => ⟨c, i.sink, why⟩ := hfaults
    cases hlogs : logs with
    -- Without log commands nothing can fail.
    | nil =>
      left
      refine ⟨by rw [hfaults, hlogs]; rfl, fun before c after hsplit hlog => ?_⟩
      have hmem : c ∈ logs := by
        refine List.mem_filter.mpr ⟨?_, by simpa using hlog⟩
        rw [hsplit]
        exact List.mem_append_right _ (List.mem_cons_self ..)
      rw [hlogs] at hmem
      cases hmem
    | cons first rest =>
      right
      obtain ⟨p, hp, hfirst, hdenied⟩ := problem?_of_same_failure ⟨i.sink, why⟩ first rest
      rw [← hlogs, ← hfaults] at hp
      refine ⟨by simp, why, p, hp, by rw [hfaults, hlogs], ?_, ?_, hfirst, ?_⟩
      · rw [hfaults, List.map_map]
        exact message_log_faults label script i.sink why
      · intro before c after hsplit hlog
        rw [houtput before c after hsplit hlog, if_neg (by simp [hrefusal]), List.append_nil]
      · have hwhy : i.host.files.refusal? i.sink = some why := hrefusal
        rw [hdenied, ← Memory.refusal?_eq_denied_iff, hwhy, Option.some.injEq]

end NodeScript
