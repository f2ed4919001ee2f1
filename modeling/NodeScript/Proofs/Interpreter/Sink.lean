/-
  Scripts write nothing but the sink.

  To export the output log, a command has to spell `=>`, and no command of a script can:
  its text ends before the first `>` (`not_exports`). What is left to write files is the
  log command, and it writes the sink. So whatever its surroundings are, a script asks
  nothing of them but to take notice of events and to write the sink, once for each log
  command in it (`rewrites_evaluateAll`). In memory this leaves every other file as it was,
  and it does not change whether the sink can be written (`Rewrites.confined`).
-/
import NodeScript.Proofs.Interpreter.Failures

namespace NodeScript

/-! ### Errands -/

/-- What an interpreter can ask of its surroundings as long as it exports nothing. -/
inductive Errand where
  /-- To take notice of an event. -/
  | report (e : Event)
  /-- To write the sink. -/
  | write (content : Bytes)

namespace Errand

def isWrite : Errand → Bool
  | .report _ => false
  | .write _ => true

/-- The surroundings after an errand. -/
def perform {σ : Type} [Host σ] (sink : Bytes) (host : σ) : Errand → σ
  | .report e => Host.report host e
  | .write content => (Host.write host sink content).1

end Errand

namespace Interpreter

section Host

variable {σ : Type} [Host σ] {i j k : Interpreter σ} {m n : Nat} {c : Command}

/-- On the way from `i` to `j`, nothing was asked of the surroundings but to take notice
of events and to write the sink a number of times. -/
structure Rewrites (i j : Interpreter σ) (times : Nat) : Prop where
  sink : j.sink = i.sink
  host : ∃ errands : List Errand, errands.countP Errand.isWrite = times ∧
    j.host = errands.foldl (Errand.perform i.sink) i.host

namespace Rewrites

theorem refl (i : Interpreter σ) : i.Rewrites i 0 := ⟨rfl, [], rfl, rfl⟩

theorem trans (h : i.Rewrites j m) (h' : j.Rewrites k n) : i.Rewrites k (m + n) := by
  obtain ⟨hsink, errands, herrands, hhost⟩ := h
  obtain ⟨hsink', errands', herrands', hhost'⟩ := h'
  refine ⟨hsink'.trans hsink, errands ++ errands', ?_, ?_⟩
  · rw [List.countP_append, herrands, herrands']
  · rw [hhost', hsink, hhost, List.foldl_append]

theorem update (i : Interpreter σ) (f : Simulation → Simulation) : i.Rewrites (i.update f) 0 :=
  ⟨rfl, [], rfl, rfl⟩

theorem report (i : Interpreter σ) (level : Level) (fields : List (Bytes × Bytes))
    (message : Bytes) : i.Rewrites (i.report level fields message) 0 :=
  ⟨rfl, [.report (i.event level fields message)], rfl, rfl⟩

theorem write (i : Interpreter σ) (content : Bytes) :
    i.Rewrites (i.write i.sink content).1 1 :=
  ⟨rfl, [.write content], rfl, rfl⟩

theorem confirm (written : Interpreter σ × Option WriteFailure) (line : Bytes) :
    written.1.Rewrites (Action.confirm written line).1 0 := by
  obtain ⟨i, _ | failure⟩ := written
  · exact .update i (·.append line)
  · exact .refl i

theorem conclude (c : Command) (outcome : Interpreter σ × Option Failure) :
    outcome.1.Rewrites (Interpreter.conclude c outcome).1 0 := by
  obtain ⟨i, _ | _ | failure⟩ := outcome
  · exact .refl i
  · exact .report i ..
  · exact .report i ..

/-- What every errand preserves holds of the surroundings in the end. -/
theorem preserves {P : σ → Prop} (h : i.Rewrites j n)
    (hstep : ∀ host (errand : Errand), P host → P (errand.perform i.sink host)) (hi : P i.host) :
    P j.host := by
  obtain ⟨-, errands, -, hhost⟩ := h
  rw [hhost]
  clear hhost
  generalize i.host = host at hi ⊢
  induction errands generalizing host with
  | nil => exact hi
  | cons errand errands ih => exact ih _ (hstep host errand hi)

end Rewrites

/-! ### Commands -/

/-- A command that neither logs nor exports does not write and cannot be at fault. -/
theorem evaluate_of_ne_log (hlog : c.kind ≠ .log) (hc : ¬ c.Exports) (i : Interpreter σ) :
    i.Rewrites (i.evaluate c).1 0 ∧ (i.evaluate c).2 = none := by
  cases haction : Action.ofKind? (σ := σ) c.kind with
  | none =>
    rw [evaluate_of_none haction]
    exact ⟨.report i .., rfl⟩
  | some action =>
    have hannounce : i.Rewrites (i.announce c) 0 := .report i ..
    rw [evaluate_of_some haction]
    cases Action.course haction with
    | malformed _ hmalformed =>
      rw [hmalformed]
      exact ⟨hannounce.trans (.report ..), rfl⟩
    | change f _ hchange =>
      rw [hchange]
      exact ⟨hannounce.trans (.update _ f), rfl⟩
    -- Only commands that log or export write at all.
    | write hwrites =>
      rcases hwrites with hkind | hexports
      · exact absurd hkind hlog
      · exact absurd hexports hc

/-- A log command writes the sink once, whether it succeeds or not. -/
theorem rewrites_evaluate_log (hlog : c.kind = .log) (i : Interpreter σ) :
    i.Rewrites (i.evaluate c).1 1 := by
  have haction : Action.ofKind? (σ := σ) c.kind = some Action.log := by rw [hlog]; rfl
  have hannounce : i.Rewrites (i.announce c) 0 := .report i ..
  rw [evaluate_of_some haction]
  exact ((hannounce.trans (.write ..)).trans (.confirm ..)).trans (.conclude c _)

theorem rewrites_evaluate (hc : ¬ c.Exports) (i : Interpreter σ) :
    i.Rewrites (i.evaluate c).1 (if c.kind = .log then 1 else 0) := by
  by_cases hlog : c.kind = .log
  · rw [if_pos hlog]
    exact rewrites_evaluate_log hlog i
  · rw [if_neg hlog]
    exact (evaluate_of_ne_log hlog hc i).1

theorem rewrites_evaluateAll {cs : List Command} (hcs : ∀ c ∈ cs, ¬ c.Exports)
    (i : Interpreter σ) : i.Rewrites (i.evaluateAll cs).1 (cs.countP (·.kind = .log)) := by
  induction cs generalizing i with
  | nil => exact .refl i
  | cons c cs ih =>
    have hc := rewrites_evaluate (hcs c (List.mem_cons_self ..)) i
    have hrest := ih (fun d hd => hcs d (List.mem_cons_of_mem _ hd)) (i.evaluate c).1
    rw [List.countP_cons, Nat.add_comm]
    simp only [decide_eq_true_eq]
    exact hc.trans hrest

/-- Without a place to export it to, the output log is not exported. -/
theorem ending_eq_malformed (i : Interpreter σ) (hkind : c.kind = .exportOutput)
    (hc : ¬ c.Exports) : i.ending c = .malformed := by
  have hfind : Pattern.exportPath.find? c.text = none := by
    by_contra hfind
    exact hc ⟨hkind, hfind⟩
  rw [ending, hkind]
  show Ending.ofFailure (Action.exportOutput (i.announce c) c.text).2 = .malformed
  rw [Action.exportOutput, hfind]
  rfl

end Host

/-! ### Files -/

/-- What is not written stays as it is. -/
theorem Rewrites.files_eq {σ φ : Type} [FileHost σ φ] {i j : Interpreter σ}
    (h : i.Rewrites j 0) : FileHost.files j.host = FileHost.files i.host := by
  obtain ⟨-, errands, herrands, hhost⟩ := h
  rw [hhost]
  clear hhost
  generalize i.host = host
  induction errands generalizing host with
  | nil => rfl
  | cons errand errands ih =>
    rw [List.countP_eq_zero, List.forall_mem_cons] at herrands
    obtain ⟨herrand, herrands⟩ := herrands
    cases errand with
    | report e =>
      exact (ih (List.countP_eq_zero.mpr herrands) _).trans (FileHost.files_report ..)
    | write content => exact absurd rfl herrand

/-- Why the sink cannot be written, if it cannot. -/
def sinkRefusal? (i : Interpreter Bench) : Option Refusal := i.host.files.refusal? i.sink

/-- An errand changes no file but the sink, and not whether the sink can be written. -/
theorem confined_perform (sink : Bytes) (b : Bench) (errand : Errand) :
    Memory.Confined (Memory.place sink) b.files (errand.perform sink b).files ∧
      (errand.perform sink b).files.refusal? sink = b.files.refusal? sink := by
  cases errand with
  | report e => exact ⟨.refl .., rfl⟩
  | write content =>
    have hstore := (FileHost.files_write b sink content).trans (store_bench b.files sink content)
    have hfiles : (Errand.perform sink b (.write content)).files = _ := congrArg Prod.fst hstore
    rw [hfiles]
    -- A refused write leaves the bench as it is, and so refused for the same reason.
    cases hrefusal : b.files.refusal? sink with
    | none => exact ⟨.put .., Memory.refusal?_put hrefusal content⟩
    | some why => exact ⟨.refl .., hrefusal⟩

/-- Whatever was asked for, no file but the sink has changed, and whether the sink can be
written has not changed. -/
theorem Rewrites.confined {i j : Interpreter Bench} {times : Nat} (h : i.Rewrites j times) :
    Memory.Confined (Memory.place i.sink) i.host.files j.host.files ∧
      j.sinkRefusal? = i.sinkRefusal? := by
  unfold sinkRefusal?
  rw [h.sink]
  refine h.preserves (P := fun b => Memory.Confined (Memory.place i.sink) i.host.files b.files ∧
    b.files.refusal? i.sink = i.host.files.refusal? i.sink) (fun b errand hb => ?_) ⟨.refl .., rfl⟩
  obtain ⟨herrand, hrefusal⟩ := confined_perform i.sink b errand
  exact ⟨hb.1.trans herrand, hrefusal.trans hb.2⟩

end Interpreter

/-! ### Scripts -/

/-- How many commands of a script are of a kind does not depend on the name that the
script goes by. -/
theorem countP_kind_readScript (p : Kind → Bool) (label label' script : Bytes) :
    (readScript label script).countP (fun c => p c.kind) =
      (readScript label' script).countP (fun c => p c.kind) := by
  rw [readScript_eq_map_command, readScript_eq_map_command, List.countP_map, List.countP_map]
  rfl

/-- However a script is carried out, it writes the sink once for each log command. -/
theorem Interpreter.rewrites_script {σ : Type} [Host σ] {i j : Interpreter σ}
    {label script : Bytes} (hj : j ∈ [(i.execute label script).1, (i.run script).1]) :
    i.Rewrites j ((readScript label script).countP (·.kind = .log)) := by
  rcases List.mem_pair.mp hj with rfl | rfl
  · exact rewrites_evaluateAll (fun c => not_exports) i
  · have hclear : i.Rewrites (i.update Simulation.clear) 0 := .update i _
    have hcommands : ∀ c ∈ readScript (utf8 "script") script, ¬ c.Exports :=
      fun c => not_exports
    have hrun := hclear.trans (rewrites_evaluateAll hcommands (i.update Simulation.clear))
    rw [Nat.zero_add] at hrun
    rw [countP_kind_readScript (· = .log) label (utf8 "script")]
    exact hrun

/-- **A script can write the sink and nothing else.** Whatever its surroundings are,
executing or running it asks nothing of them but to take notice of events and to write the
sink, once for each log command in it; without a log command all files stay as they are.
In memory, every file under a name that does not lead to the sink keeps its content, and
apart from the sink only missing directories on the way to it come into being. A command
of a script that is to export the output log is malformed. -/
theorem scripts_write_only_sink (label script : Bytes) :
    (∀ (σ : Type) [Host σ] (i : Interpreter σ),
      ∀ j ∈ [(i.execute label script).1, (i.run script).1],
        i.Rewrites j ((readScript label script).countP (·.kind = .log))) ∧
    (∀ (σ φ : Type) [FileHost σ φ] (i : Interpreter σ),
      ∀ j ∈ [(i.execute label script).1, (i.run script).1],
        (∀ c ∈ readScript label script, c.kind ≠ .log) →
          FileHost.files j.host = FileHost.files i.host) ∧
    (∀ i : Interpreter Bench, ∀ j ∈ [(i.execute label script).1, (i.run script).1],
      Memory.Confined (Memory.place i.sink) i.host.files j.host.files ∧
        ∀ name content, Memory.place name ≠ Memory.place i.sink →
          (j.host.files.read name = .ok content ↔ i.host.files.read name = .ok content)) ∧
    ∀ c ∈ readScript label script, c.kind = .exportOutput →
      ∀ (σ : Type) [Host σ] (i : Interpreter σ), i.ending c = .malformed := by
  refine ⟨?_, ?_, ?_, ?_⟩
  · intro σ _ i j hj
    exact Interpreter.rewrites_script hj
  · intro σ φ _ i j hj hcommands
    have hnone : (readScript label script).countP (·.kind = .log) = 0 := by
      rw [List.countP_eq_zero]
      intro c hc
      simpa using hcommands c hc
    have hrewrites := Interpreter.rewrites_script hj
    rw [hnone] at hrewrites
    exact hrewrites.files_eq
  · intro i j hj
    have hconfined := (Interpreter.rewrites_script hj).confined.1
    exact ⟨hconfined, fun name content hname => hconfined.read_eq_ok_iff hname content⟩
  · intro c hc hkind σ _ i
    exact i.ending_eq_malformed hkind (not_exports hc)

end NodeScript
