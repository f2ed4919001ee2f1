/-
  Statistics of nodes, in the sink and in the output log.

  A log command puts one line for each node that is known at that moment in the sink, in the
  stead of what the sink held. The commands of a script that come after its last log command
  go on changing the nodes, but not the files. So after a script without faults the sink holds
  the lines of the nodes as they were when the last log command came (`store_last_log`), and
  nothing else. A stat command adds the same lines to the output log, behind a header.
-/
import NodeScript.Proofs.Interpreter.Faults
import NodeScript.Proofs.Interpreter.Growth
import NodeScript.Proofs.Simulation.Records

namespace NodeScript

/-- If a command with a property is there, there is a last one. -/
theorem exists_last {p : Command → Prop} {cs : List Command} (h : ∃ c ∈ cs, p c) :
    ∃ before c after, cs = before ++ c :: after ∧ p c ∧ ∀ d ∈ after, ¬ p d := by
  induction cs with
  | nil =>
    obtain ⟨c, hc, -⟩ := h
    cases hc
  | cons c cs ih =>
    by_cases hrest : ∃ d ∈ cs, p d
    · obtain ⟨before, d, after, rfl, hd, hafter⟩ := ih hrest
      exact ⟨c :: before, d, after, rfl, hd, hafter⟩
    · have hc : p c := by
        obtain ⟨d, hd, hpd⟩ := h
        rcases List.mem_cons.mp hd with rfl | hd
        · exact hpd
        · exact absurd ⟨d, hd, hpd⟩ hrest
      exact ⟨[], c, cs, rfl, hc, fun d hd hpd => hrest ⟨d, hd, hpd⟩⟩

/-- The number of the node that a command asks to start, if there is such a node. -/
def Command.started? (c : Command) : Option Int :=
  (Pattern.nodeId.find? c.text).bind fun digits =>
    if Bytes.digitsValue digits ≤ Bytes.maxInt64 then some (Bytes.digitsValue digits) else none

namespace Interpreter

variable {c : Command}

/-! ### The last log command -/

section FileHost

variable {σ φ : Type} [FileHost σ φ] {i : Interpreter σ} {before after : List Command}

/-- A log command that is not at fault has written the lines of the nodes. -/
theorem store_of_evaluate_log (hlog : c.kind = .log) (hfault : (i.evaluate c).2 = none) :
    FileHost.store σ (FileHost.files i.host) i.sink (Bytes.lines i.simulation.nodes.records) =
      (FileHost.files (i.evaluate c).1.host, none) := by
  obtain ⟨hworld, houtcome, -⟩ := World.agrees_log i hlog
  rw [World.records_eq_lines i.simulation (FileHost.files i.host)]
  rcases hstore : FileHost.store σ (FileHost.files i.host) i.sink (Bytes.lines (World.of i).lines)
    with ⟨files, _ | why⟩
  · rw [World.apply_log_of_none hstore] at hworld
    have hfiles : FileHost.files (i.evaluate c).1.host = files := congrArg World.files hworld
    rw [hfiles]
    exact hstore
  · rw [World.apply_log_of_some hstore, hfault] at houtcome
    cases houtcome

theorem files_evaluateAll_of_ne_log {cs : List Command} (hcs : ∀ d ∈ cs, ¬ d.Exports)
    (hlog : ∀ d ∈ cs, d.kind ≠ .log) (i : Interpreter σ) :
    FileHost.files (i.evaluateAll cs).1.host = FileHost.files i.host := by
  have hrewrites := rewrites_evaluateAll hcs i
  have hnone : cs.countP (·.kind = .log) = 0 := by
    rw [List.countP_eq_zero]
    intro d hd
    simpa using hlog d hd
  rw [hnone] at hrewrites
  exact hrewrites.files_eq

/-- **The last log command decides what is in the sink.** -/
theorem store_last_log (hcs : ∀ d ∈ before ++ c :: after, ¬ d.Exports) (hlog : c.kind = .log)
    (hafter : ∀ d ∈ after, d.kind ≠ .log)
    (hfaults : (i.evaluateAll (before ++ c :: after)).2 = []) :
    let j := (i.evaluateAll before).1
    FileHost.store σ (FileHost.files j.host) i.sink (Bytes.lines j.simulation.nodes.records) =
      (FileHost.files (i.evaluateAll (before ++ c :: after)).1.host, none) := by
  intro j
  obtain ⟨hbefore, hrest⟩ := List.forall_mem_append.mp hcs
  have hsink : j.sink = i.sink := (rewrites_evaluateAll hbefore i).sink
  rw [evaluateAll_append, evaluateAll_cons] at hfaults ⊢
  -- No fault in all means none of the log command, which has then written the sink.
  have hfault : (j.evaluate c).2 = none := by
    have hnil := (List.append_eq_nil_iff.mp (List.append_eq_nil_iff.mp hfaults).2).1
    exact Option.toList_eq_nil_iff.mp hnil
  have hfiles := files_evaluateAll_of_ne_log (fun d hd => hrest d (List.mem_cons_of_mem _ hd))
    hafter (j.evaluate c).1
  rw [← hsink, store_of_evaluate_log hlog hfault]
  exact congrArg (·, none) hfiles.symm

end FileHost

variable {σ : Type} [Host σ] {cs cs' : List Command}

/-! ### Starts in any order -/

theorem nodes_evaluate_start (hkind : c.kind = .start) (i : Interpreter σ) :
    (i.evaluate c).1.simulation.nodes =
      c.started?.toList.foldl NodeTable.start i.simulation.nodes := by
  have haction : Action.ofKind? (σ := σ) c.kind = some Action.start := by rw [hkind]; rfl
  rw [evaluate_of_some haction, simulation_conclude, Action.start, Command.started?]
  cases Pattern.nodeId.find? c.text with
  | none => rfl
  | some digits =>
    dsimp only [Option.bind_some]
    split
    · rfl
    · rfl

theorem nodes_evaluateAll_starts (hcs : ∀ c ∈ cs, c.kind = .start) (i : Interpreter σ) :
    (i.evaluateAll cs).1.simulation.nodes =
      (cs.filterMap Command.started?).foldl NodeTable.start i.simulation.nodes := by
  induction cs generalizing i with
  | nil => rfl
  | cons c cs ih =>
    obtain ⟨hc, hcs⟩ := List.forall_mem_cons.mp hcs
    rw [evaluateAll_cons, ih hcs, nodes_evaluate_start hc, List.filterMap_cons]
    cases c.started? with
    | none => rfl
    | some n => rfl

/-- In which order commands start nodes does not show. -/
theorem nodes_evaluateAll_perm (hperm : cs.Perm cs') (hcs : ∀ c ∈ cs, c.kind = .start)
    (i : Interpreter σ) :
    (i.evaluateAll cs).1.simulation.nodes = (i.evaluateAll cs').1.simulation.nodes := by
  have hcs' : ∀ c ∈ cs', c.kind = .start := fun c hc => hcs c (hperm.mem_iff.mpr hc)
  rw [nodes_evaluateAll_starts hcs, nodes_evaluateAll_starts hcs']
  exact NodeTable.foldl_start_congr _ fun n => (hperm.filterMap Command.started?).mem_iff

/-! ### Stat commands -/

theorem output_evaluate_stat (hkind : c.kind = .stat)
    (hall : Bytes.containsWord (utf8 "Node[*]") c.text = true) (i : Interpreter σ) :
    (i.evaluate c).1.simulation.output =
      i.simulation.output ++ utf8 "Node statistics:" :: i.simulation.nodes.records := by
  have haction : Action.ofKind? (σ := σ) c.kind = some Action.stat := by rw [hkind]; rfl
  rw [evaluate_of_some haction, simulation_conclude, Action.stat, if_pos hall]
  rfl

end Interpreter

/-- **What a log command leaves behind.** After a script that has a log command and runs
without fault, the sink holds one line for each node that was known when the last log command
came, and nothing else. The lines tell the number and the status of each known node, once and
in ascending order. Two tables have the same lines exactly if the same is known in both, and in
which order nodes were started does not show. A stat command for all nodes adds the same lines
to the output log, behind a header. -/
theorem sink_holds_statistics_of_last_log :
    (∀ (i : Interpreter Bench) (label script : Bytes),
      (∃ c ∈ readScript label script, c.kind = .log) → (i.execute label script).2 = [] →
      ∃ before c after, readScript label script = before ++ c :: after ∧ c.kind = .log ∧
        (∀ d ∈ after, d.kind ≠ .log) ∧
        (i.execute label script).1.host.files.read i.sink =
          .ok (Bytes.lines (i.evaluateAll before).1.simulation.nodes.records)) ∧
    (∀ t : NodeTable,
      Ascending t.entries ∧ (∀ n s, (n, s) ∈ t.entries ↔ t.get? n = some s) ∧
      t.records = t.entries.map fun (n, s) =>
        utf8 "Node " ++ Bytes.ofInt n ++ utf8 ": \x7bstatus: " ++ s.name ++ utf8 "\x7d") ∧
    (∀ t t' : NodeTable,
      Bytes.lines t.records = Bytes.lines t'.records ↔ ∀ n, t.get? n = t'.get? n) ∧
    ∀ (σ : Type) [Host σ] (i : Interpreter σ),
      (∀ cs cs' : List Command, cs.Perm cs' → (∀ c ∈ cs, c.kind = .start) →
        (i.evaluateAll cs).1.simulation.nodes.records =
          (i.evaluateAll cs').1.simulation.nodes.records) ∧
      ∀ c : Command, c.kind = .stat → Bytes.containsWord (utf8 "Node[*]") c.text = true →
        (i.evaluate c).1.simulation.output =
          i.simulation.output ++ utf8 "Node statistics:" :: i.simulation.nodes.records := by
  refine ⟨?_, ?_, fun t t' => NodeTable.lines_records_inj, fun σ _ i => ⟨?_, ?_⟩⟩
  · intro i label script hlog hfaults
    obtain ⟨before, c, after, hsplit, hc, hafter⟩ := exists_last hlog
    have hcommands : ∀ d ∈ before ++ c :: after, ¬ d.Exports := by
      intro d hd
      rw [← hsplit] at hd
      exact not_exports hd
    refine ⟨before, c, after, hsplit, hc, hafter, ?_⟩
    unfold Interpreter.execute at hfaults ⊢
    rw [hsplit] at hfaults ⊢
    exact Interpreter.read_of_store (Interpreter.store_last_log hcommands hc hafter hfaults)
  · intro t
    refine ⟨t.ascending, fun n s => (t.get?_eq_some_iff n s).symm, ?_⟩
    rw [NodeTable.records_eq_map]
    exact List.map_congr_left fun e _ => Status.line_eq e.2 e.1
  · intro cs cs' hperm hcs
    rw [Interpreter.nodes_evaluateAll_perm hperm hcs]
  · intro c hkind hall
    exact Interpreter.output_evaluate_stat hkind hall i

/-- Nodes that are started in descending order, two log commands, and a node that is started
behind the last of them. -/
theorem sink_holds_statistics_of_second_log :
    let clauses : List (Filler × Operation) :=
      [(⟨[], by decide⟩, .start 10 (by decide)), (⟨[], by decide⟩, .log),
        (⟨[newline], by decide⟩, .start 9 (by decide)), (⟨[], by decide⟩, .log),
        (⟨[], by decide⟩, .start 8 (by decide))]
    let script := spell clauses ⟨[], by decide⟩
    let i := Interpreter.new ({} : Bench) [] []
    let result := i.execute (utf8 "script") script
    (∃ c ∈ readScript (utf8 "script") script, c.kind = .log) ∧ result.2 = [] ∧
      ∃ before c after, readScript (utf8 "script") script = before ++ c :: after ∧
        c.kind = .log ∧ (∀ d ∈ after, d.kind ≠ .log) ∧
        result.1.host.files.read (utf8 "log.txt") =
          .ok (Bytes.lines (i.evaluateAll before).1.simulation.nodes.records) := by
  intro clauses script i result
  have hlog : ∃ c ∈ readScript (utf8 "script") script, c.kind = .log := by
    have hmem : (Kind.log, Operation.log.text) ∈
        (readScript (utf8 "script") script).map fun c => (c.kind, c.text) := by
      rw [readScript_spell]
      simp [clauses, Operation.kind]
    obtain ⟨c, hc, heq⟩ := List.mem_map.mp hmem
    exact ⟨c, hc, (Prod.mk.inj heq).1⟩
  have hfaults : result.2 = [] := Interpreter.faults_evaluateAll (fun c => not_exports) i
  exact ⟨hlog, hfaults, sink_holds_statistics_of_last_log.1 i _ script hlog hfaults⟩

end NodeScript
