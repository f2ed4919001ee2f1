/-
  What scripts mean.

  A `World` is all that operations are about: which nodes run and which are
  stopped, the API, the output log and the files. It knows nothing of texts,
  patterns, tables or events. `World.apply` says what each operation does to it,
  and `World.of` forgets of an interpreter all but its world. Evaluating the command
  of an operation has the effect of the operation (`agrees_evaluate`), and so executing
  a script has the effect of the operations that it spells, one after another.
-/
import NodeScript.Interpreter.Run
import NodeScript.Proofs.Script.Operations
import NodeScript.Proofs.Simulation.Nodes

namespace NodeScript

/-! ### Actions on the texts of operations -/

namespace Action

variable {σ : Type} (i : Interpreter σ)

theorem start_text (n : Nat) (hn : n < 2 ^ 63) :
    start i (Operation.start n hn).text = change i fun s =>
      (s.start n).append (utf8 "Engine started for node " ++ Bytes.ofNat n ++ utf8 ".") := by
  have hle : n ≤ Bytes.maxInt64 := Nat.le_pred_of_lt hn
  unfold start
  rw [Operation.find?_start]
  dsimp only
  rw [Bytes.digitsValue_ofNat, if_pos hle]

theorem stop_text :
    stop i Operation.stopAll.text =
      change i fun s => s.stopAll.append (utf8 "All nodes stopped.") := by
  have hword : Bytes.containsWord (utf8 "node [*]") Operation.stopAll.text = true := by decide
  unfold stop
  rw [if_pos hword]

theorem stat_text :
    stat i Operation.stat.text =
      change i fun s => s.appendAll (utf8 "Node statistics:" :: s.nodes.records) := by
  have hword : Bytes.containsWord (utf8 "Node[*]") Operation.stat.text = true := by decide
  unfold stat
  rw [if_pos hword]

theorem setApi_text (v : Bytes) (hquote : doubleQuote ∉ v) (hclosing : closing ∉ v)
    (hline : newline ∉ v) :
    setApi i (Operation.setApi v hquote hclosing hline).text = change i fun s =>
      (s.setApi v).append (utf8 "NodeAPI set to " ++ v ++ utf8 ".") := by
  unfold setApi
  rw [Operation.find?_setApi]

theorem send_text (a : Bytes) (hparen : closingParenthesis ∉ a) (hclosing : closing ∉ a)
    (hline : newline ∉ a) (hword : ¬ utf8 "NodeAPI" <:+: a) :
    send i (Operation.send a hparen hclosing hline hword).text =
      change i (·.append (utf8 "Sent argument: " ++ a)) := by
  unfold send
  rw [Operation.find?_send]

end Action

/-! ### Worlds -/

/-- Surroundings with files in them that only writing changes: taking notice of an
event does not touch them. -/
class FileHost (σ : Type) (φ : outParam Type) extends Host σ where
  files : σ → φ
  /-- What writing a file does to the files, and why it is refused if it is. -/
  store : φ → (name content : Bytes) → φ × Option Refusal
  files_write : ∀ (host : σ) (name content : Bytes),
    (files (write host name content).1, (write host name content).2) =
      store (files host) name content
  files_report : ∀ (host : σ) (e : Event), files (report host e) = files host

instance : FileHost Bench Memory where
  files := Bench.files
  store m name content :=
    match m.write name content with
    | .ok files => (files, none)
    | .error why => (m, some why)
  files_write b name content := by
    show ((b.write name content).1.files, (b.write name content).2) = _
    unfold Bench.write
    cases b.files.write name content with
    | ok files => rfl
    | error why => rfl
  files_report _ _ := rfl

/-- What operations are about. -/
structure World (φ : Type) where
  running : Finset Int
  stopped : Finset Int
  api : Bytes
  /-- The output log, oldest line first. -/
  output : List Bytes
  files : φ

namespace World

variable {φ : Type}

/-- The line about a node. -/
def line (w : World φ) (n : Int) : Bytes :=
  utf8 "Node " ++ Bytes.ofInt n ++ utf8 ": " ++
    (if n ∈ w.running then Status.started else .stopped).record

/-- One line for each node, in ascending order. -/
def lines (w : World φ) : List Bytes := (w.running ∪ w.stopped).sort.map w.line

/-- The world with more lines in its output log. -/
def say (w : World φ) (lines : List Bytes) : World φ := { w with output := w.output ++ lines }

/-- What an operation does to a world in which files are written with `store`, and
why it fails if it does. Only writing the sink can fail. -/
def apply (store : φ → (name content : Bytes) → φ × Option Refusal) (sink : Bytes)
    (w : World φ) : Operation → World φ × Option WriteFailure
  | .start n _ =>
    let w := { w with running := insert (n : Int) w.running, stopped := w.stopped.erase n }
    (w.say [utf8 "Engine started for node " ++ Bytes.ofNat n ++ utf8 "."], none)
  | .stopAll =>
    let w := { w with running := ∅, stopped := w.running ∪ w.stopped }
    (w.say [utf8 "All nodes stopped."], none)
  | .setApi v _ _ _ =>
    let w := { w with api := v }
    (w.say [utf8 "NodeAPI set to " ++ v ++ utf8 "."], none)
  | .connect =>
    (w.say [if w.api = [] then utf8 "NodeAPI is not set. Unable to connect."
      else utf8 "Connecting nodes with API: " ++ w.api ++ utf8 "."], none)
  | .stat => (w.say (utf8 "Node statistics:" :: w.lines), none)
  | .log =>
    match store w.files sink (Bytes.lines w.lines) with
    | (files, none) =>
      let w := { w with files }
      (w.say [utf8 "Node statistics logged to " ++ sink ++ utf8 "."], none)
    | (files, some why) => ({ w with files }, some ⟨sink, why⟩)
  | .compress =>
    let w := { w with output := w.output.map trim }
    (w.say [utf8 "Output data compressed."], none)
  | .standalone => (w.say [utf8 "Standalone module created. Cannot connect to others."], none)
  | .send a _ _ _ _ => (w.say [utf8 "Sent argument: " ++ a], none)

/-- What operations do one after another, and how each of them ends. -/
def applyAll (store : φ → (name content : Bytes) → φ × Option Refusal) (sink : Bytes)
    (w : World φ) : List Operation → World φ × List (Option WriteFailure)
  | [] => (w, [])
  | o :: os =>
    let (w, outcome) := w.apply store sink o
    let (w, outcomes) := w.applyAll store sink os
    (w, outcome :: outcomes)

/-- The world of a simulation with files. -/
def ofSimulation (s : Simulation) (files : φ) : World φ where
  running := s.nodes.withStatus .started
  stopped := s.nodes.withStatus .stopped
  api := s.api
  output := s.output
  files := files

/-- The world of an interpreter. -/
def of {σ : Type} [FileHost σ φ] (i : Interpreter σ) : World φ :=
  ofSimulation i.simulation (FileHost.files i.host)

/-! ### One operation -/

theorem apply_log_of_none {store : φ → (name content : Bytes) → φ × Option Refusal}
    {sink : Bytes} {w : World φ} {files : φ}
    (h : store w.files sink (Bytes.lines w.lines) = (files, none)) :
    w.apply store sink .log =
      (say { w with files } [utf8 "Node statistics logged to " ++ sink ++ utf8 "."], none) := by
  unfold apply
  dsimp only
  rw [h]

theorem apply_log_of_some {store : φ → (name content : Bytes) → φ × Option Refusal}
    {sink : Bytes} {w : World φ} {files : φ} {why : Refusal}
    (h : store w.files sink (Bytes.lines w.lines) = (files, some why)) :
    w.apply store sink .log = ({ w with files }, some ⟨sink, why⟩) := by
  unfold apply
  dsimp only
  rw [h]

variable {σ : Type} [FileHost σ φ]

/-- A table lists its nodes as its world does. -/
theorem records_eq_lines (s : Simulation) (files : φ) :
    s.nodes.records = (ofSimulation s files).lines := s.nodes.records_eq_sort

/-- Reporting is not of this world. -/
theorem of_report (i : Interpreter σ) (level : Level) (fields : List (Bytes × Bytes))
    (message : Bytes) : of (i.report level fields message) = of i := by
  unfold of
  rw [Interpreter.report, FileHost.files_report]

/-- Starting a node moves it to the running ones. -/
theorem ofSimulation_start (s : Simulation) (files : φ) (n : Int) :
    ofSimulation (s.start n) files =
      { ofSimulation s files with
        running := insert n (ofSimulation s files).running
        stopped := (ofSimulation s files).stopped.erase n } := by
  unfold ofSimulation Simulation.start
  rw [NodeTable.withStatus_start_started, NodeTable.withStatus_start_stopped]

/-- Stopping all nodes moves the running ones to the stopped ones. -/
theorem ofSimulation_stopAll (s : Simulation) (files : φ) :
    ofSimulation s.stopAll files =
      { ofSimulation s files with
        running := ∅
        stopped := (ofSimulation s files).running ∪ (ofSimulation s files).stopped } := by
  unfold ofSimulation Simulation.stopAll
  rw [NodeTable.withStatus_stopAll_started, NodeTable.withStatus_stopAll_stopped]

/-- Evaluating a command has the effect of an operation: on the world, and in
whether it is at fault. The sink stays the same. -/
def Agrees (i : Interpreter σ) (c : Command) (o : Operation) : Prop :=
  of (i.evaluate c).1 = ((of i).apply (FileHost.store σ) i.sink o).1 ∧
    (i.evaluate c).2 = ((of i).apply (FileHost.store σ) i.sink o).2.map (Fault.mk c) ∧
    (i.evaluate c).1.sink = i.sink

/-- For a command whose action only changes the simulation, it is enough to compare
that change with the operation. -/
theorem agrees_of_change {c : Command} {o : Operation} {action : Action σ}
    {f : Simulation → Simulation} (i : Interpreter σ)
    (hkind : Action.ofKind? c.kind = some action)
    (haction : ∀ i, action i c.text = Action.change i f)
    (happly : (of i).apply (FileHost.store σ) i.sink o =
      (ofSimulation (f i.simulation) (FileHost.files i.host), none)) :
    Agrees i c o := by
  unfold Agrees Interpreter.evaluate
  rw [happly, hkind]
  dsimp only
  rw [haction]
  refine ⟨?_, rfl, rfl⟩
  show ofSimulation (f i.simulation) (FileHost.files (Host.report i.host _)) = _
  rw [FileHost.files_report]

/-- Writing the sink succeeds for both or is refused to both. -/
theorem agrees_log (i : Interpreter σ) {c : Command} (hkind : c.kind = .log) :
    Agrees i c .log := by
  set j := i.report .debug [Interpreter.commandField c] (utf8 "evaluating") with hj
  have hfiles : FileHost.files j.host = FileHost.files i.host := FileHost.files_report ..
  have hstore := FileHost.files_write j.host i.sink (Bytes.lines i.simulation.nodes.records)
  have haction : Action.log j c.text = Action.confirm
      (j.write i.sink (Bytes.lines i.simulation.nodes.records))
      (utf8 "Node statistics logged to " ++ i.sink ++ utf8 ".") := rfl
  unfold Agrees Interpreter.evaluate
  rw [hkind]
  dsimp only [Action.ofKind?]
  rw [← hj, haction, Interpreter.write]
  rcases hw : Host.write j.host i.sink (Bytes.lines i.simulation.nodes.records)
    with ⟨host, _ | why⟩
  · rw [hw, hfiles, records_eq_lines i.simulation (FileHost.files i.host)] at hstore
    rw [apply_log_of_none (w := of i) hstore.symm]
    exact ⟨rfl, rfl, rfl⟩
  · rw [hw, hfiles, records_eq_lines i.simulation (FileHost.files i.host)] at hstore
    rw [apply_log_of_some (w := of i) hstore.symm]
    exact ⟨of_report .., rfl, rfl⟩

/-- The command of an operation has the effect of the operation. -/
theorem agrees_evaluate (i : Interpreter σ) (o : Operation) (place : Location) :
    Agrees i ⟨o.kind, o.text, place⟩ o := by
  cases o with
  | start n hn =>
    refine agrees_of_change i rfl (fun j => Action.start_text j n hn) ?_
    show (say _ _, none) = (say (ofSimulation (i.simulation.start n) _) _, none)
    rw [ofSimulation_start]
    rfl
  | stopAll =>
    refine agrees_of_change i rfl Action.stop_text ?_
    show (say _ _, none) = (say (ofSimulation i.simulation.stopAll _) _, none)
    rw [ofSimulation_stopAll]
    rfl
  | setApi v hquote hclosing hline =>
    exact agrees_of_change i rfl (fun j => Action.setApi_text j v hquote hclosing hline) rfl
  | connect =>
    refine agrees_of_change i rfl (fun _ => rfl) ?_
    simp only [List.isEmpty_iff]
    rfl
  | stat =>
    refine agrees_of_change i rfl Action.stat_text ?_
    rw [records_eq_lines i.simulation (FileHost.files i.host)]
    rfl
  -- The only operation that can fail.
  | log => exact agrees_log i rfl
  | compress => exact agrees_of_change i rfl (fun _ => rfl) rfl
  | standalone => exact agrees_of_change i rfl (fun _ => rfl) rfl
  | send a hparen hclosing hline hword =>
    exact agrees_of_change i rfl (fun j => Action.send_text j a hparen hclosing hline hword) rfl

/-! ### Operations one after another -/

/-- The faults of commands that end in the given ways. -/
def faults (cs : List Command) (outcomes : List (Option WriteFailure)) : List Fault :=
  (cs.zip outcomes).filterMap fun (c, outcome) => outcome.map (Fault.mk c)

theorem faults_cons (c : Command) (cs : List Command) (outcome : Option WriteFailure)
    (outcomes : List (Option WriteFailure)) :
    faults (c :: cs) (outcome :: outcomes) =
      (outcome.map (Fault.mk c)).toList ++ faults cs outcomes := by
  unfold faults
  rw [List.zip_cons_cons, List.filterMap_cons]
  cases outcome with
  | none => rfl
  | some failure => rfl

/-- Commands that spell operations have the effect of the operations. -/
theorem of_evaluateAll (i : Interpreter σ) {cs : List Command} {os : List Operation}
    (h : cs.map (fun c => (c.kind, c.text)) = os.map fun o => (o.kind, o.text)) :
    of (i.evaluateAll cs).1 = ((of i).applyAll (FileHost.store σ) i.sink os).1 ∧
      (i.evaluateAll cs).2 = faults cs ((of i).applyAll (FileHost.store σ) i.sink os).2 := by
  induction os generalizing i cs with
  | nil =>
    rw [List.map_nil, List.map_eq_nil_iff] at h
    subst h
    exact ⟨rfl, rfl⟩
  | cons o os ih =>
    obtain ⟨c, cs, rfl, hc, hcs⟩ := List.map_eq_cons_iff.mp h
    obtain ⟨kind, text, place⟩ := c
    obtain ⟨rfl, rfl⟩ := Prod.mk.inj hc
    obtain ⟨hworld, hfault, hsink⟩ := agrees_evaluate i o place
    obtain ⟨hworlds, hfaults⟩ := ih (i.evaluate ⟨o.kind, o.text, place⟩).1 hcs
    -- The rest runs in the world that the first operation leaves, with the same sink.
    rw [hworld, hsink] at hworlds hfaults
    refine ⟨hworlds, ?_⟩
    rw [Interpreter.evaluateAll, applyAll, faults_cons, ← hfault, ← hfaults]

end World

/-- **What scripts mean.** Executing a script that spells operations, whatever stands
around them, is applying the operations one after another to the world: the same
nodes run and are stopped, the API, the output log and the files are the same, and
the same commands are at fault. -/
theorem execute_spell {σ φ : Type} [FileHost σ φ] (i : Interpreter σ) (label : Bytes)
    (clauses : List (Filler × Operation)) (last : Filler) :
    let commands := readScript label (spell clauses last)
    let operations := clauses.map (·.2)
    let expected := (World.of i).applyAll (FileHost.store σ) i.sink operations
    let result := i.execute label (spell clauses last)
    commands.map (fun c => (c.kind, c.text)) = operations.map (fun o => (o.kind, o.text)) ∧
      World.of result.1 = expected.1 ∧ result.2 = World.faults commands expected.2 := by
  intro commands operations expected result
  have hread : commands.map (fun c => (c.kind, c.text)) =
      operations.map fun o => (o.kind, o.text) := by
    rw [readScript_spell, List.map_map]
    rfl
  exact ⟨hread, World.of_evaluateAll i hread⟩

end NodeScript
