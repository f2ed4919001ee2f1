/-
  What the journal is told about commands.

  Each command is reported in one of four ways, depending on how it ends: that it is ignored, or
  that it is evaluated, and then that it is malformed or that it is at fault, if it is. The
  `account` of commands lists these events in the order of the commands. Evaluating commands tells
  the journal their account and nothing else (`Tells.evaluateAll`), and the account does not depend
  on the journal (`Alike.account`), so a journal of any level writes a part of the same account.
-/
import NodeScript.Proofs.Diagnostics.Journal
import NodeScript.Proofs.Interpreter.Failures
import NodeScript.Proofs.Interpreter.Growth

namespace NodeScript

/-- An event about a command. -/
def Command.event (c : Command) (id : Bytes) (level : Level) (more : List (Bytes × Bytes))
    (message : Bytes) : Event where
  level := level
  fields := (utf8 "session", id) :: (more ++ [Interpreter.commandField c])
  message := message

/-- The event about a fault. -/
def Fault.event (id : Bytes) (f : Fault) : Event :=
  f.command.event id .error [(Event.errorField, f.failure.problem.message)] (utf8 "fault")

/-- The event about a failure of a command. -/
def Failure.event (id : Bytes) (c : Command) : Failure → Event
  | .malformed => c.event id .debug [] (utf8 "malformed")
  | .write failure => Fault.event id ⟨c, failure⟩

/-- The events about a command, which depend on how it ends. -/
def Ending.events (id : Bytes) (c : Command) : Ending → List Event
  | .ignored => [c.event id .debug [] (utf8 "ignored")]
  | .malformed => [c.event id .debug [] (utf8 "evaluating"), Failure.malformed.event id c]
  | .refused failure =>
    [c.event id .debug [] (utf8 "evaluating"), (Failure.write failure).event id c]
  | .success => [c.event id .debug [] (utf8 "evaluating")]

theorem Ending.events_ofFailure (id : Bytes) (c : Command) (failure : Option Failure) :
    (ofFailure failure).events id c =
      c.event id .debug [] (utf8 "evaluating") :: failure.toList.map (Failure.event id c) := by
  obtain _ | _ | failure := failure
  · rfl
  · rfl
  · rfl

namespace Interpreter

section Host

variable {σ : Type} [Host σ] {c : Command}

/-- The events about commands that are carried out one after another. -/
def account (i : Interpreter σ) : List Command → List Event
  | [] => []
  | c :: cs => (i.ending c).events i.simulation.id c ++ (i.evaluate c).1.account cs

theorem id_action {action : Action σ} (haction : Action.ofKind? c.kind = some action)
    (i : Interpreter σ) : (action i c.text).1.simulation.id = i.simulation.id := by
  have hconfirm (written : Interpreter σ × Option WriteFailure) (line : Bytes) :
      (Action.confirm written line).1.simulation.id = written.1.simulation.id := by
    obtain ⟨j, _ | failure⟩ := written
    · rfl
    · rfl
  cases hc : c.kind <;> rw [hc] at haction <;> cases haction
  case start =>
    unfold Action.start
    split
    · rfl
    · dsimp only
      split
      · rfl
      · rfl
  case stop => unfold Action.stop; split <;> rfl
  case setApi => unfold Action.setApi; split <;> rfl
  case connect => rfl
  case stat => unfold Action.stat; split <;> rfl
  case log => exact hconfirm ..
  case exportOutput =>
    unfold Action.exportOutput
    split
    · rfl
    · exact hconfirm ..
  case compress => rfl
  case standalone => rfl
  case send => unfold Action.send; split <;> rfl

theorem id_evaluate (i : Interpreter σ) (c : Command) :
    (i.evaluate c).1.simulation.id = i.simulation.id := by
  cases haction : Action.ofKind? (σ := σ) c.kind with
  | none =>
    rw [evaluate_of_none haction]
    rfl
  | some action =>
    rw [evaluate_of_some haction, simulation_conclude, id_action haction]
    rfl

/-! ### Levels -/

/-- What is said about a command is an error exactly if it is about a fault of it. -/
theorem filter_error_events (i : Interpreter σ) (c : Command) (id : Bytes) :
    ((i.ending c).events id c).filter (·.level = .error) =
      (i.evaluate c).2.toList.map (Fault.event id) := by
  rw [fault_evaluate]
  cases i.ending c with
  | ignored => rfl
  | malformed => rfl
  | refused failure => rfl
  | success => rfl

theorem filter_error_account (i : Interpreter σ) (cs : List Command) :
    (i.account cs).filter (·.level = .error) =
      (i.evaluateAll cs).2.map (Fault.event i.simulation.id) := by
  induction cs generalizing i with
  | nil => rfl
  | cons c cs ih =>
    rw [account, List.filter_append, filter_error_events, ih, id_evaluate, evaluateAll_cons,
      List.map_append]

/-- The messages of events about commands other than faults. -/
def debugMessages : List Bytes := [utf8 "ignored", utf8 "evaluating", utf8 "malformed"]

theorem of_mem_account {i : Interpreter σ} {cs : List Command} {e : Event}
    (h : e ∈ i.account cs) :
    (e.level = .debug ∧ e.message ∈ debugMessages) ∨
      (e.level = .error ∧ e.message = utf8 "fault") := by
  have hignored : utf8 "ignored" ∈ debugMessages := by decide
  have hevaluating : utf8 "evaluating" ∈ debugMessages := by decide
  have hmalformed : utf8 "malformed" ∈ debugMessages := by decide
  induction cs generalizing i with
  | nil => cases h
  | cons c cs ih =>
    rcases List.mem_append.mp h with h | h
    · cases hending : i.ending c <;> rw [hending] at h
      case ignored =>
        obtain rfl := List.mem_singleton.mp h
        exact .inl ⟨rfl, hignored⟩
      case malformed =>
        rcases List.mem_pair.mp h with rfl | rfl
        · exact .inl ⟨rfl, hevaluating⟩
        · exact .inl ⟨rfl, hmalformed⟩
      case refused failure =>
        rcases List.mem_pair.mp h with rfl | rfl
        · exact .inl ⟨rfl, hevaluating⟩
        · exact .inr ⟨rfl, rfl⟩
      case success =>
        obtain rfl := List.mem_singleton.mp h
        exact .inl ⟨rfl, hevaluating⟩
    · exact ih h

theorem filter_fault_account (i : Interpreter σ) (cs : List Command) :
    (i.account cs).filter (·.message = utf8 "fault") =
      (i.account cs).filter (·.level = .error) := by
  apply List.filter_congr
  intro e he
  have hdebug : utf8 "fault" ∉ debugMessages := by decide
  rcases of_mem_account he with ⟨hlevel, hmessage⟩ | ⟨hlevel, hmessage⟩
  · have hne : e.message ≠ utf8 "fault" := by
      intro hfault
      rw [hfault] at hmessage
      exact hdebug hmessage
    rw [decide_eq_false hne, hlevel]
    rfl
  · rw [hmessage, hlevel]
    rfl

/-! ### Dispatches -/

/-- Whether a message is that of an event with which the evaluation of a command begins. -/
def opens (message : Bytes) : Bool := message = utf8 "ignored" || message = utf8 "evaluating"

/-- Whether the line of an event says that the evaluation of a command begins. -/
def isDispatch (line : Bytes) : Bool :=
  (Event.tail (utf8 "ignored")).isSuffixOf line || (Event.tail (utf8 "evaluating")).isSuffixOf line

/-- Each command is ignored or evaluated once. -/
theorem countP_opens_account (i : Interpreter σ) (cs : List Command) :
    (i.account cs).countP (opens ·.message) = cs.length := by
  induction cs generalizing i with
  | nil => rfl
  | cons c cs ih =>
    have hone : ((i.ending c).events i.simulation.id c).countP (opens ·.message) = 1 := by
      cases i.ending c with
      | ignored => rfl
      | malformed => rfl
      | refused failure => rfl
      | success => rfl
    rw [account, List.countP_append, hone, ih, List.length_cons, Nat.add_comm]

theorem isDispatch_line {i : Interpreter σ} {cs : List Command} {e : Event}
    (h : e ∈ i.account cs) (time : Option Bytes) : isDispatch (e.line time) = opens e.message := by
  set messages := debugMessages ++ [utf8 "fault"] with hmessages
  have hmem : e.message ∈ messages := by
    rcases of_mem_account h with ⟨-, hmessage⟩ | ⟨-, hmessage⟩
    · exact List.mem_append_left _ hmessage
    · exact List.mem_append_right _ (List.mem_singleton.mpr hmessage)
  have hplain : ∀ m ∈ messages, m ≠ [] ∧ m.all isPlain := by decide
  -- No line can end with two of the messages.
  have hdiffer : ∀ m ∈ messages, ∀ m' ∈ messages, Event.tail m <:+ Event.tail m' → m = m' := by
    decide
  obtain ⟨hne, hall⟩ := hplain e.message hmem
  have htail := Event.tail_suffix_line time hne hall
  have hiff : ∀ m ∈ messages, (Event.tail m).isSuffixOf (e.line time) = decide (e.message = m) := by
    intro m hm
    rw [Bool.eq_iff_iff, List.isSuffixOf_iff_suffix, decide_eq_true_eq]
    constructor
    · intro hsuffix
      rcases List.suffix_or_suffix_of_suffix hsuffix htail with hle | hle
      · exact (hdiffer m hm _ hmem hle).symm
      · exact hdiffer _ hmem m hm hle
    · rintro rfl
      exact htail
  rw [isDispatch, hiff _ (by decide), hiff _ (by decide)]
  rfl

/-- As many lines as there are commands say that one is ignored or evaluated. -/
theorem countP_isDispatch (i : Interpreter σ) (cs : List Command) (time : Option Bytes) :
    (Bytes.splitAt newline (Bytes.lines ((i.account cs).map (Event.line time)))).countP isDispatch =
      cs.length := by
  have hlines : ∀ l ∈ (i.account cs).map (Event.line time), newline ∉ l := by
    intro l hl
    obtain ⟨e, -, rfl⟩ := List.mem_map.mp hl
    exact e.newline_not_mem_line time
  have hnone : [[]].countP isDispatch = 0 := by decide
  rw [Bytes.splitAt_lines hlines, List.countP_append, hnone, Nat.add_zero, List.countP_map,
    ← i.countP_opens_account cs]
  apply List.countP_congr
  intro e he
  rw [Function.comp_apply, isDispatch_line he]

end Host

/-! ### What is written -/

/-- On the way from `i` to `j`, the journal is told these events and no others. -/
structure Tells (i j : Interpreter Bench) (events : List Event) : Prop where
  journal : j.host.journal = i.host.journal
  written : j.host.written.text =
    i.host.written.text ++ events.flatMap i.host.journal.entry

namespace Tells

variable {i j k : Interpreter Bench} {es es' : List Event} {c : Command}

theorem refl (i : Interpreter Bench) : i.Tells i [] := ⟨rfl, (List.append_nil _).symm⟩

theorem trans (h : i.Tells j es) (h' : j.Tells k es') : i.Tells k (es ++ es') := by
  refine ⟨h'.journal.trans h.journal, ?_⟩
  rw [h'.written, h.written, h.journal, List.flatMap_append, List.append_assoc]

theorem report (i : Interpreter Bench) (level : Level) (fields : List (Bytes × Bytes))
    (message : Bytes) :
    i.Tells (i.report level fields message) [i.event level fields message] := by
  refine ⟨rfl, ?_⟩
  rw [List.flatMap_singleton]
  exact Transcript.text_write ..

theorem update (i : Interpreter Bench) (f : Simulation → Simulation) : i.Tells (i.update f) [] :=
  ⟨rfl, (List.append_nil _).symm⟩

theorem write (i : Interpreter Bench) (name content : Bytes) :
    i.Tells (i.write name content).1 [] := by
  rw [write_bench]
  cases i.host.files.refusal? name with
  | none => exact ⟨rfl, (List.append_nil _).symm⟩
  | some why => exact .refl i

theorem confirm (written : Interpreter Bench × Option WriteFailure) (line : Bytes) :
    written.1.Tells (Action.confirm written line).1 [] := by
  obtain ⟨i, _ | failure⟩ := written
  · exact .update i (·.append line)
  · exact .refl i

theorem action {action : Action Bench} (haction : Action.ofKind? c.kind = some action)
    (i : Interpreter Bench) : i.Tells (action i c.text).1 [] := by
  cases Action.course haction with
  | malformed _ hmalformed =>
    rw [hmalformed]
    exact .refl i
  | change f _ hchange =>
    rw [hchange]
    exact .update i f
  | write _ name line content _ hwrite =>
    rw [hwrite]
    exact (Tells.write i ..).trans (.confirm ..)

theorem conclude (c : Command) (outcome : Interpreter Bench × Option Failure) :
    outcome.1.Tells (Interpreter.conclude c outcome).1
      (outcome.2.toList.map (Failure.event outcome.1.simulation.id c)) := by
  obtain ⟨i, _ | _ | failure⟩ := outcome
  · exact .refl i
  · exact .report i ..
  · exact .report i ..

theorem evaluate (i : Interpreter Bench) (c : Command) :
    i.Tells (i.evaluate c).1 ((i.ending c).events i.simulation.id c) := by
  cases haction : Action.ofKind? (σ := Bench) c.kind with
  | none =>
    rw [evaluate_of_none haction, ending, haction]
    exact .report i ..
  | some a =>
    have hannounce :
        i.Tells (i.announce c) [c.event i.simulation.id .debug [] (utf8 "evaluating")] :=
      .report i ..
    have hconclude := conclude c (a (i.announce c) c.text)
    rw [id_action haction] at hconclude
    rw [evaluate_of_some haction, ending_of_some haction, Ending.events_ofFailure]
    exact (hannounce.trans (.action haction _)).trans hconclude

theorem evaluateAll (i : Interpreter Bench) (cs : List Command) :
    i.Tells (i.evaluateAll cs).1 (i.account cs) := by
  induction cs generalizing i with
  | nil => exact .refl i
  | cons c cs ih => exact (Tells.evaluate i c).trans (ih _)

end Tells

/-! ### Journals -/

/-- The interpreter with a journal in the JSON form. -/
def journaling (i : Interpreter Bench) (threshold : Level) (time : Option Bytes) :
    Interpreter Bench :=
  { i with host := { i.host with journal := { threshold, format := .json, time } } }

theorem alike_journaling (i : Interpreter Bench) (threshold : Level) (time : Option Bytes) :
    Alike (i.journaling threshold time) i := ⟨rfl, rfl, rfl⟩

theorem Alike.ending {i j : Interpreter Bench} (h : Alike i j) (c : Command) :
    i.ending c = j.ending c := by
  cases haction : Action.ofKind? (σ := Bench) c.kind with
  | none => rw [Interpreter.ending, Interpreter.ending, haction]
  | some action =>
    have hannounce : Alike (i.announce c) (j.announce c) :=
      (report ..).trans (h.trans (report ..).symm)
    rw [ending_of_some haction, ending_of_some haction, (hannounce.action haction).2]

theorem Alike.account {i j : Interpreter Bench} (h : Alike i j) (cs : List Command) :
    i.account cs = j.account cs := by
  induction cs generalizing i j with
  | nil => rfl
  | cons c cs ih =>
    rw [Interpreter.account, Interpreter.account, h.ending, h.simulation, ih (h.evaluate c).1]

theorem written_evaluateAll (i : Interpreter Bench) (threshold : Level) (time : Option Bytes)
    (cs : List Command) :
    ((i.journaling threshold time).evaluateAll cs).1.host.written.text =
      i.host.written.text ++ Bytes.lines ((
        if threshold.value ≤ 0 then i.account cs
        else if threshold.value ≤ 3 then (i.account cs).filter (·.message = utf8 "fault")
        else []).map (Event.line time)) := by
  set journal : Journal := { threshold, format := .json, time } with hjournal
  have hwritten := (Tells.evaluateAll (i.journaling threshold time) cs).written
  have haccount := (i.alike_journaling threshold time).account cs
  have hlevels : ∀ e ∈ i.account cs, e.level = .debug ∨ e.level = .error := by
    intro e he
    exact (of_mem_account he).imp And.left And.left
  have hadmits := journal.filter_admits hlevels
  calc ((i.journaling threshold time).evaluateAll cs).1.host.written.text
      = i.host.written.text ++ (i.account cs).flatMap journal.entry := by
        rw [hwritten, haccount]
        rfl
    _ = i.host.written.text ++
          Bytes.lines (((i.account cs).filter (journal.admits ·.level)).map (Event.line time)) := by
        rw [hjournal, Journal.flatMap_entry]
    _ = _ := by rw [hadmits, filter_fault_account]

end Interpreter

/-- **Diagnostics account for every command, and change nothing.** At the levels up to `debug` a
script writes a line for each event of the account of its commands, from `info` to `error` for the
faults only, which are those of the returned error, and above that for none. The line of an event is
one line whatever the event holds, so the lines that say that a command is ignored or evaluated are
as many as there are commands, which is as many as there are spans. The simulation, the files and
the faults are the same at all levels. -/
theorem diagnostics_account_for_commands (i : Interpreter Bench) (label script : Bytes)
    (threshold : Level) (time : Option Bytes) :
    let commands := readScript label script
    let account := i.account commands
    let outcome := i.execute label script
    let result := (i.journaling threshold time).execute label script
    let emitted :=
      if threshold.value ≤ Level.debug.value then account
      else if threshold.value ≤ Level.error.value then account.filter (·.message = utf8 "fault")
      else []
    let text := Bytes.lines (emitted.map (Event.line time))
    result.1.host.written.text = i.host.written.text ++ text ∧
    (∀ e : Event, e.json time = e.line time ++ [newline] ∧ newline ∉ e.line time) ∧
    account.filter (·.message = utf8 "fault") = outcome.2.map (Fault.event i.simulation.id) ∧
    (threshold.value ≤ Level.debug.value →
      (Bytes.splitAt newline text).countP Interpreter.isDispatch = commands.length) ∧
    commands.length = (brackets [] script).length ∧
    result.1.simulation = outcome.1.simulation ∧
    result.1.host.files = outcome.1.host.files ∧
    result.2 = outcome.2 := by
  intro commands account outcome result emitted text
  have hfaults : account.filter (·.message = utf8 "fault") =
      outcome.2.map (Fault.event i.simulation.id) := by
    rw [Interpreter.filter_fault_account, Interpreter.filter_error_account]
    rfl
  have hspans : commands.length = (brackets [] script).length := by
    show (readScript label script).length = _
    rw [readScript_eq_map_command, List.length_map]
  obtain ⟨halike, hsame⟩ := (i.alike_journaling threshold time).evaluateAll commands
  refine ⟨i.written_evaluateAll threshold time commands,
    fun e => ⟨e.json_eq_line time, e.newline_not_mem_line time⟩, hfaults, ?_, hspans,
    halike.simulation, halike.files, hsame⟩
  intro hdebug
  have hall : emitted = account := if_pos hdebug
  show (Bytes.splitAt newline (Bytes.lines (emitted.map _))).countP _ = _
  rw [hall]
  exact i.countP_isDispatch commands time

end NodeScript
