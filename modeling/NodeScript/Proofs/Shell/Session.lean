/-
  Interactive sessions.

  What a session makes of one line is an `Exchange`: the commands on the line, those of
  them that are at fault, and the lines that the output log has gained. Printing the
  faults in between changes nothing about the commands (`Alike.foldl_evaluateAloud`), so
  an exchange leaves the interpreter as evaluating the commands would, and what is printed
  is the text of the exchange (`alike_enter`, `printed_enter`).

  The newline that each line is fed with keeps the lines apart. Main statement: a session
  does what the script does that its lines make up (`session_agrees_with_script`).
-/
import NodeScript.Proofs.Diagnostics.Problem
import NodeScript.Proofs.Interpreter.Growth
import NodeScript.Proofs.Interpreter.Reports
import NodeScript.Proofs.Script.Lines
import NodeScript.Shell.Line

namespace NodeScript

/-- Surroundings in which printing adds to what was printed and does nothing else. -/
class PrintHost (σ : Type) (φ : outParam Type) extends FileHost σ φ where
  printed : σ → Bytes
  printed_print : ∀ (host : σ) (text : Bytes), printed (print host text) = printed host ++ text
  printed_report : ∀ (host : σ) (e : Event), printed (report host e) = printed host
  printed_write : ∀ (host : σ) (name content : Bytes),
    printed (write host name content).1 = printed host
  files_print : ∀ (host : σ) (text : Bytes), files (print host text) = files host

instance : PrintHost Bench Memory where
  printed b := b.printed.text
  printed_print b text := b.printed.text_write text
  printed_report _ _ := rfl
  printed_write b name content := by
    show (b.write name content).1.printed.text = _
    unfold Bench.write
    cases b.files.write name content with
    | ok files => rfl
    | error why => rfl
  files_print _ _ := rfl

/-- The line that is printed about a fault. -/
def Fault.notice (f : Fault) : Bytes := utf8 "error: " ++ f.problem.message

/-! ### Commands, aloud -/

namespace Interpreter

variable {σ φ : Type} [PrintHost σ φ] {i j : Interpreter σ} {c : Command}

/-- What has been printed in the surroundings of an interpreter. -/
def printed (i : Interpreter σ) : Bytes := PrintHost.printed i.host

theorem printed_print (i : Interpreter σ) (text : Bytes) :
    (i.print text).printed = i.printed ++ text := PrintHost.printed_print ..

theorem Alike.print (i : Interpreter σ) (text : Bytes) : Alike (i.print text) i :=
  ⟨PrintHost.files_print .., rfl, rfl⟩

theorem printed_report (i : Interpreter σ) (level : Level) (fields : List (Bytes × Bytes))
    (message : Bytes) : (i.report level fields message).printed = i.printed :=
  PrintHost.printed_report ..

theorem printed_conclude (outcome : Interpreter σ × Option Failure) :
    (conclude c outcome).1.printed = outcome.1.printed := by
  obtain ⟨i, _ | _ | failure⟩ := outcome
  · rfl
  · exact printed_report ..
  · exact printed_report ..

theorem printed_action {action : Action σ} (haction : Action.ofKind? c.kind = some action)
    (i : Interpreter σ) : (action i c.text).1.printed = i.printed := by
  cases Action.course haction with
  | malformed _ hmalformed =>
    rw [hmalformed]
    rfl
  | change f _ hchange =>
    rw [hchange]
    rfl
  | write _ name line content _ hwrite =>
    have hprinted : (i.write (name i.sink) (content i.simulation)).1.printed = i.printed :=
      PrintHost.printed_write ..
    rw [hwrite, ← hprinted]
    obtain ⟨k, _ | failure⟩ := i.write (name i.sink) (content i.simulation)
    · rfl
    · rfl

/-- A command by itself prints nothing. -/
theorem printed_evaluate (i : Interpreter σ) (c : Command) :
    (i.evaluate c).1.printed = i.printed := by
  cases haction : Action.ofKind? (σ := σ) c.kind with
  | none =>
    rw [evaluate_of_none haction]
    exact printed_report ..
  | some action =>
    rw [evaluate_of_some haction, printed_conclude, printed_action haction]
    exact printed_report ..

theorem evaluateAloud_eq (i : Interpreter σ) (c : Command) :
    i.evaluateAloud c =
      match (i.evaluate c).2 with
      | none => (i.evaluate c).1
      | some f => (i.evaluate c).1.print (Bytes.lines [f.notice]) := by
  unfold evaluateAloud
  obtain ⟨k, _ | f⟩ := i.evaluate c
  · rfl
  · rfl

/-- Printing a fault changes nothing else. -/
theorem Alike.evaluateAloud (h : Alike i j) (c : Command) :
    Alike (i.evaluateAloud c) (j.evaluate c).1 ∧
      (i.evaluateAloud c).printed =
        i.printed ++ Bytes.lines ((j.evaluate c).2.toList.map Fault.notice) := by
  obtain ⟨halike, hfault⟩ := h.evaluate c
  rw [evaluateAloud_eq, ← hfault]
  cases (i.evaluate c).2 with
  | none =>
    refine ⟨halike, ?_⟩
    rw [Option.toList_none, List.map_nil, Bytes.lines_nil, List.append_nil]
    exact printed_evaluate i c
  | some f =>
    refine ⟨(Alike.print ..).trans halike, ?_⟩
    rw [printed_print, printed_evaluate]
    rfl

theorem Alike.foldl_evaluateAloud (h : Alike i j) (cs : List Command) :
    Alike (cs.foldl Interpreter.evaluateAloud i) (j.evaluateAll cs).1 ∧
      (cs.foldl Interpreter.evaluateAloud i).printed =
        i.printed ++ Bytes.lines ((j.evaluateAll cs).2.map Fault.notice) := by
  induction cs generalizing i j with
  | nil => exact ⟨h, (List.append_nil _).symm⟩
  | cons c cs ih =>
    obtain ⟨halike, hprinted⟩ := h.evaluateAloud c
    obtain ⟨hrest, hprintedRest⟩ := ih halike
    refine ⟨hrest, ?_⟩
    rw [List.foldl_cons, hprintedRest, hprinted, List.append_assoc, ← Bytes.lines_append,
      ← List.map_append]
    rfl

/-- Answering is evaluating, printing a line for each fault, and printing what the output
log has gained. -/
theorem Alike.answer (h : Alike i j) (cs : List Command) :
    Alike (i.answer cs) (j.evaluateAll cs).1 ∧
      (i.answer cs).printed =
        i.printed ++ Bytes.lines ((j.evaluateAll cs).2.map Fault.notice ++ j.gain cs) := by
  obtain ⟨halike, hprinted⟩ := h.foldl_evaluateAloud cs
  refine ⟨(Alike.print ..).trans halike, ?_⟩
  have hgain : (cs.foldl Interpreter.evaluateAloud i).simulation.output.drop
      i.simulation.output.length = j.gain cs := by
    rw [halike.simulation, h.simulation]
    rfl
  unfold Interpreter.answer
  rw [printed_print, hgain, hprinted, List.append_assoc, ← Bytes.lines_append]

end Interpreter

/-! ### Exchanges -/

/-- What a session makes of one line: the commands on it, those at fault among them, and
the lines that the output log has gained. -/
structure Exchange where
  commands : List Command
  faults : List Fault
  gained : List Bytes

/-- What is printed in an exchange: a line for each fault, then the new lines of the
output log. -/
def Exchange.text (e : Exchange) : Bytes :=
  Bytes.lines (e.faults.map Fault.notice ++ e.gained)

namespace Shell

section Host

variable {σ : Type} [Host σ]

/-- The exchange that entering a line leads to. -/
def exchange (s : Shell σ) (line : Bytes) : Exchange where
  commands := (s.scanner.read (line ++ [newline])).1
  faults := (s.interpreter.evaluateAll (s.scanner.read (line ++ [newline])).1).2
  gained := (s.enter line).interpreter.simulation.output.drop
    s.interpreter.simulation.output.length

/-- The session after more lines. -/
def enterAll (s : Shell σ) (lines : List Bytes) : Shell σ := lines.foldl enter s

/-- The exchanges that more lines lead to. -/
def exchanges (s : Shell σ) : List Bytes → List Exchange
  | [] => []
  | line :: lines => s.exchange line :: (s.enter line).exchanges lines

end Host

variable {σ φ : Type} [PrintHost σ φ]

open Interpreter (Alike)

theorem alike_enter (s : Shell σ) (line : Bytes) :
    Alike (s.enter line).interpreter
      (s.interpreter.evaluateAll (s.exchange line).commands).1 :=
  ((Alike.refl s.interpreter).answer _).1

theorem gained_exchange (s : Shell σ) (line : Bytes) :
    (s.exchange line).gained = s.interpreter.gain (s.exchange line).commands := by
  show (s.enter line).interpreter.simulation.output.drop _ = _
  rw [(s.alike_enter line).simulation]
  rfl

theorem printed_enter (s : Shell σ) (line : Bytes) :
    (s.enter line).interpreter.printed =
      s.interpreter.printed ++ (s.exchange line).text := by
  rw [Exchange.text, gained_exchange]
  exact ((Alike.refl s.interpreter).answer _).2

theorem printed_enterAll (s : Shell σ) (lines : List Bytes) :
    (s.enterAll lines).interpreter.printed =
      s.interpreter.printed ++ (s.exchanges lines).flatMap Exchange.text := by
  induction lines generalizing s with
  | nil => exact (List.append_nil _).symm
  | cons line lines ih =>
    show ((s.enter line).enterAll lines).interpreter.printed = _
    rw [ih, printed_enter, exchanges, List.flatMap_cons, List.append_assoc]

/-! ### Lines of a script -/

/-- A session that stands between two lines does from there on what evaluating the
commands of the other lines does. -/
theorem enterAll_eq_evaluateAll {s : Shell σ} {i : Interpreter σ} {label : Bytes}
    {earlier : List Bytes} (hs : s.scanner.Between label earlier) (hi : Alike s.interpreter i)
    (lines : List Bytes) :
    (s.exchanges lines).flatMap Exchange.commands = commandsBehind label earlier lines ∧
      (s.exchanges lines).flatMap Exchange.faults =
        (i.evaluateAll (commandsBehind label earlier lines)).2 ∧
      Alike (s.enterAll lines).interpreter
        (i.evaluateAll (commandsBehind label earlier lines)).1 := by
  induction lines generalizing s i earlier with
  | nil =>
    rw [commandsBehind_nil]
    exact ⟨rfl, rfl, hi⟩
  | cons line lines ih =>
    obtain ⟨halike, hfaults⟩ := hi.evaluateAll (s.exchange line).commands
    obtain ⟨hcommands, hrestFaults, hrest⟩ :=
      ih (hs.read line) ((s.alike_enter line).trans halike)
    rw [hs.commandsBehind_cons, Interpreter.evaluateAll_append, exchanges, List.flatMap_cons,
      List.flatMap_cons, hcommands, hrestFaults]
    refine ⟨rfl, ?_, hrest⟩
    exact congrArg (· ++ _) hfaults

/-- Each line has the commands that it has when it is read alone. -/
theorem forall₂_profiles {s : Shell σ} {label : Bytes} {earlier : List Bytes}
    (hs : s.scanner.Between label earlier) (lines : List Bytes) :
    List.Forall₂ (fun line e => ∀ label',
      e.commands.map Command.profile =
        (readScript label' (line ++ [newline])).map Command.profile)
      lines (s.exchanges lines) := by
  induction lines generalizing s earlier with
  | nil => exact .nil
  | cons line lines ih => exact .cons (hs.profiles_read line) (ih (hs.read line))

end Shell

/-- **A session does what a script does.** Entering lines one after another leads to the
simulation and the files that executing the script of these lines leads to. What is printed
is, line by line, the faults of its commands and the new lines of the output log; the
faults are those of the script, with the same places, and their texts are joined in the
script's error. All commands together are those of the script, but each line has the kinds,
texts and columns that it has when it is read alone: no span goes on in the next line. -/
theorem session_agrees_with_script {σ φ : Type} [PrintHost σ φ] (i : Interpreter σ)
    (chunks : List Bytes) :
    let script := Bytes.lines chunks
    let executed := i.execute (utf8 "xda") script
    let session := (Shell.new i).enterAll chunks
    let exchanges := (Shell.new i).exchanges chunks
    let texts := exchanges.flatMap fun e => e.faults.map (·.problem.message)
    (session.interpreter.simulation = executed.1.simulation ∧
      FileHost.files session.interpreter.host = FileHost.files executed.1.host) ∧
    (session.interpreter.printed = i.printed ++ exchanges.flatMap Exchange.text ∧
      exchanges.flatMap Exchange.faults = executed.2 ∧
      (Interpreter.problem? executed.2).map Problem.message =
        if texts = [] then none else some (Bytes.join [newline] texts)) ∧
    exchanges.flatMap Exchange.commands = readScript (utf8 "xda") script ∧
    List.Forall₂ (fun chunk e => ∀ label,
      e.commands.map Command.profile =
        (readScript label (chunk ++ [newline])).map Command.profile) chunks exchanges := by
  intro script executed session exchanges texts
  have hnew : (Shell.new i).scanner.Between (utf8 "xda") [] := Scanner.between_new _
  obtain ⟨hcommands, hfaults, halike⟩ :=
    Shell.enterAll_eq_evaluateAll hnew (Interpreter.Alike.refl i) chunks
  rw [← readScript_lines] at hcommands hfaults halike
  have htexts : texts = executed.2.map (·.problem.message) := by
    rw [show executed.2 = _ from hfaults.symm, List.map_flatMap]
  refine ⟨⟨halike.simulation, halike.files⟩, ⟨?_, hfaults, ?_⟩, hcommands, ?_⟩
  · exact Shell.printed_enterAll (Shell.new i) chunks
  · rw [htexts]
    cases executed.2 with
    | nil => rfl
    | cons f faults =>
      obtain ⟨p, hp⟩ : ∃ p, Interpreter.problem? (f :: faults) = some p := ⟨_, rfl⟩
      have hmessage := Problem.message_of_join hp
      rw [List.map_map] at hmessage
      rw [hp, Option.map_some, hmessage, if_neg (by simp)]
      rfl
  · exact Shell.forall₂_profiles hnew chunks

end NodeScript
