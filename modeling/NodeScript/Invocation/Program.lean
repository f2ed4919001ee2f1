/-
  The program.

  A run either prints a text about the program, or carries out a script as a
  whole, or answers lines one by one. What goes wrong before a script is run
  ends the program; what goes wrong in it shows in the exit status.
-/
import NodeScript.Invocation.Desk
import NodeScript.Invocation.Options
import NodeScript.Settings.Layers
import NodeScript.Shell.History
import NodeScript.Shell.Line

namespace NodeScript

/-- What a program run is given, apart from its arguments. -/
structure Given where
  /-- Whether standard input is a terminal. -/
  terminal : Bool := false
  env : Environment := []
  disk : Disk := {}
  /-- What standard input holds, or why it cannot be read. -/
  stdin : Except Refusal Bytes := .ok []
  /-- The identity of the simulation. -/
  id : Bytes := []
  /-- The time that is put on events. -/
  time : Bytes := []

/-- The exit status of a program run. -/
inductive ExitStatus where
  | success
  /-- Something went wrong while running. -/
  | failure
  /-- The program was called or set up wrongly. -/
  | misuse
  /-- The program broke off before it came to an end of its own. -/
  | abort
  deriving DecidableEq

/-- The number of an exit status. -/
def ExitStatus.code : ExitStatus → Nat
  | .success => 0
  | .failure => 1
  | .misuse | .abort => 2

/-- A message of the program on a line of its own. -/
def complaint (message : Bytes) : Bytes := utf8 "xda: " ++ message ++ [newline]

/-! ### Scripts as a whole -/

/-- A script with its label. -/
structure Source where
  label : Bytes
  text : Bytes
  deriving DecidableEq

/-- The script that is to be run: the one on the command line, the one in a
file, or the one on standard input. -/
def Source.ofOptions (o : Options) (d : Disk) (stdin : Except Refusal Bytes) :
    Except Refusal Source :=
  if !o.command.isEmpty then .ok ⟨utf8 "command", o.command⟩
  else if !o.script.isEmpty then do return ⟨o.script, ← d.read o.script⟩
  else do return ⟨utf8 "stdin", ← stdin⟩

namespace Interpreter

variable {σ : Type} [ErrorHost σ]

/-- Exports the output log if there is a file to export it to. -/
def exportIfAsked (i : Interpreter σ) (out : Bytes) : Interpreter σ × Option WriteFailure :=
  if out.isEmpty then (i, none) else i.exportOutput out

/-- Prints what a problem is, if there is one. -/
def complain (i : Interpreter σ) : Option Problem → Interpreter σ
  | none => i
  | some p => { i with host := ErrorHost.printError i.host (complaint p.message) }

/-- Carries out a script, exports the output log if asked to, and prints the
log, whatever went wrong. -/
def runSource (i : Interpreter σ) (s : Source) (out : Bytes) : Interpreter σ × ExitStatus :=
  let (i, faults) := i.execute s.label s.text
  let i := i.complain (problem? faults)
  let (i, failure) := i.exportIfAsked out
  let i := i.complain (failure.map WriteFailure.problem)
  let i := i.print (Bytes.lines i.simulation.output)
  (i, if faults.isEmpty && failure.isNone then .success else .failure)

end Interpreter

/-! ### Line by line -/

/-- What is printed before a line is read. -/
def prompt : Bytes := utf8 "xda> "

namespace Shell

/-- Answers one line. A line with nothing but white space is not kept in the
history. -/
def answerLine (s : Shell Desk × History) (line : Bytes) : Shell Desk × History :=
  (s.1.enter line, if (trim line).isEmpty then s.2 else s.2.add line)

/-- Asks for one line and answers it. -/
def interact (s : Shell Desk × History) (line : Bytes) : Shell Desk × History :=
  answerLine (s.1.print prompt, s.2) line

/-- Saves the history at the end of a session, if it has a file. -/
def saveHistory (s : Shell Desk × History) (historyPath : Option Bytes) :
    Shell Desk × Option Refusal :=
  match historyPath with
  | none => (s.1, none)
  | some path =>
    let host := s.1.interpreter.host
    match s.2.save host.machine.disk path with
    | .error why => (s.1, some why)
    | .ok disk =>
      ({ s.1 with interpreter := { s.1.interpreter with
          host := { host with machine := { host.machine with disk } } } }, none)

/-- Asks for the lines of standard input and answers them. If standard input
cannot be read, the history is not saved. -/
def interactAll (s : Shell Desk × History) (stdin : Except Refusal Bytes)
    (historyPath : Option Bytes) : Shell Desk × Option Refusal :=
  match stdin with
  | .error why => (s.1.print prompt, some why)
  | .ok text =>
    let (shell, history) := (readLines text).foldl (fun s line => interact s line.text) s
    saveHistory (shell.print (prompt ++ [newline]), history) historyPath

/-- The start of a session: the history is loaded if it has a file. -/
def begin (i : Interpreter Desk) (historyPath : Option Bytes) : Shell Desk × History :=
  let shell := Shell.new i
  match historyPath with
  | none => (shell, [])
  | some path =>
    match History.load i.host.machine.disk path with
    | (history, none) => (shell, history)
    | (history, some trouble) =>
      (shell.print (utf8 "history: " ++ trouble ++ [newline]), history)

/-- The end of a session that went well, or did not. -/
def finish (s : Shell Desk) : Option Refusal → Interpreter Desk × ExitStatus
  | none => (s.interpreter, .success)
  | some why => (s.interpreter.complain (some (.refused why)), .failure)

/-- A whole session. -/
def session (i : Interpreter Desk) (stdin : Except Refusal Bytes)
    (historyPath : Option Bytes) : Interpreter Desk × ExitStatus :=
  let (shell, trouble) := interactAll (begin i historyPath) stdin historyPath
  shell.finish trouble

end Shell

/-! ### Program runs -/

/-- The interpreter that the settings ask for, after its first event. -/
def Settings.interpreter (s : Settings) (id : Bytes) (journal : Journal) (outlet : Outlet)
    (disk : Disk) : Interpreter Desk :=
  let desk : Desk := { machine := { disk }, dir := s.dir, journal, outlet }
  Interpreter.new
    (desk.report
      { level := .debug
        fields := [(utf8 "dir", s.dir), (utf8 "log_file", s.logFile)]
        message := utf8 "starting" })
    id s.logFile

/-- A run that has been set up: what was asked for, and an interpreter for it. -/
structure Run where
  options : Options
  /-- The history file of an interactive session, if it has one. -/
  historyPath : Option Bytes
  interpreter : Interpreter Desk

/-- Sets up a run, or ends it at once. -/
def Run.prepare (args : List Bytes) (g : Given) (decoders : Decoders := .standard) :
    Except (ExitStatus × Machine) Run :=
  let machine : Machine := { disk := g.disk }
  match Call.ofArguments args g.terminal with
  | .error mistake => .error (.misuse, machine.printError (mistake.message ++ [newline]))
  | .ok (.print message) => .error (.success, machine.print (message ++ [newline]))
  | .ok (.run o) =>
    match Settings.inEffect g.disk g.env o decoders with
    | .error mistake =>
      .error (if mistake.isFatal then .abort else .misuse,
        machine.printError (complaint mistake.message))
    | .ok (s, env) =>
      match s.logging.openJournal g.time g.disk with
      | .error mistake => .error (.misuse, machine.printError (complaint mistake.message))
      | .ok (journal, outlet, disk) =>
        .ok { options := o
              historyPath := if s.history then History.path? env else none
              interpreter := s.interpreter g.id journal outlet disk }

/-- Carries out a run that has been set up. -/
def Run.carryOut (r : Run) (stdin : Except Refusal Bytes) :
    Interpreter Desk × ExitStatus :=
  if r.options.interactive then Shell.session r.interpreter stdin r.historyPath
  else
    match Source.ofOptions r.options r.interpreter.host.machine.disk stdin with
    | .error why => (r.interpreter.complain (some (.refused why)), .failure)
    | .ok source => r.interpreter.runSource source r.options.out

/-- A run of the program: the exit status, and the machine afterwards. -/
def runProgram (args : List Bytes) (g : Given) : ExitStatus × Machine :=
  match Run.prepare args g with
  | .error done => done
  | .ok r =>
    let (i, status) := r.carryOut g.stdin
    (status, i.host.machine)

end NodeScript
