/-
  Carrying out commands and scripts.

  A command that fails never stops a script. If it is malformed, that is only
  reported; if a write failed, the command is at fault, and a script ends with
  all its faults in order.
-/
import NodeScript.Interpreter.Action
import NodeScript.Script.Reader

namespace NodeScript

namespace Interpreter

variable {σ : Type} [Host σ]

/-- The field of an event that shows a command. -/
def commandField (c : Command) : Bytes × Bytes := (utf8 "command", c.render)

/-- Carries out one command. -/
def evaluate (i : Interpreter σ) (c : Command) : Interpreter σ × Option Fault :=
  match Action.ofKind? c.kind with
  | none => (i.report .debug [commandField c] (utf8 "ignored"), none)
  | some action =>
    let i := i.report .debug [commandField c] (utf8 "evaluating")
    match action i c.text with
    | (i, none) => (i, none)
    | (i, some .malformed) => (i.report .debug [commandField c] (utf8 "malformed"), none)
    | (i, some (.write failure)) =>
      (i.report .error [(Event.errorField, failure.problem.message), commandField c]
        (utf8 "fault"), some ⟨c, failure⟩)

/-- Carries out commands one after another and collects their faults. -/
def evaluateAll (i : Interpreter σ) : List Command → Interpreter σ × List Fault
  | [] => (i, [])
  | c :: cs =>
    let (i, fault) := i.evaluate c
    let (i, faults) := i.evaluateAll cs
    (i, fault.toList ++ faults)

/-- Carries out a script. -/
def execute (i : Interpreter σ) (label script : Bytes) : Interpreter σ × List Fault :=
  i.evaluateAll (readScript label script)

/-- The problem that the faults of a script are, if there are any. -/
def problem? (faults : List Fault) : Option Problem :=
  Problem.join (faults.map Fault.problem)

/-- Carries out a script with an empty output log to begin with. What the script
put out is then the whole log. -/
def run (i : Interpreter σ) (script : Bytes) : Interpreter σ × List Fault :=
  (i.update Simulation.clear).execute (utf8 "script") script

/-- Exports the output log to a file on behalf of the caller, not of a command.
The line that confirms it has no full stop. -/
def exportOutput (i : Interpreter σ) (path : Bytes) : Interpreter σ × Option WriteFailure :=
  match i.save path with
  | (i, none) => (i.update (·.append (utf8 "Output exported to " ++ path)), none)
  | (i, some failure) =>
    (i.report .error [(Event.errorField, failure.problem.message), (utf8 "path", path)]
      (utf8 "export failed"), some failure)

/-- Starts over with a new state under the same identity. -/
def reset (i : Interpreter σ) : Interpreter σ := i.update Simulation.reset

end Interpreter

end NodeScript
