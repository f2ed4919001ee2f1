/-
  One line of an interactive session.

  The lines of a session are fed to one scanner, so that locations count lines
  from the start of the session. Every line is fed with its newline, which gives
  up a span that the line left open.
-/
import NodeScript.Interpreter.Run

namespace NodeScript

namespace Interpreter

variable {σ : Type} [Host σ]

/-- Carries out one command. A fault is printed on a line of its own at once,
before the next command is reported. -/
def evaluateAloud (i : Interpreter σ) (c : Command) : Interpreter σ :=
  match i.evaluate c with
  | (i, none) => i
  | (i, some f) => i.print (Bytes.lines [utf8 "error: " ++ f.problem.message])

/-- Carries out commands, printing their faults, and then prints the lines that
the output log has gained. -/
def answer (i : Interpreter σ) (cs : List Command) : Interpreter σ :=
  let after := cs.foldl evaluateAloud i
  after.print (Bytes.lines (after.simulation.output.drop i.simulation.output.length))

end Interpreter

/-- An interactive session: an interpreter, and a scanner for the lines. -/
structure Shell (σ : Type) where
  interpreter : Interpreter σ
  scanner : Scanner

namespace Shell

variable {σ : Type} [Host σ]

/-- A session with an interpreter that has not read a line yet. -/
def new (i : Interpreter σ) : Shell σ := ⟨i, { label := utf8 "xda" }⟩

/-- Prints a text. -/
def print (s : Shell σ) (text : Bytes) : Shell σ :=
  { s with interpreter := s.interpreter.print text }

/-- Takes in a line, carries out its commands, and prints what they come to. -/
def enter (s : Shell σ) (line : Bytes) : Shell σ :=
  let (commands, scanner) := s.scanner.read (line ++ [newline])
  ⟨s.interpreter.answer commands, scanner⟩

end Shell

end NodeScript
