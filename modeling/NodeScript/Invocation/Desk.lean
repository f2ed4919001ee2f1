/-
  The surroundings of a program run: the directory tree it was started in, its
  two output streams, and the journal.
-/
import NodeScript.Diagnostics.Outlet
import NodeScript.Interpreter.Host

namespace NodeScript

/-- What a program run can change: files, and what it has written to its two
output streams. -/
structure Machine where
  disk : Disk := {}
  stdout : Transcript := {}
  stderr : Transcript := {}

namespace Machine

/-- Writes to standard output. -/
def print (m : Machine) (s : Bytes) : Machine := { m with stdout := m.stdout.write s }

/-- Writes to standard error. -/
def printError (m : Machine) (s : Bytes) : Machine := { m with stderr := m.stderr.write s }

/-- Writes to the outlet of a journal. A file that was opened for the journal
stays writable. -/
def writeTo (m : Machine) (s : Bytes) : Outlet → Machine
  | .stdout => m.print s
  | .stderr => m.printError s
  | .file path =>
    match m.disk.append path s with
    | .ok disk => { m with disk }
    | .error _ => m

end Machine

/-- Surroundings on a machine: files are kept below a directory, and events
are entered in a journal. -/
structure Desk where
  machine : Machine
  dir : Bytes
  journal : Journal
  outlet : Outlet

namespace Desk

/-- Writes a file below the directory. -/
def write (d : Desk) (name content : Bytes) : Desk × Option Refusal :=
  let (disk, refusal) := d.machine.disk.writeBelow d.dir name content
  ({ d with machine := { d.machine with disk } }, refusal)

/-- Enters an event in the journal. -/
def report (d : Desk) (e : Event) : Desk :=
  { d with machine := d.machine.writeTo (d.journal.entry e) d.outlet }

/-- Writes to standard output. -/
def print (d : Desk) (s : Bytes) : Desk := { d with machine := d.machine.print s }

instance : Host Desk where
  write := write
  report := report
  print := print

/-- Writes to standard error. -/
def printError (d : Desk) (s : Bytes) : Desk := { d with machine := d.machine.printError s }

instance : ErrorHost Desk where
  printError := printError

end Desk

end NodeScript
