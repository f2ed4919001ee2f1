/-
  Where an interpreter runs.

  An interpreter needs three things of its surroundings: a place to write files
  to, somebody to report events to, and somewhere to print. A bench provides all
  of them in memory. A write that is refused may still have changed the
  surroundings, where directories are made on the way; on a bench it changes
  nothing.
-/
import NodeScript.Diagnostics.Journal
import NodeScript.Files.Memory
import NodeScript.Text.Transcript

namespace NodeScript

/-- Surroundings that an interpreter can run in. -/
class Host (σ : Type) where
  /-- Writes a file, replacing its content, unless that is refused. -/
  write : σ → (name content : Bytes) → σ × Option Refusal
  /-- Takes notice of an event. -/
  report : σ → Event → σ
  /-- Prints a text for the one who entered a command. -/
  print : σ → Bytes → σ

/-- Surroundings with a second output, for what goes wrong. -/
class ErrorHost (σ : Type) extends Host σ where
  /-- Prints a text about something that went wrong. -/
  printError : σ → Bytes → σ

/-- Surroundings in memory: files, a journal, what the journal has written, and
what has been printed. -/
structure Bench where
  files : Memory := {}
  journal : Journal := .silent
  written : Transcript := {}
  printed : Transcript := {}

namespace Bench

/-- Writes a file in memory. -/
def write (b : Bench) (name content : Bytes) : Bench × Option Refusal :=
  match b.files.write name content with
  | .ok files => ({ b with files }, none)
  | .error why => (b, some why)

/-- Enters an event in the journal. -/
def report (b : Bench) (e : Event) : Bench :=
  { b with written := b.written.write (b.journal.entry e) }

/-- Adds to what has been printed. -/
def print (b : Bench) (text : Bytes) : Bench := { b with printed := b.printed.write text }

instance : Host Bench where
  write := write
  report := report
  print := print

end Bench

end NodeScript
