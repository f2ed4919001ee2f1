/-
  Opening a journal as the settings say.
-/
import NodeScript.Diagnostics.Journal
import NodeScript.Files.Disk
import NodeScript.Settings.Basic

namespace NodeScript

/-- Where a journal writes to. -/
inductive Outlet where
  | stderr
  | stdout
  | file (path : Bytes)
  deriving DecidableEq

/-- Why a journal cannot be opened. -/
inductive JournalMistake where
  | level (given : Bytes) (mistake : Level.Mistake)
  | output (given : Bytes)
  | file (path : Bytes) (why : Refusal)
  deriving DecidableEq

/-- The wording of a mistake. -/
def JournalMistake.message : JournalMistake → Bytes
  | .level given mistake =>
    utf8 "invalid log level '" ++ given ++ utf8 "': " ++ mistake.message
  | .output given => utf8 "invalid log output '" ++ given ++ utf8 "'"
  | .file path why =>
    utf8 "failed to open log file '" ++ path ++ utf8 "': " ++ why.message

/-- The outlet that a text names, in any case. -/
def Outlet.ofBytes? (output file : Bytes) : Option Outlet :=
  let output := lowerCase output
  if output = [] ∨ output = utf8 "stderr" then some .stderr
  else if output = utf8 "stdout" then some .stdout
  else if output = utf8 "file" then some (.file file)
  else none

/-- The format that a text names, in any case; anything but the console is
JSON. -/
def Format.ofBytes (s : Bytes) : Format :=
  if lowerCase s = utf8 "console" then .console else .json

/-- Opens a journal that puts the given time on its events. A file is made if it
is not there. -/
def Logging.openJournal (l : Logging) (time : Bytes) (d : Disk) :
    Except JournalMistake (Journal × Outlet × Disk) :=
  match Level.ofBytes (lowerCase l.level) with
  | .error mistake => .error (.level l.level mistake)
  | .ok threshold =>
    let journal : Journal := { threshold, format := .ofBytes l.format, time := some time }
    match Outlet.ofBytes? l.output l.file with
    | none => .error (.output l.output)
    | some (.file path) =>
      match d.append path [] with
      | .error why => .error (.file path why)
      | .ok d => .ok (journal, .file path, d)
    | some outlet => .ok (journal, outlet, d)

/-- A journal that goes to standard error needs nothing of the disk. -/
theorem Logging.openJournal_of_stderr {l : Logging} {row : Level × Bytes × Bytes}
    (hlevel : Level.named.find? (·.2.1 = foldCase (lowerCase l.level)) = some row)
    (houtlet : Outlet.ofBytes? l.output l.file = some .stderr) (time : Bytes) (d : Disk) :
    l.openJournal time d =
      .ok ({ threshold := row.1, format := .ofBytes l.format, time := some time }, .stderr, d) := by
  simp only [openJournal, Level.ofBytes, hlevel, houtlet]

end NodeScript
