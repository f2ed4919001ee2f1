/-
  Settings of the program.

  The settings start from defaults. Each later layer assigns some of them: a
  settings file, the environment, the command line. A layer that says nothing
  about a setting leaves it as it was.
-/
import NodeScript.Text.Bytes

namespace NodeScript

/-- How diagnostics are written: from which level on, in which form, and
where to. -/
structure Logging where
  level : Bytes := utf8 "warn"
  format : Bytes := utf8 "console"
  output : Bytes := utf8 "stderr"
  /-- The path to write to if the output is a file. -/
  file : Bytes := utf8 "xda.log"
  deriving DecidableEq

/-- The settings, with their defaults. -/
structure Settings where
  /-- The directory for the sink and for exports. -/
  dir : Bytes := utf8 "."
  /-- The name of the sink. -/
  logFile : Bytes := utf8 "log.txt"
  /-- Whether the lines of interactive sessions are kept. -/
  history : Bool := true
  logging : Logging := {}
  deriving DecidableEq

/-- What one layer says about the settings. -/
structure Assignment where
  dir : Option Bytes := none
  logFile : Option Bytes := none
  history : Option Bool := none
  level : Option Bytes := none
  format : Option Bytes := none
  output : Option Bytes := none
  file : Option Bytes := none
  deriving DecidableEq

/-- Why a text says nothing about the settings. -/
inductive DecodeFailure where
  /-- It is malformed, or gives a setting a value of the wrong kind. -/
  | mistaken
  /-- Two names have to be compared for which there is no comparison. No run of
  the program outlives that. -/
  | incomparable
  deriving DecidableEq

/-- The settings with one more layer on top. -/
def Settings.assign (s : Settings) (a : Assignment) : Settings where
  dir := a.dir.getD s.dir
  logFile := a.logFile.getD s.logFile
  history := a.history.getD s.history
  logging :=
    { level := a.level.getD s.logging.level
      format := a.format.getD s.logging.format
      output := a.output.getD s.logging.output
      file := a.file.getD s.logging.file }

/-- Variables of the environment with their values. -/
abbrev Environment := List (Bytes × Bytes)

namespace Environment

/-- The value of a variable, if it is set. -/
def get? (env : Environment) (name : Bytes) : Option Bytes := env.lookup name

/-- Whether a text can be the name of a variable. -/
def isName (s : Bytes) : Bool := !s.isEmpty && !s.contains equalsSign && !s.contains 0

/-- Whether a text can be the value of a variable. -/
def isValue (s : Bytes) : Bool := !s.contains 0

/-- The environment after the variables of `more` were to be set in it. Those that
are set already stay as they are, even if they are set to the empty text, and
those that an environment cannot hold are passed over. -/
def extend (env more : Environment) : Environment :=
  env ++ more.filter fun (name, _) =>
    (env.get? name).isNone && isName name && (more.get? name).all isValue

end Environment

end NodeScript
