/-
  What the command line asks for.
-/
import NodeScript.Invocation.Argument
import NodeScript.Invocation.Usage
import NodeScript.Text.Blank

namespace NodeScript

/-- The values given on the command line; what was not given is empty. -/
structure Options where
  /-- The text of a script. -/
  command : Bytes := []
  /-- The path of a script. -/
  script : Bytes := []
  /-- The path of a settings file. -/
  config : Bytes := []
  dir : Bytes := []
  logFile : Bytes := []
  logLevel : Bytes := []
  /-- The file to export the output log to in the end. -/
  out : Bytes := []
  /-- Whether lines are read and answered one by one. -/
  interactive : Bool := false
  deriving DecidableEq

/-- What the program is called for: to print a text, or to run. -/
inductive Call where
  | print (message : Bytes)
  | run (options : Options)
  deriving DecidableEq

namespace Item

/-- The option of an item, if it is one of the program's. -/
def name? : Item → Option OptionName
  | .given name _ => some name
  | _ => none

/-- The text of a positional. -/
def positional? : Item → Option Bytes
  | .positional text => some text
  | _ => none

end Item

namespace Options

/-- Whether an option was given. -/
def isGiven (items : List Item) (name : OptionName) : Bool :=
  items.any (·.name? == some name)

/-- The value of an option, empty if it was not given. -/
def value (items : List Item) (name : OptionName) : Bytes :=
  (items.findSome? fun
    | .given n v => if n = name then some v else none
    | _ => none).getD []

/-- Whether the items fit one of the ways to call the program: only options of
the program, each at most once, and at most one of script and command. -/
def fits (items : List Item) : Bool :=
  let names := items.filterMap Item.name?
  let positionals := items.filterMap Item.positional?
  !items.contains .stranger && decide names.Nodup
    && positionals.length + (if isGiven items .command then 1 else 0) ≤ 1

/-- The options that items which fit ask for. The program is interactive only
without a script and a command to run: on a terminal unless the script is to be
read from standard input, and the other way around if inverted. An empty script
or command counts as none. -/
def ofItems (items : List Item) (terminal : Bool) : Options :=
  let command := value items .command
  let script := (items.findSome? Item.positional?).getD []
  { command
    script
    config := value items .config
    dir := value items .dir
    logFile := value items .logFile
    logLevel := value items .logLevel
    out := value items .out
    interactive := command.isEmpty && script.isEmpty
      && ((terminal && !isGiven items .stdin) != isGiven items .interactive) }

end Options

/-- What the arguments ask for. Help and version are given whatever else is
asked for, help first. -/
def Call.ofArguments (args : List Bytes) (terminal : Bool) : Except UsageMistake Call := do
  let items ← readItems programOptions args
  if Options.isGiven items .help then return .print helpText
  else if Options.isGiven items .version then return .print versionText
  else if Options.fits items then return .run (Options.ofItems items terminal)
  else throw .mismatch

/-- What is printed for a mistake: its wording, then the wording again with the
usage. -/
def UsageMistake.message (m : UsageMistake) : Bytes :=
  m.text ++ [newline] ++ trim (m.text ++ [newline] ++ usageSection)

end NodeScript
