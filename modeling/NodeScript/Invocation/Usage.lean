/-
  What the program says about itself.
-/
import NodeScript.Text.Bytes

namespace NodeScript

/-- A text given by its lines, without a newline at the end. -/
def paragraph (lines : List String) : Bytes := Bytes.join [newline] (lines.map utf8)

/-- The name and version of the program. -/
def versionText : Bytes := utf8 "xda 0.1.0"

/-- The ways to call the program. -/
def usageSection : Bytes := paragraph
  ["Usage:",
   "  xda [options] SCRIPT",
   "  xda [options] -c COMMAND",
   "  xda [options]",
   "  xda -h",
   "  xda -v"]

/-- The arguments and options of the program, and when it is interactive. -/
def optionsSection : Bytes := paragraph
  ["Arguments:",
   "  SCRIPT  Path to an xda script.",
   "",
   "Options:",
   "  -c, --command=COMMAND  Run the specified commands.",
   "  -i, --interactive      Invert interactive mode.",
   "  -s, --stdin            Read the script from stdin.",
   "  --config=FILE          Read settings from a YAML or TOML file.",
   "  --dir=DIR              Directory holding the log sink and exported files.",
   "  --log-file=NAME        Name of the log sink written by LOG.",
   "  --log-level=LEVEL      Diagnostics level (trace, debug, info, warn, error).",
   "  --out=FILE             Export the output log to FILE after running.",
   "  -h, --help             Display this help.",
   "  -v, --version          Print xda version.",
   "",
   "If xda's stdin is a TTY, and xda was invoked with no SCRIPT, COMMAND or",
   "--stdin, each line entered is run against the same session. Otherwise the",
   "whole script is read and run once."]

/-- The whole help. -/
def helpText : Bytes :=
  Bytes.join [newline, newline] [utf8 "xda", usageSection, optionsSection]

end NodeScript
