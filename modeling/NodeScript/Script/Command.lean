/-
  Commands and what they are read from.

  A span is the raw text between a `<` and its `>`, before it is understood. A
  command is a span with what it asks for. Both know where in the script they
  stand.
-/
import NodeScript.Text.Quoted

namespace NodeScript

/-! ### Places -/

/-- The place of a command's `<`: the label of the script, the line, counted
from one, and the column, the number of runes from the start of the line up to
and including the `<`. Line and column are signed because a location can also be
made up by a caller. -/
structure Location where
  name : Bytes := []
  line : Int := 0
  column : Int := 0
  deriving DecidableEq

/-- `name:line:column`. -/
def Location.render (l : Location) : Bytes :=
  l.name ++ [colon] ++ Bytes.ofInt l.line ++ [colon] ++ Bytes.ofInt l.column

/-! ### Spans -/

/-- The byte `<`, which opens a span. -/
def opening : UInt8 := 60

/-- The byte `>`, which finishes a span. -/
def closing : UInt8 := 62

/-- The bytes strictly between the brackets, and where the `<` stands. -/
structure Span where
  text : Bytes
  place : Location
  deriving DecidableEq

/-- The text in double quotes, then the location in parentheses. -/
def Span.render (s : Span) : Bytes :=
  doubleQuoted s.text ++ [openingParenthesis] ++ s.place.render ++ [closingParenthesis]

/-! ### Commands -/

/-- The kinds of commands of the language. -/
inductive Kind where
  | unrecognized
  | start
  | stop
  | setApi
  | connect
  | stat
  | log
  | exportOutput
  | compress
  | standalone
  | send
  deriving DecidableEq

namespace Kind

/-- All kinds in the order of their numbers. -/
def all : List Kind :=
  [.unrecognized, .start, .stop, .setApi, .connect, .stat, .log, .exportOutput, .compress,
    .standalone, .send]

/-- The number of a kind, its position in `all`. -/
def number : Kind → Nat
  | .unrecognized => 0
  | .start => 1
  | .stop => 2
  | .setApi => 3
  | .connect => 4
  | .stat => 5
  | .log => 6
  | .exportOutput => 7
  | .compress => 8
  | .standalone => 9
  | .send => 10

/-- The kind with the given number; a number that no kind has is
unrecognized. -/
def ofNumber : Int → Kind
  | .ofNat n => all[n]?.getD .unrecognized
  | .negSucc _ => .unrecognized

/-- The name of a kind in diagnostics and fault texts. -/
def name : Kind → Bytes
  | .unrecognized => utf8 "unrecognized"
  | .start => utf8 "start"
  | .stop => utf8 "stop"
  | .setApi => utf8 "set-api"
  | .connect => utf8 "connect"
  | .stat => utf8 "stat"
  | .log => utf8 "log"
  | .exportOutput => utf8 "export"
  | .compress => utf8 "compress"
  | .standalone => utf8 "standalone"
  | .send => utf8 "send"

end Kind

/-- A classified span: its kind, its raw text (not trimmed), and its place. -/
structure Command where
  kind : Kind
  text : Bytes
  place : Location
  deriving DecidableEq

/-- The kind, the text in `$'…'`, and the location in parentheses. -/
def Command.render (c : Command) : Bytes :=
  c.kind.name ++ [space] ++ dollarQuoted c.text ++ utf8 " (" ++ c.place.render
    ++ [closingParenthesis]

end NodeScript
