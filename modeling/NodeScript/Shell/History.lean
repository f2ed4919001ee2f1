/-
  The lines of earlier interactive sessions, and lines as they are read.

  Lines are read into a buffer of a fixed size. A line that does not fit is cut
  into pieces as large as the buffer; a carriage return is never the last byte
  of a piece, since it may belong to a line end.
-/
import NodeScript.Files.Disk
import NodeScript.Settings.Basic
import NodeScript.Text.Rune

namespace NodeScript

/-! ### Reading lines -/

/-- The size of the buffer that lines are read into. -/
def lineBuffer : Nat := 4096

/-- A line as it was read: without its line end, and whether it is a piece of a
longer one. -/
structure LineRead where
  text : Bytes
  isPiece : Bool
  deriving DecidableEq

/-- Without a carriage return at the end. -/
def dropReturn (s : Bytes) : Bytes := if s.getLast? = some carriageReturn then s.dropLast else s

/-- The next line of a text that is not empty, and the number of bytes it
takes. -/
def firstLine (s : Bytes) : LineRead × Nat :=
  let window := s.take lineBuffer
  let line := window.takeWhile (· != newline)
  if line.length < window.length then (⟨dropReturn line, false⟩, line.length + 1)
  else if window.length < lineBuffer then (⟨line, false⟩, line.length)
  else (⟨dropReturn line, true⟩, (dropReturn line).length)

/-- The lines of a text. A text that ends with a line end has no line after
it. Every line takes at least one byte. -/
def readLines : Bytes → List LineRead
  | [] => []
  | b :: s =>
    let (line, size) := firstLine (b :: s)
    line :: readLines (s.drop (size - 1))
termination_by s => s.length
decreasing_by
  rw [List.length_drop, List.length_cons]
  omega

/-! ### Histories -/

/-- The lines that were entered, oldest first. -/
abbrev History := List Bytes

namespace History

/-- The most lines that are kept. -/
def limit : Nat := 1000

/-- The history without its oldest line if it has grown beyond the limit. -/
def bound (h : History) : History := if limit < h.length then h.tail else h

/-- The history with a line added, unless it equals the last one. -/
def add (h : History) (line : Bytes) : History :=
  if h.getLast? = some line then h else bound (h ++ [line])

/-- The history with the lines of a file added, and what kept it from being read
to the end, if anything: a line that is too long, or one that is not well-formed.
`n` counts the lines. -/
def addLines (h : History) (n : Nat) : List LineRead → History × Option Bytes
  | [] => (h, none)
  | line :: lines =>
    if line.isPiece then
      (h, some (utf8 "line " ++ Bytes.ofNat (n + 1) ++ utf8 " is too long"))
    else if !isWellFormed line.text then
      (h, some (utf8 "invalid string at line " ++ Bytes.ofNat (n + 1)))
    else addLines (bound (h ++ [line.text])) (n + 1) lines

/-- The text of a history: a newline after every line. -/
def render (h : History) : Bytes := Bytes.lines h

/-! ### The history file -/

/-- The path of the history file, in the home directory, if there is one. -/
def path? (env : Environment) : Option Bytes :=
  match env.get? (utf8 "HOME") with
  | none | some [] => none
  | some home => some (Path.below home (utf8 ".xda_history"))

/-- What is said if there is no home directory. -/
def noHome : Bytes := utf8 "$HOME is not defined"

/-- Opens the history file for reading; it need not be there. -/
def openFile (d : Disk) (path : Bytes) : Except Refusal (Option Entry) :=
  match d.openToRead path with
  | .ok entry => .ok (some entry)
  | .error why => if why.isMissing then .ok none else .error why

/-- The history in a file, and what kept it from being read, if anything. -/
def load (d : Disk) (path : Bytes) : History × Option Bytes :=
  match openFile d path with
  | .error why => ([], some why.message)
  | .ok none => ([], none)
  | .ok (some entry) =>
    match Disk.contentOf path entry with
    | .error why => ([], some why.message)
    | .ok content => addLines [] 0 (readLines content)

/-- Writes the history to a file. -/
def save (h : History) (d : Disk) (path : Bytes) : Except Refusal Disk :=
  d.replace path h.render

end History

end NodeScript
