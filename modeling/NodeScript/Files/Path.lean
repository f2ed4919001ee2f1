/-
  Slash-separated paths.

  Cleaning a path is lexical: empty parts and `.` vanish, `..` takes the part
  before it away, and no file is looked at. A path that starts with `/` cannot
  climb above its root.
-/
import NodeScript.Text.Bytes

namespace NodeScript

/-- A clean path: whether it starts at the root, and its parts. -/
structure Path where
  rooted : Bool
  parts : List Bytes
  deriving DecidableEq

namespace Path

/-- The byte `/`. -/
def slash : UInt8 := 47

/-- The part `..`, which stands for the parent. -/
def parent : Bytes := [period, period]

/-- Adds one part to the reversed parts of a clean path. -/
def push (rooted : Bool) (stack : List Bytes) (part : Bytes) : List Bytes :=
  if part = [] ∨ part = [period] then stack
  else if part = parent then
    match stack with
    | [] => if rooted then [] else [parent]
    | top :: below => if top = parent then parent :: stack else below
  else part :: stack

/-- The clean path that a text spells. -/
def ofBytes (s : Bytes) : Path :=
  let rooted := s.head? == some slash
  ⟨rooted, ((Bytes.splitAt slash s).foldl (push rooted) []).reverse⟩

/-- The text of a clean path; the empty relative path is `.`. -/
def toBytes (p : Path) : Bytes :=
  let body := Bytes.join [slash] p.parts
  if p.rooted then slash :: body else if p.parts.isEmpty then [period] else body

/-- The cleaned text of a path. -/
def clean (s : Bytes) : Bytes := (ofBytes s).toBytes

/-- A path below a directory, cleaned; an empty directory or path is left
out. -/
def below (dir path : Bytes) : Bytes :=
  if dir.isEmpty then if path.isEmpty then [] else clean path
  else if path.isEmpty then clean dir
  else clean (dir ++ [slash] ++ path)

/-- Whether a path climbs out of the directory it is taken to be in. The path
`..` alone does not count. -/
def escapes (s : Bytes) : Bool :=
  let p := ofBytes s
  !p.rooted && p.parts.head? == some parent && 2 ≤ p.parts.length

/-- The directory that a clean path is in. -/
def directory (p : Path) : Path := { p with parts := p.parts.dropLast }

/-- The paths of the directories that lead to a clean path, from the top
downwards. The root is not among them, because it is always there. -/
def ancestors (p : Path) : List Bytes :=
  let up := p.parts.dropLast
  (List.range up.length).map fun n => (Path.mk p.rooted (up.take (n + 1))).toBytes

/-- The extension of a path: its last part from the last `.` on, or nothing. -/
def extension (s : Bytes) : Bytes :=
  let last := match Bytes.cutLast? slash s with
    | some (_, after) => after
    | none => s
  match Bytes.cutLast? period last with
  | some (_, after) => period :: after
  | none => []

end Path

end NodeScript
