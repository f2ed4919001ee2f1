/-
  Problems: what is reported when something goes wrong.

  A problem is a tree. At its leaves stand causes; on the way up a note may be
  added, the command at fault named, and two problems joined. The text of a
  problem is read off the tree, and so is what caused it: which command is at
  fault, and whether permission was missing.
-/
import NodeScript.Files.Refusal
import NodeScript.Script.Command

namespace NodeScript

/-- A problem with all that is known about it. -/
inductive Problem where
  /-- A cause that is nothing but its text. -/
  | plain (text : Bytes)
  /-- A command that lacks what its kind needs. -/
  | malformed
  /-- A file that could not be read or written. -/
  | refused (why : Refusal)
  /-- A problem with a note in front of it. -/
  | noted (note : Bytes) (inner : Problem)
  /-- A problem met while carrying out a command, if one was being carried
  out. -/
  | fault (command : Option Command) (inner : Problem)
  /-- Two problems, the first of which came first. -/
  | both (first second : Problem)
  deriving DecidableEq

namespace Problem

/-- The text of a problem. A fault begins with the location and the kind of its
command; joined problems stand on lines of their own. -/
def message : Problem → Bytes
  | .plain text => text
  | .malformed => utf8 "malformed command"
  | .refused why => why.message
  | .noted note inner => note ++ utf8 ": " ++ inner.message
  | .fault none inner => inner.message
  | .fault (some c) inner =>
    c.place.render ++ utf8 ": " ++ c.kind.name ++ utf8 ": " ++ inner.message
  | .both first second => first.message ++ [newline] ++ second.message

/-- The first fault in a problem, from the outside in and from the first to the
second, with the command and the problem in it. -/
def fault? : Problem → Option (Option Command × Problem)
  | .plain _ | .malformed | .refused _ => none
  | .noted _ inner => inner.fault?
  | .fault command inner => some (command, inner)
  | .both first second => first.fault? <|> second.fault?

/-- Whether the second problem is the first or stands somewhere in it. -/
def includes : Problem → Problem → Bool
  | q@(.noted _ inner), p => q = p || inner.includes p
  | q@(.fault _ inner), p => q = p || inner.includes p
  | q@(.both first second), p => q = p || first.includes p || second.includes p
  | q, p => q = p

/-- Whether a denied permission is at the root of a problem. -/
def isDenied (p : Problem) : Bool := p.includes (.refused .denied)

/-- All the problems of a list as one, if there are any. -/
def join : List Problem → Option Problem
  | [] => none
  | p :: ps => some (match join ps with
    | none => p
    | some q => .both p q)

end Problem

/-! ### Failures of commands -/

/-- A file that could not be written. -/
structure WriteFailure where
  name : Bytes
  why : Refusal
  deriving DecidableEq

/-- The problem that a failed write is. -/
def WriteFailure.problem (f : WriteFailure) : Problem :=
  .noted (utf8 "writing " ++ f.name) (.refused f.why)

/-- Why a command did not succeed. -/
inductive Failure where
  | malformed
  | write (failure : WriteFailure)
  deriving DecidableEq

/-- The problem that a failure is. -/
def Failure.problem : Failure → Problem
  | .malformed => .malformed
  | .write failure => failure.problem

/-- A command that could not be carried out because a write failed. -/
structure Fault where
  command : Command
  failure : WriteFailure
  deriving DecidableEq

/-- The problem that a fault is. -/
def Fault.problem (f : Fault) : Problem := .fault (some f.command) f.failure.problem

end NodeScript
