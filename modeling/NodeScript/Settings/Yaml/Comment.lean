/-
  Comments, and the way from one token to the next.

  A comment is taken together with the comments on the lines below it, as long
  as only blanks and empty lines stand between them, and not too many of them.
  So a tab in front of a comment does no harm below another comment, where it
  would otherwise be refused as indentation.
-/
import NodeScript.Settings.Yaml.Lexer

namespace NodeScript.Yaml

/-- How far is looked ahead for a comment. -/
def commentReach : Nat := 512

/-- The distance of the next comment from a distance on, if at most blanks, and
line breaks if those may be passed over, stand before it. -/
def findComment? (overBreaks : Bool) : (tries : Nat) → (distance : Nat) → Lex (Option Nat)
  | 0, _ => return none
  | n + 1, distance => do
    Lex.need (distance + 1)
    let c ← Lex.peek distance
    if isBlankChar c || (overBreaks && (c == '\n' || c == '\r')) then
      findComment? overBreaks n (distance + 1)
    else return if c == '#' then some distance else none

/-- Passes over a comment at a distance and everything before it. -/
def skipComment (distance : Nat) : Lex Unit := do
  let start := (← get).mark.index + distance
  Lex.again do
    Lex.need 1
    if isLineEnd (← Lex.peek 0) then
      if start ≤ (← get).mark.index then return false
      Lex.need 2
      let _ ← Lex.readBreak
      return true
    else
      Lex.skip
      return true

/-- Passes over a comment on the line of the last token. -/
def skipLineComment : Lex Unit := do
  if (← get).afterBreak then return
  match ← findComment? false commentReach 0 with
  | some distance => skipComment distance
  | none => return

/-- The distance of a comment on one of the lines below, from the end of a
line. -/
def findCommentBelow? : Lex (Option Nat) := do
  Lex.need 2
  let c ← Lex.peek 0
  if c == '\n' || c == '\r' then findComment? true (commentReach - 1) 1 else return none

/-- Passes over a comment that starts here, and over those on the lines below
it. -/
def skipComments : Lex Unit := do
  skipComment 0
  Lex.again do
    match ← findCommentBelow? with
    | some distance =>
      skipComment distance
      return true
    | none => return false

/-- Passes over blanks, comments and line breaks up to the next token. Where a
simple key may start in a block, a tab is no blank. Outside brackets a simple
key may start on each new line. -/
def skipToToken : Lex Unit := Lex.again do
  Lex.need 1
  let l ← get
  if l.mark.column == 0 && l.source.marked then Lex.skip
  let tabs := (← Lex.inFlow) || !l.keyAllowed
  Lex.skipWhile fun c => c == ' ' || (tabs && c == '\t')
  if (← Lex.peek 0) == '#' then skipComments
  if isBreak (← Lex.peek 0) then
    Lex.need 2
    let _ ← Lex.readBreak
    if !(← Lex.inFlow) then Lex.allowKey true
    return true
  else return false

end NodeScript.Yaml
