/-
  Arguments of commands.

  The argument of a command is found anywhere in its text: some fixed words with
  optional separators between them, then the argument itself up to a closing
  byte. The first place where all of this fits is taken. Because the argument
  may not contain its closing byte, there is at most one way to fit at any one
  place, so searching is trying the places from left to right.
-/
import NodeScript.Text.Blank

namespace NodeScript

/-- The shape of an argument: the words that lead to it, the bytes it may hold,
how many of them it needs at least, and the byte that closes it. -/
structure Pattern where
  words : List Bytes
  inner : UInt8 → Bool
  least : Nat
  close : UInt8

namespace Pattern

/-- What follows the words, with any separators between two of them but none
before the first or after the last. -/
def afterWords? : List Bytes → Bytes → Option Bytes
  | [], s => some s
  | [w], s => Bytes.stripStart? w s
  | w :: ws, s => do
    let rest ← Bytes.stripStart? w s
    afterWords? ws (rest.dropWhile isSeparator)

/-- The argument, if the pattern fits at the very start of the text. -/
def matchHere? (p : Pattern) (s : Bytes) : Option Bytes := do
  let rest ← afterWords? p.words s
  let value := rest.takeWhile p.inner
  let after := rest.dropWhile p.inner
  if p.least ≤ value.length ∧ after.head? = some p.close then some value else none

/-- The argument at the leftmost place where the pattern fits. -/
def find? (p : Pattern) : Bytes → Option Bytes
  | [] => p.matchHere? []
  | b :: s => p.matchHere? (b :: s) <|> p.find? s

/-- An argument of any bytes but newlines up to the given closing byte. -/
def upTo (words : List Bytes) (close : UInt8) : Pattern where
  words := words
  inner b := b != close && b != newline
  least := 0
  close := close

/-- `NodeAPI = "…"`. -/
def nodeApi : Pattern := upTo [utf8 "NodeAPI", utf8 "=", utf8 "\""] doubleQuote

/-- `out => "…"`. -/
def exportPath : Pattern := upTo [utf8 "out", utf8 "=>", utf8 "\""] doubleQuote

/-- `send (…)`. -/
def sendArgument : Pattern := upTo [utf8 "send", utf8 "("] closingParenthesis

/-- `node[…]` with at least one decimal digit inside. -/
def nodeId : Pattern where
  words := [utf8 "node["]
  inner := Bytes.isDigit
  least := 1
  close := closingBracket

end Pattern

end NodeScript
