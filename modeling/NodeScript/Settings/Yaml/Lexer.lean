/-
  Reading characters one after another.

  A lexer knows where it stands in the file and which tokens it has found. This
  module has the steps by which it moves, and the two questions on which the
  shape of a document hangs: how far the current block is indented, and whether
  what has just been read may turn out to be a key. A key without a mark is
  known only by the colon after it, so its token is put in front of it
  afterwards; such a simple key must be on one line and must not be too long.
-/
import NodeScript.Settings.Yaml.Source
import NodeScript.Settings.Yaml.Token

namespace NodeScript.Yaml

/-- A position in a file: the number of characters before it, and its line and
column, both counted from zero. -/
structure Mark where
  index : Nat := 0
  line : Nat := 0
  column : Nat := 0

/-- What may become a simple key. -/
structure SimpleKey where
  possible : Bool := false
  /-- Whether nothing but a key can stand there. -/
  required : Bool := false
  /-- The number of the first token of the key. -/
  token : Nat := 0
  mark : Mark := {}

/-- A file while tokens are read from it. -/
structure Lexer where
  source : Source
  mark : Mark := {}
  /-- Whether there have been only blanks since the last line break. -/
  afterBreak : Bool := false
  started : Bool := false
  /-- Whether a simple key may start here. -/
  keyAllowed : Bool := true
  /-- What may become a simple key, within the innermost brackets. -/
  key : SimpleKey := {}
  /-- The same for the brackets around those, the innermost first. -/
  outerKeys : List SimpleKey := []
  /-- The tokens that may start a simple key, with the depth of brackets. -/
  keyDepths : List (Nat × Nat) := []
  /-- The column of the current block. -/
  indent : Int := -1
  /-- The columns of the blocks around it, the innermost first. -/
  indents : List Int := []
  /-- The tokens that have been found and not been taken. -/
  queue : List Token := []
  /-- The number of tokens that have been taken. -/
  taken : Nat := 0
  /-- Whether enough is known about the first token of the queue. -/
  settled : Bool := false
  /-- A number that neither the characters of the file nor its tokens at one
  time exceed. -/
  bound : Nat

namespace Lexer

/-- A lexer at the start of a file. -/
def ofBytes (content : Bytes) : Lexer where
  source := Source.ofBytes content
  bound := content.length + 16

/-- How many brackets are open. -/
def depth (l : Lexer) : Nat := l.outerKeys.length

end Lexer

/-- A reading step, which may fail. -/
abbrev Lex := StateT Lexer Option

namespace Lex

/-! ### Looking and moving -/

/-- Makes sure that so many characters can be looked at. -/
def need (n : Nat) : Lex Unit := fun l => do
  let source ← l.source.need n
  return ((), { l with source })

/-- The character at a distance. -/
def peek (n : Nat) : Lex Char := do return (← get).source.peek n

/-- The current column. -/
def column : Lex Nat := do return (← get).mark.column

/-- Whether the lexer is inside brackets. -/
def inFlow : Lex Bool := do return (← get).depth != 0

/-- The lexer after one character has been passed over that breaks no line. -/
def passed (l : Lexer) : Lexer :=
  { l with
    source := { l.source with window := l.source.window.tail }
    mark := { l.mark with index := l.mark.index + 1, column := l.mark.column + 1 }
    afterBreak := l.afterBreak && isBlankChar (l.source.peek 0) }

/-- Passes over a character. -/
def skip : Lex Unit := modify passed

/-- Passes over a character and gives it. -/
def read : Lex Char := do
  let c ← peek 0
  skip
  return c

/-- Passes over a line break and gives the character it stands for: a newline,
or a separator of lines or paragraphs, which stands for itself. -/
def readBreak : Lex Char := do
  let c ← peek 0
  let length := if c == '\r' && (← peek 1) == '\n' then 2 else 1
  modify fun l => { l with
    source := { l.source with window := l.source.window.drop length }
    mark := { index := l.mark.index + length, line := l.mark.line + 1, column := 0 }
    afterBreak := true }
  return if c.toNat == 0x2028 || c.toNat == 0x2029 then c else '\n'

/-- Repeats a step as long as it asks for it. -/
def again (step : Lex Bool) : Lex Unit := do go (← get).bound
where
  /-- At most so many times. -/
  go : Nat → Lex Unit
    | 0 => failure
    | n + 1 => do if ← step then go n

/-- Passes over characters of a class. -/
def skipWhile (p : Char → Bool) : Lex Unit := again do
  need 1
  if p (← peek 0) then
    skip
    return true
  else return false

/-- Passes over characters of a class and gives them. -/
def readWhile (p : Char → Bool) : Lex (List Char) := do go (← get).bound
where
  /-- At most so many characters. -/
  go : Nat → Lex (List Char)
    | 0 => failure
    | n + 1 => do
      need 1
      if p (← peek 0) then
        let c ← read
        return c :: (← go n)
      else return []

/-- Passes over characters up to the end of the line. -/
def skipLine : Lex Unit := skipWhile (!isLineEnd ·)

/-- Whether the lexer is at the start of a line before the marker that starts a
document or the one that ends it. -/
def atMarker (c : Char) : Lex Bool := do
  let l ← get
  let p := l.source.peek
  return l.mark.column == 0 && p 0 == c && p 1 == c && p 2 == c && isGap (p 3)

/-- Whether the lexer is at the start of a line before a marker. -/
def atAnyMarker : Lex Bool := do return (← atMarker '-') || (← atMarker '.')

/-! ### The queue -/

/-- Adds a token to the end of the queue. -/
def push (t : Token) : Lex Unit := modify fun l => { l with queue := l.queue ++ [t] }

/-- Puts a token in front of the token with the given number; if that has been
taken, to the end of the queue. -/
def insert (number : Nat) (t : Token) : Lex Unit := modify fun l =>
  { l with queue :=
      if number < l.taken then l.queue ++ [t]
      else l.queue.take (number - l.taken) ++ t :: l.queue.drop (number - l.taken) }

/-- The number that the next token will have. -/
def nextNumber : Lex Nat := do
  let l ← get
  return l.taken + l.queue.length

/-! ### Simple keys -/

/-- The greatest number of characters before the colon of a simple key. -/
def keyLimit : Nat := 1024

/-- Whether a simple key is on the current line and not too far back. -/
def isNear (mark : Mark) (k : SimpleKey) : Bool :=
  mark.line ≤ k.mark.line && mark.index ≤ k.mark.index + keyLimit

/-- Whether the simple key within the brackets of a depth can still be one. If
not, it is forgotten; a required one cannot be. -/
def confirmKey (depth : Nat) : Lex Bool := do
  let l ← get
  let keys := l.key :: l.outerKeys
  let place := l.depth - depth
  match if depth ≤ l.depth then keys[place]? else none with
  | none => return false
  | some k =>
    if !k.possible then return false
    else if isNear l.mark k then return true
    else if k.required then failure
    else
      match keys.set place { k with possible := false } with
      | key :: outerKeys => set { l with key, outerKeys }
      | [] => pure ()
      return false

/-- Gives up the simple key within the innermost brackets. One that is required
cannot be given up. -/
def dropKey : Lex Unit := do
  let l ← get
  if l.key.possible then
    if l.key.required then failure
    set { l with
      key := { l.key with possible := false }
      keyDepths := l.keyDepths.filter (·.1 != l.key.token) }

/-- Notes that what follows may become a simple key, if one may start here. In a
block that has started in this column nothing else can stand. -/
def saveKey : Lex Unit := do
  let l ← get
  if l.keyAllowed then
    let token ← nextNumber
    let key : SimpleKey :=
      { possible := true, required := l.depth == 0 && l.indent == l.mark.column
        token, mark := l.mark }
    dropKey
    modify fun l => { l with key, keyDepths := (token, l.depth) :: l.keyDepths }

/-- Says whether a simple key may start. -/
def allowKey (allowed : Bool) : Lex Unit := modify fun l => { l with keyAllowed := allowed }

/-- The greatest depth of brackets and of blocks. -/
def depthLimit : Nat := 10000

/-- Enters brackets. -/
def enter : Lex Unit := do
  let token ← nextNumber
  let l ← get
  if depthLimit ≤ l.depth then failure
  set { l with key := { token, mark := l.mark }, outerKeys := l.key :: l.outerKeys }

/-- Leaves brackets, if there are any. -/
def leave : Lex Unit := modify fun l =>
  match l.outerKeys with
  | [] => l
  | key :: outerKeys =>
    { l with key, outerKeys, keyDepths := l.keyDepths.filter (·.1 != l.key.token) }

/-! ### Indentation -/

/-- Starts a block at a column that is further in than the current one. Its
token is put in front of the token with the given number. Inside brackets there
are no blocks. -/
def openBlock (column : Nat) (number : Nat) (t : Token) : Lex Unit := do
  let l ← get
  if l.depth == 0 && l.indent < column then
    if depthLimit ≤ l.indents.length then failure
    set { l with indent := column, indents := l.indent :: l.indents }
    insert number t

/-- Ends the blocks that are further in than a column. -/
def closeBlocks (column : Int) : Lex Unit := modify fun l =>
  if l.depth != 0 then l else close l l.indents
where
  /-- Ends blocks, the innermost first. -/
  close (l : Lexer) : List Int → Lexer
    | [] => l
    | outer :: indents =>
      if l.indent ≤ column then l
      else close { l with queue := l.queue ++ [.blockEnd], indent := outer, indents } indents

end Lex

end NodeScript.Yaml
