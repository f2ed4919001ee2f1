/-
  Scalars: texts without quotes, in quotes, and of whole lines.

  Outside whole lines, line breaks are folded: a single one becomes a space, and
  of several ones the first is dropped. Separators of lines and paragraphs are
  kept. Blanks around a folded line break are dropped.
-/
import NodeScript.Settings.Yaml.Lexer

namespace NodeScript.Yaml

/-- The bytes of characters. -/
def encode (cs : List Char) : Bytes := cs.flatMap String.utf8EncodeChar

/-! ### Folding -/

/-- The text of a scalar while it is read, with the blanks and line breaks of
which it is not known yet what becomes of them. All texts have their last
character first. -/
structure Folding where
  text : List Char := []
  /-- The blanks since the last character of the text, if no line break is among
  them. -/
  blanks : List Char := []
  /-- The first line break. -/
  first : List Char := []
  /-- The line breaks after the first. -/
  more : List Char := []
  /-- Whether a line has ended since the last character of the text. -/
  broken : Bool := false

namespace Folding

/-- Decides what becomes of the blanks and line breaks. -/
def settle (f : Folding) : Folding :=
  let gap :=
    if !f.broken then f.blanks
    else if f.first == ['\n'] then if f.more.isEmpty then [' '] else f.more
    else f.more ++ f.first
  { text := gap ++ f.text }

/-- Adds a character to the text. -/
def push (f : Folding) (c : Char) : Folding := { f with text := c :: f.text }

/-- Reads blanks and line breaks. At the start of a line there must be no tab in
front of the given column. -/
def readGap (column : Int) (f : Folding) : Lex Folding := do go (← get).bound f
where
  /-- At most so many characters. -/
  go : Nat → Folding → Lex Folding
    | 0, _ => failure
    | n + 1, f => do
      Lex.need 1
      let c ← Lex.peek 0
      if isBlankChar c then
        if f.broken && c == '\t' && (← Lex.column) < column then failure
        Lex.skip
        go n (if f.broken then f else { f with blanks := c :: f.blanks })
      else if isBreak c then
        Lex.need 2
        let b ← Lex.readBreak
        go n (
          if f.broken then { f with more := b :: f.more }
          else { f with blanks := [], first := [b], broken := true })
      else return f

end Folding

/-! ### Without quotes -/

/-- Whether a character ends a scalar without quotes inside brackets. -/
def endsFlowPlain (c : Char) : Bool :=
  c == ',' || c == '?' || c == '[' || c == ']' || c == '\x7b' || c == '\x7d'

/-- Reads the characters of a scalar without quotes up to a blank or a line
break. A colon ends it if a gap follows. -/
def readPlainWord (f : Folding) : Lex Folding := do go (← get).bound f
where
  /-- At most so many characters. -/
  go : Nat → Folding → Lex Folding
    | 0, _ => failure
    | n + 1, f => do
      let c ← Lex.peek 0
      if isGap c || (c == ':' && isGap (← Lex.peek 1)) || ((← Lex.inFlow) && endsFlowPlain c) then
        return f
      else
        Lex.skip
        Lex.need 2
        go n (f.settle.push c)

/-- Reads a scalar without quotes. It ends before a comment, before a marker,
and where a line is not indented further than the block around it. If it ends at
the start of a line, a simple key may follow. -/
def readPlain : Lex Token := do
  let column := (← get).indent + 1
  let f ← go column (← get).bound {}
  if f.broken then Lex.allowKey true
  return .scalar true (encode f.text.reverse)
where
  /-- At most so many words. -/
  go (column : Int) : Nat → Folding → Lex Folding
    | 0, _ => failure
    | n + 1, f => do
      Lex.need 4
      if ← Lex.atAnyMarker then return f
      else if (← Lex.peek 0) == '#' then return f
      else
        let f ← readPlainWord f
        let c ← Lex.peek 0
        if isBlankChar c || isBreak c then
          let f ← f.readGap column
          if !(← Lex.inFlow) && (← Lex.column) < column then return f
          else go column n f
        else return f

/-! ### In quotes -/

/-- The single quote. -/
def singleQuote : Char := '\x27'

/-- The double quote. -/
def doubleQuote : Char := '\x22'

/-- The backslash. -/
def backslash : Char := '\x5c'

/-- What follows the backslash of an escape: a letter that stands for a
character, or one that says how many hexadecimal digits follow. -/
inductive Escape where
  | char (c : Char)
  | digits (n : Nat)

/-- The escapes by the letter after the backslash. -/
def escapes : List (Char × Escape) :=
  [('0', .char '\x00'), ('a', .char '\x07'), ('b', .char '\x08'), ('t', .char '\t'),
   ('\t', .char '\t'), ('n', .char '\n'), ('v', .char '\x0b'), ('f', .char '\x0c'),
   ('r', .char '\r'), ('e', .char '\x1b'), (' ', .char ' '), (doubleQuote, .char doubleQuote),
   (singleQuote, .char singleQuote), (backslash, .char backslash), ('N', .char '\x85'),
   ('_', .char '\xa0'), ('L', .char '\u2028'), ('P', .char '\u2029'),
   ('x', .digits 2), ('u', .digits 4), ('U', .digits 8)]

/-- The value of a hexadecimal digit. -/
def hexDigit? (c : Char) : Option Nat :=
  if c.toNat < 0x80 then hexValue? c.toNat.toUInt8 else none

/-- Reads the number of a character in so many hexadecimal digits. -/
def readCode (digits : Nat) : Lex Char := do
  Lex.need digits
  let n ← go digits 0
  if n.isValidChar then return Char.ofNat n else failure
where
  /-- The number with the digits that are left. -/
  go : Nat → Nat → Lex Nat
    | 0, value => return value
    | n + 1, value => do
      match hexDigit? (← Lex.peek 0) with
      | none => failure
      | some d =>
        Lex.skip
        go n (16 * value + d)

/-- Reads an escape from its backslash on. -/
def readEscape : Lex Char := do
  match escapes.lookup (← Lex.peek 1) with
  | none => failure
  | some e =>
    Lex.skip
    Lex.skip
    match e with
    | .char c => return c
    | .digits n => readCode n

/-- Reads the characters of a scalar in quotes up to a gap or the closing quote.
A quote within single quotes is written twice; within double quotes a backslash
escapes, and one before a line break drops that. -/
def readQuotedWord (quote : Char) (f : Folding) : Lex Folding := do go (← get).bound f
where
  /-- At most so many characters. -/
  go : Nat → Folding → Lex Folding
    | 0, _ => failure
    | n + 1, f => do
      let c ← Lex.peek 0
      if isGap c then return f
      else if c == quote then
        if quote == singleQuote && (← Lex.peek 1) == quote then
          Lex.skip
          Lex.skip
          Lex.need 2
          go n (f.push c)
        else return f
      else if quote == doubleQuote && c == backslash then
        if isBreak (← Lex.peek 1) then
          Lex.need 3
          Lex.skip
          let _ ← Lex.readBreak
          return { f with broken := true }
        else
          let c ← readEscape
          Lex.need 2
          go n (f.push c)
      else
        Lex.skip
        Lex.need 2
        go n (f.push c)

/-- Reads a scalar in quotes. No marker may stand at the start of a line in
it. -/
def readQuoted (quote : Char) : Lex Token := do
  Lex.skip
  let f ← go (← get).bound {}
  Lex.skip
  return .scalar false (encode f.text.reverse)
where
  /-- At most so many words. -/
  go : Nat → Folding → Lex Folding
    | 0, _ => failure
    | n + 1, f => do
      Lex.need 4
      if (← Lex.atAnyMarker) || (← Lex.peek 0) == endOfFile then failure
      else
        let f ← readQuotedWord quote f
        Lex.need 1
        if (← Lex.peek 0) == quote then return f
        else go n (← f.readGap 0).settle

/-! ### Whole lines -/

/-- What becomes of the line breaks at the end of a scalar of whole lines: one
is kept, or none, or all of them. -/
inductive Chomping where
  | clip
  | strip
  | keep
  deriving DecidableEq

/-- Reads the sign for the line breaks at the end, if there is one. -/
def readChomping : Lex (Option Chomping) := do
  Lex.need 1
  match ← Lex.peek 0 with
  | '+' =>
    Lex.skip
    return some .keep
  | '-' =>
    Lex.skip
    return some .strip
  | _ => return none

/-- Reads the number of columns that the lines are indented by, if it is given.
It is not zero. -/
def readIndentation : Lex (Option Nat) := do
  Lex.need 1
  let c ← Lex.peek 0
  if c == '0' then failure
  else if c.isDigit then
    Lex.skip
    return some (c.toNat - 48)
  else return none

/-- Reads what may follow the mark of a scalar of whole lines, in either
order. -/
def readHeader : Lex (Chomping × Option Nat) := do
  match ← readChomping with
  | some chomping => return (chomping, ← readIndentation)
  | none =>
    match ← readIndentation with
    | some n => return ((← readChomping).getD .clip, some n)
    | none => return (.clip, none)

/-- Reads blanks, a comment and the end of the line; nothing else may stand
there. -/
def readLineEnd : Lex Unit := do
  Lex.skipWhile isBlankChar
  if (← Lex.peek 0) == '#' then Lex.skipLine
  if !isLineEnd (← Lex.peek 0) then failure
  if isBreak (← Lex.peek 0) then
    Lex.need 2
    let _ ← Lex.readBreak

/-- Reads empty lines and the indentation of the line after them, as far as it
goes, and gives the line breaks, the last one first, and the greatest column
that was met. Without a number of columns to go by, the indentation is all
spaces. A tab must not stand in it. -/
def readIndent (column : Option Nat) : Lex (List Char × Nat) := do
  go (← get).bound [] 0
where
  /-- Whether a column is in the indentation. -/
  inside (c : Nat) : Bool := column.all (c < ·)
  /-- At most so many lines. -/
  go : Nat → List Char → Nat → Lex (List Char × Nat)
    | 0, _, _ => failure
    | n + 1, breaks, deepest => do
      Lex.again do
        Lex.need 1
        if inside (← Lex.column) && (← Lex.peek 0) == ' ' then
          Lex.skip
          return true
        else return false
      let deepest := max deepest (← Lex.column)
      if inside (← Lex.column) && (← Lex.peek 0) == '\t' then failure
      if isBreak (← Lex.peek 0) then
        Lex.need 2
        let b ← Lex.readBreak
        go n (b :: breaks) deepest
      else return (breaks, deepest)

/-- Reads the lines of a scalar at a column. `first` is the line break before
the line, `more` are those before it, the last one first, and `blankBefore` says
whether the line before started with a blank. -/
def readLines (folded : Bool) (column : Nat) (f : Folding) (blankBefore : Bool) :
    Lex Folding := do
  go (← get).bound f blankBefore
where
  /-- At most so many lines. -/
  go : Nat → Folding → Bool → Lex Folding
    | 0, _, _ => failure
    | n + 1, f, blankBefore => do
      let c ← Lex.peek 0
      if (← Lex.column) != column || c == endOfFile then return f
      else
        let joined := folded && !blankBefore && !isBlankChar c && f.first == ['\n']
        let first := if joined then if f.more.isEmpty then [' '] else [] else f.first
        let line ← Lex.readWhile (!isLineEnd ·)
        Lex.need 2
        let last ← if isBreak (← Lex.peek 0) then do pure [← Lex.readBreak] else pure []
        let (more, _) ← readIndent (some column)
        go n { text := line.reverse ++ f.more ++ first ++ f.text, first := last, more }
          (isBlankChar c)

/-- Reads a scalar of whole lines. If the number of columns is not given, the
first line that is not empty tells how far the lines are indented, which is
further than the block around them. -/
def readBlock (folded : Bool) : Lex Token := do
  Lex.skip
  let (chomping, given) ← readHeader
  readLineEnd
  let indent := (← get).indent
  let column := given.map (indent.toNat + ·)
  let (more, deepest) ← readIndent column
  let column := column.getD (max deepest (max (indent + 1) 1).toNat)
  Lex.need 1
  let f ← readLines folded column { more } false
  let tail := match chomping with
    | .strip => []
    | .clip => f.first
    | .keep => f.more ++ f.first
  return .scalar false (encode (tail ++ f.text).reverse)

end NodeScript.Yaml
