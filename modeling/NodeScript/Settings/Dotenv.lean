/-
  Files of environment variables.

  A file holds statements `NAME=value` or `NAME: value`, each optionally after
  the word `export`, and comments from `#` to the end of the line. A value is
  plain up to the end of the line, or in single quotes, where it is literal, or
  in double quotes, where escapes are undone. In plain and double-quoted values
  a reference `$NAME` or with braces stands for the value of an earlier
  statement of the same file, or for nothing. The last statement for a name
  wins.
-/
import NodeScript.Settings.Basic
import NodeScript.Text.Blank
import NodeScript.Text.Quoted

namespace NodeScript.Dotenv

/-! ### Characters -/

/-- White space within a line. -/
def isLineBlank (c : Char) : Bool :=
  let n := c.toNat
  n == 9 || (11 ≤ n && n ≤ 13) || n == 32 || n == 0x85 || n == 0xA0

/-- White space within a line, as a rune. -/
def isLineBlankRune : Rune → Bool
  | .char c => isLineBlank c
  | .stray _ => false

/-- Without the white space at the start of the line. -/
def dropLineBlanks (s : Bytes) : Bytes := dropRunes isLineBlankRune s

/-- Without the white space at both ends, newlines not being white space. -/
def trimLine (s : Bytes) : Bytes :=
  Rune.concat (((runes s).dropWhile isLineBlankRune).reverse.dropWhile isLineBlankRune).reverse

/-- The bytes that a name may hold: letters, digits, `_` and `.`, and, since a
byte beyond ASCII is taken for the character of that number, the letters and
numbers among those. White space is passed over. -/
def isNameByte (b : UInt8) : Bool :=
  let n := b.toNat
  Bytes.isDigit b || (65 ≤ n && n ≤ 90) || (97 ≤ n && n ≤ 122) || n == 95 || n == 46
    || n == 0xAA || n == 0xB2 || n == 0xB3 || n == 0xB5 || n == 0xB9 || n == 0xBA
    || (0xBC ≤ n && n ≤ 0xBE) || (0xC0 ≤ n && n != 0xD7 && n != 0xF7)
    || isLineBlank (Char.ofNat n)

/-! ### Names -/

/-- The start of the next statement: comments and white space are passed
over. -/
def nextStatement (s : Bytes) : Bytes :=
  let s' := trimStart s
  match s' with
  | 35 :: rest =>
    let after := rest.dropWhile (· != newline)
    if after.length < s.length then nextStatement after else []
  | _ => s'
termination_by s.length

/-- Without the word `export` at the start, if white space follows it. -/
def dropExport (s : Bytes) : Bytes :=
  match Bytes.stripStart? (utf8 "export") s with
  | some rest => if (dropLineBlanks rest).length < rest.length then dropLineBlanks rest else s
  | none => s

/-- The name of a statement and what follows its `=` or `:`. A text without
either is taken as a value without a name; any other byte that a name may not
hold is a mistake, and so is an `export` with nothing after it. -/
def readName (s : Bytes) : Option (Bytes × Bytes) :=
  let s := dropExport (dropLineBlanks s)
  let name := s.takeWhile isNameByte
  match s.dropWhile isNameByte with
  | [] => if s.isEmpty then none else some ([], dropLineBlanks s)
  | b :: rest =>
    if b == equalsSign || b == colon then some (trimEnd name, dropLineBlanks rest) else none

/-! ### Values -/

/-- The bytes of the names that a value may refer to. -/
def isReferenceByte (b : UInt8) : Bool :=
  Bytes.isDigit b || (65 ≤ b && b ≤ 90) || b == 95

/-- Skips a byte if it is the given one. -/
def skipByte (b : UInt8) : Bytes → Bytes
  | [] => []
  | c :: s => if c = b then s else c :: s

/-- The name in a reference, after its dollar sign, and what follows it. The
brackets are optional, and need not match. -/
def readReference (s : Bytes) : Bytes × Bytes :=
  let inner := skipByte openingBrace (skipByte openingParenthesis s)
  (inner.takeWhile isReferenceByte, skipByte closingBrace (inner.dropWhile isReferenceByte))

/-- Skipping a byte makes no text longer. -/
theorem length_skipByte_le (b : UInt8) (s : Bytes) : (skipByte b s).length ≤ s.length := by
  cases s with
  | nil => simp [skipByte]
  | cons c s => rw [skipByte]; split <;> simp

/-- What follows a reference is no longer than what it was read from. -/
theorem length_readReference_le (s : Bytes) : (readReference s).2.length ≤ s.length := by
  have h₁ := length_skipByte_le openingParenthesis s
  have h₂ := length_skipByte_le openingBrace (skipByte openingParenthesis s)
  have h₃ := (List.dropWhile_suffix isReferenceByte
    (l := skipByte openingBrace (skipByte openingParenthesis s))).length_le
  have h₄ := length_skipByte_le closingBrace
    ((skipByte openingBrace (skipByte openingParenthesis s)).dropWhile isReferenceByte)
  rw [readReference]
  simp only
  omega

/-- Puts the values of earlier statements in the stead of references. A dollar
sign after a backslash is no reference; the backslash is dropped. -/
def expand (vars : Environment) (s : Bytes) : Bytes :=
  match s with
  | [] => []
  | 92 :: 36 :: rest =>
    let after := (readReference rest).2
    36 :: rest.take (rest.length - after.length) ++ expand vars after
  | 36 :: rest =>
    let name := (readReference rest).1
    let after := (readReference rest).2
    let value :=
      if name.isEmpty then 36 :: rest.take (rest.length - after.length)
      else (vars.get? name).getD []
    value ++ expand vars after
  | b :: rest => b :: expand vars rest
termination_by s.length
decreasing_by
  · have := length_readReference_le rest
    simp only [List.length_cons]
    omega
  · have := length_readReference_le rest
    simp only [List.length_cons]
    omega
  · simp only [List.length_cons]
    omega

/-- Undoes the escapes of a double-quoted value: `\n` and `\r` are line ends. -/
def lineEnds : Bytes → Bytes
  | 92 :: 110 :: s => newline :: lineEnds s
  | 92 :: 114 :: s => carriageReturn :: lineEnds s
  | 92 :: b :: s => backslash :: b :: lineEnds s
  | b :: s => b :: lineEnds s
  | [] => []

/-- Drops every backslash that stands before anything but a dollar sign. -/
def dropBackslashes : Bytes → Bytes
  | 92 :: b :: s => if b = 36 then backslash :: b :: dropBackslashes s else b :: dropBackslashes s
  | b :: s => b :: dropBackslashes s
  | [] => []

/-- The runes before the last `#` that follows white space, if there is one. The
rune in front of them is given too. -/
def beforeComment? : (front : Option Rune) → List Rune → Option (List Rune)
  | _, [] => none
  | front, r :: rs =>
    match beforeComment? (some r) rs with
    | some kept => some (r :: kept)
    | none => if r.is '#' && front.any isLineBlankRune then some [] else none

/-- A plain value up to the end of the line: the last `#` after white space
starts a comment. Stray bytes become replacement characters. -/
def plainValue (line : Bytes) : Bytes :=
  let rs := runes (replaceStray line)
  trimLine (Rune.concat ((beforeComment? none rs).getD rs))

/-- The text up to the closing quote, and what follows it. A quote after a
backslash does not close. -/
def upToQuote (quote : UInt8) (before : UInt8) : Bytes → Option (Bytes × Bytes)
  | [] => none
  | b :: s =>
    if b = quote ∧ before ≠ backslash then some ([], s)
    else (upToQuote quote b s).map fun (value, rest) => (b :: value, rest)

/-- Without the quotes at both ends. -/
def stripQuotes (quote : UInt8) (s : Bytes) : Bytes :=
  ((s.dropWhile (· == quote)).reverse.dropWhile (· == quote)).reverse

/-- The value of a statement and what follows it. -/
def readValue (vars : Environment) (s : Bytes) : Option (Bytes × Bytes) :=
  match s with
  | 39 :: rest => do
    let (value, rest) ← upToQuote singleQuote singleQuote rest
    return (stripQuotes singleQuote value, rest)
  | 34 :: rest => do
    let (value, rest) ← upToQuote doubleQuote doubleQuote rest
    return (expand vars (dropBackslashes (lineEnds (stripQuotes doubleQuote value))), rest)
  | s =>
    let isLineEnd : UInt8 → Bool := fun b => b == newline || b == carriageReturn
    some (expand vars (plainValue (s.takeWhile (!isLineEnd ·))), s.dropWhile (!isLineEnd ·))

/-! ### Statements -/

/-- A newline in the stead of every carriage return that a newline follows. -/
def unixLines : Bytes → Bytes
  | 13 :: 10 :: s => newline :: unixLines s
  | b :: s => b :: unixLines s
  | [] => []

/-- Reads the statements one after another; the latest comes first. -/
def readStatements (vars : Environment) (s : Bytes) : Option Environment :=
  match nextStatement s with
  | [] => some vars
  | start => do
    let (name, rest) ← readName start
    let (value, rest) ← readValue vars rest
    if rest.length < s.length then readStatements ((name, value) :: vars) rest
    else some ((name, value) :: vars)
termination_by s.length

/-- The variables of a file, if it has no mistakes. -/
def decode (content : Bytes) : Option Environment := readStatements [] (unixLines content)

end NodeScript.Dotenv
