/-
  Statements of a settings file.

  A statement is the header of a table, the header of one more table of an array
  of tables, or an assignment. This module reads what is written; what the
  statements together mean is for `Table` to say.
-/
import NodeScript.Settings.Toml.Number

namespace NodeScript.Toml

/-- A name with the names of the tables that it is to be found in, outermost
first. -/
structure Key where
  parents : List Bytes
  name : Bytes
  deriving DecidableEq

/-- All names of a key, outermost first. -/
def Key.path (k : Key) : List Bytes := k.parents ++ [k.name]

/-- A value as it is written. -/
inductive Literal where
  | text (s : Bytes)
  | flag (b : Bool)
  /-- A number, a date or a time. -/
  | number
  | array (items : List Literal)
  | table (entries : List (Key × Literal))

/-- A statement. -/
inductive Statement where
  /-- The header of a table. -/
  | table (key : Key)
  /-- The header of one more table of an array. -/
  | tables (key : Key)
  | assign (key : Key) (value : Literal)

/-! ### Blanks, comments and line ends -/

/-- Whether a byte is a blank. -/
def isBlank (b : UInt8) : Bool := b == space || b == tab

/-- Without the blanks at the start. -/
def dropBlanks (s : Bytes) : Bytes := s.dropWhile isBlank

/-- Without a comment at the start, but with the line end behind it. -/
def dropComment (s : Bytes) : Bytes :=
  if s.head? == some 35 then s.dropWhile fun b => b != newline && b != carriageReturn else s

/-- Without the blanks, comments and line ends at the start. Inside a comment
everything is dropped up to the line end. -/
def dropSpace (comment : Bool) : Bytes → Bytes
  | [] => []
  | b :: s =>
    if b = newline ∨ b = carriageReturn then dropSpace false s
    else if comment then dropSpace true s
    else if isBlank b then dropSpace false s
    else if b = 35 then dropSpace true s
    else b :: s

/-- Without what may stand between the entries of a table in braces. -/
def dropGap (v : Version) (s : Bytes) : Bytes :=
  match v with
  | .v10 => dropBlanks s
  | .v11 => dropSpace false s

/-- What follows a statement, if only a comment stands between it and the end of
its line. -/
def afterStatement? (s : Bytes) : Option Bytes :=
  match dropComment (dropBlanks s) with
  | [] => some []
  | b :: s => if b = newline ∨ b = carriageReturn then some s else none

/-! ### Keys -/

/-- Whether a byte may stand in a name without quotes. -/
def isNameByte (b : UInt8) : Bool :=
  Bytes.isDigit b || (65 ≤ b && b ≤ 90) || (97 ≤ b && b ≤ 122) || b == 95 || b == hyphen

/-- A name, and what follows it. -/
def name? (v : Version) (s : Bytes) : Option (Bytes × Bytes) :=
  match s with
  | [] => none
  | b :: rest =>
    if b = doubleQuote ∨ b = singleQuote then readLine? v b rest
    else if isNameByte b then some (s.takeWhile isNameByte, s.dropWhile isNameByte)
    else none

/-- A key, and what follows it and the blanks behind it. -/
def key? (v : Version) (fuel : Nat) (s : Bytes) : Option (Key × Bytes) :=
  match fuel with
  | 0 => none
  | fuel + 1 => do
    let (name, rest) ← name? v (dropBlanks s)
    match dropBlanks rest with
    | 46 :: rest =>
      let (key, rest) ← key? v fuel rest
      return ({ key with parents := name :: key.parents }, rest)
    | rest => return (⟨[], name⟩, rest)

/-! ### Values -/

/-- The values that are words. -/
def words : List (Bytes × Literal) :=
  [(utf8 "true", .flag true), (utf8 "false", .flag false), (utf8 "inf", .number),
    (utf8 "+inf", .number), (utf8 "-inf", .number), (utf8 "nan", .number),
    (utf8 "+nan", .number), (utf8 "-nan", .number)]

/-- A word or a number, and what follows it. -/
def atom? (v : Version) (s : Bytes) : Option (Literal × Bytes) :=
  (words.findSome? fun (word, l) => (Bytes.stripStart? word s).map (l, ·))
    <|> (afterNumber? v s).map (.number, ·)

mutual

/-- A value, and what follows it. -/
def value? (v : Version) (fuel : Nat) (s : Bytes) : Option (Literal × Bytes) :=
  match fuel with
  | 0 => none
  | fuel + 1 =>
    match s with
    | [] => none
    | b :: rest =>
      if b = doubleQuote ∨ b = singleQuote then do
        let (t, rest) ← readText? v b rest
        return (.text t, rest)
      else if b = openingBracket then do
        let (items, rest) ← items? v fuel rest
        return (.array items, rest)
      else if b = openingBrace then do
        let (entries, rest) ← entries? v fuel true rest
        return (.table entries, rest)
      else atom? v s

/-- The remaining items of an array, and what follows it. A comma may stand
behind the last item. -/
def items? (v : Version) (fuel : Nat) (s : Bytes) : Option (List Literal × Bytes) :=
  match fuel with
  | 0 => none
  | fuel + 1 =>
    match dropSpace false s with
    | 93 :: rest => some ([], rest)
    | s => do
      let (item, rest) ← value? v fuel s
      match dropSpace false rest with
      | 93 :: rest => return ([item], rest)
      | 44 :: rest =>
        let (items, rest) ← items? v fuel rest
        return (item :: items, rest)
      | _ => none

/-- The remaining entries of a table in braces, and what follows it. In the
earlier version it is on one line, and an entry has to follow every comma. -/
def entries? (v : Version) (fuel : Nat) (first : Bool) (s : Bytes) :
    Option (List (Key × Literal) × Bytes) :=
  match fuel with
  | 0 => none
  | fuel + 1 =>
    match dropGap v s with
    | 125 :: rest => if first || v = .v11 then some ([], rest) else none
    | s => do
      let (key, rest) ← key? v fuel s
      let rest ← Bytes.stripStart? [equalsSign] rest
      let (value, rest) ← value? v fuel (dropBlanks rest)
      match dropGap v rest with
      | 125 :: rest => return ([(key, value)], rest)
      | 44 :: rest =>
        let (entries, rest) ← entries? v fuel false rest
        return ((key, value) :: entries, rest)
      | _ => none

end

/-! ### Statements -/

/-- A statement, and what follows it. -/
def statement? (v : Version) (fuel : Nat) (s : Bytes) : Option (Statement × Bytes) :=
  match s with
  | 91 :: 91 :: rest => do
    let (key, rest) ← key? v fuel rest
    return (.tables key, ← Bytes.stripStart? [closingBracket, closingBracket] rest)
  | 91 :: rest => do
    let (key, rest) ← key? v fuel rest
    return (.table key, ← Bytes.stripStart? [closingBracket] rest)
  | _ => do
    let (key, rest) ← key? v fuel s
    let rest ← Bytes.stripStart? [equalsSign] rest
    let (value, rest) ← value? v fuel (dropBlanks rest)
    return (.assign key value, rest)

/-- The statements of a file, each on lines of its own. -/
def statements? (v : Version) (fuel : Nat) (s : Bytes) : Option (List Statement) :=
  match fuel with
  | 0 => none
  | fuel + 1 =>
    match dropSpace false s with
    | [] => some []
    | s => do
      let (statement, rest) ← statement? v fuel s
      return statement :: (← statements? v fuel (← afterStatement? rest))

/-! ### Files -/

/-- A file without the mark of a byte order at its start. -/
def dropByteOrder (s : Bytes) : Bytes :=
  (Bytes.stripStart? [0xFF, 0xFE] s <|> Bytes.stripStart? [0xFE, 0xFF] s
    <|> Bytes.stripStart? [0xEF, 0xBB, 0xBF] s).getD s

/-- Whether there are no control characters but tabs and line ends, and a
carriage return stands in front of a newline only. -/
def isClean : Bytes → Bool
  | [] => true
  | b :: s =>
    (32 ≤ b || b == tab || b == newline || (b == carriageReturn && s.head? == some newline))
      && b != 127 && isClean s

/-- The statements of a file, if it has no mistakes in its form. -/
def Statement.ofFile? (v : Version) (content : Bytes) : Option (List Statement) :=
  let s := dropByteOrder content
  if isWellFormed s && isClean s then statements? v s.length.succ s else none

end NodeScript.Toml
