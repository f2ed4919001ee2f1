/-
  What scalars stand for.

  A scalar without quotes and without a tag stands for nothing, a truth value, a
  number, a time or its own text, whichever its spelling fits. A tag that names
  one of these kinds has to agree with the spelling; other tags do not matter,
  except that of bytes in base 64.
-/
import NodeScript.Text.Base64
import NodeScript.Text.Decimal
import NodeScript.Text.Moment
import NodeScript.Text.Rune

namespace NodeScript.Yaml

/-- The kinds of spellings. -/
inductive Spelling where
  | nothing
  | flag (b : Bool)
  | whole (n : Int)
  | float
  | moment
  | text
  deriving DecidableEq

/-! ### Numbers -/

/-- The number that digits of a base spell. There have to be some. -/
def digits? (base : Nat) (s : Bytes) : Option Nat :=
  if s.isEmpty then none
  else s.foldlM (fun n b => do
    let d ← hexValue? b
    if d < base then some (base * n + d) else none) 0

/-- The number without a sign that a text spells: the letter after a leading
zero gives the base, and without one the base is eight. -/
def natural? : Bytes → Option Nat
  | [48] => some 0
  | 48 :: b :: c :: s =>
    if b == 98 || b == 66 then digits? 2 (c :: s)
    else if b == 111 || b == 79 then digits? 8 (c :: s)
    else if b == 120 || b == 88 then digits? 16 (c :: s)
    else digits? 8 (b :: c :: s)
  | 48 :: s => digits? 8 s
  | s => digits? 10 s

/-- The whole number that a text with an optional sign spells, if its digits
spell one. It has 64 bits, and one of them is for the sign unless there is no
sign. -/
def wholeBy? (digits : Bytes → Option Nat) (s : Bytes) : Option Spelling := do
  let n ← digits (Decimal.unsigned s)
  if s.head? == some hyphen then
    if n ≤ Bytes.maxInt64 + 1 then some (.whole (-n)) else none
  else if n ≤ Bytes.maxInt64 || (s == Decimal.unsigned s && n ≤ Bytes.maxUInt64) then some (.whole n)
  else none

/-- The whole number that a text with a letter for the base spells, where the
sign may also stand after the letter. -/
def wholeAfter? (letter : UInt8) (base : Nat) : Bytes → Option Spelling
  | 48 :: b :: s => if b = letter then wholeBy? (digits? base) s else none
  | 45 :: 48 :: b :: s =>
    if b = letter && Decimal.unsigned s == s then wholeBy? (digits? base) (hyphen :: s) else none
  | _ => none

/-- Whether a text spells a number with a fraction or an exponent that is not
too large. -/
def isFloat (s : Bytes) : Bool := ((Decimal.ofBytes? s).map Decimal.isFinite).getD false

/-- Whether the underscores of a text stand between digits. -/
def underscoresFit : Bytes → Bool
  | a :: 95 :: b :: s => Bytes.isDigit a && Bytes.isDigit b && underscoresFit (b :: s)
  | b :: s => b != 95 && s != [95] && underscoresFit s
  | [] => true

/-! ### Times -/

/-- How dates and times are written. -/
def momentLayouts : List Layout :=
  let date : Layout := [.year, .letter hyphen, .month false, .letter hyphen, .day false]
  let time : Layout :=
    [.hour false, .letter colon, .minute false, .letter colon, .second false, .fraction]
  [date ++ .letter 84 :: time ++ [.zone], date ++ .letter 116 :: time ++ [.zone],
    date ++ .spaces :: time, date]

/-- Whether a text is a date or a time. -/
def isMoment (s : Bytes) : Bool := momentLayouts.any fun l => Layout.fits l s

/-! ### Spellings -/

/-- The words that stand for something else than their text. -/
def words : List (String × Spelling) :=
  [("true", .flag true), ("True", .flag true), ("TRUE", .flag true),
   ("false", .flag false), ("False", .flag false), ("FALSE", .flag false),
   ("", .nothing), ("~", .nothing), ("null", .nothing), ("Null", .nothing),
   ("NULL", .nothing), (".nan", .float), (".NaN", .float), (".NAN", .float),
   (".inf", .float), (".Inf", .float), (".INF", .float), ("+.inf", .float),
   ("+.Inf", .float), ("+.INF", .float), ("-.inf", .float), ("-.Inf", .float),
   ("-.INF", .float)]

/-- The kind of number or time that a text spells which starts with a digit or a
sign. Underscores do not count. -/
def numberSpelling (moments : Bool) (s : Bytes) : Spelling :=
  if moments && isMoment s then .moment
  else
    let plain := s.filter (· != 95)
    match wholeBy? natural? plain with
    | some k => k
    | none =>
      if isFloat plain then .float
      else ((wholeAfter? 98 2 plain) <|> (wholeAfter? 111 8 plain)).getD .text

/-- The kind of a text's spelling. Whether times are recognized is a parameter,
because a tag can rule them out. -/
def spelling (moments : Bool) (s : Bytes) : Spelling :=
  match words.find? fun (w, _) => utf8 w == s with
  | some (_, k) => k
  | none =>
    match s with
    | [] => .text
    | b :: _ =>
      if b == period then
        if underscoresFit s && isFloat (s.filter (· != 95)) then .float else .text
      else if Bytes.isDigit b || b == 43 || b == hyphen then numberSpelling moments s
      else .text

/-! ### Meanings -/

/-- What a scalar stands for. -/
inductive Meaning where
  | nothing
  | flag (b : Bool)
  | text (s : Bytes)
  | whole (n : Int)
  /-- A number with a fraction or a time, as it is written. -/
  | other (s : Bytes)
  deriving DecidableEq

/-- The meaning of a spelling. -/
def Spelling.meaning (s : Bytes) : Spelling → Meaning
  | .nothing => .nothing
  | .flag b => .flag b
  | .text => .text s
  | .whole n => .whole n
  | .float | .moment => .other s

/-- Whether a tag allows a spelling. A number with a fraction may be written
without one, if it is within the whole numbers with a sign. -/
def allows (tag : Bytes) : Spelling → Bool
  | .nothing => tag == utf8 "!!null"
  | .flag _ => tag == utf8 "!!bool"
  | .whole n => tag == utf8 "!!int" || (n ≤ Bytes.maxInt64 && tag == utf8 "!!float")
  | .float => tag == utf8 "!!float"
  | .moment => tag == utf8 "!!timestamp"
  | .text => false

/-- The tags that name a kind of spelling. -/
def kindTags : List Bytes :=
  [utf8 "!!bool", utf8 "!!int", utf8 "!!float", utf8 "!!null", utf8 "!!timestamp"]

/-- What a scalar with a tag stands for, if the tag fits it. -/
def taggedMeaning? (tag s : Bytes) : Option Meaning :=
  if kindTags.contains tag then
    let k := spelling (tag == utf8 "!!timestamp") s
    if !allows tag k then none
    else some (if tag == utf8 "!!float" then .other s else k.meaning s)
  else if tag == utf8 "!!binary" then (Base64.decode? s).map .text
  else some (.text s)

/-- What a scalar stands for, if its tag fits it. A scalar that is not plain
stands for its text unless a tag says otherwise. -/
def meaning? (plain : Bool) (tag : Option Bytes) (s : Bytes) : Option Meaning :=
  match tag with
  | some tag => taggedMeaning? tag s
  | none => some (if plain then (spelling true s).meaning s else .text s)

end NodeScript.Yaml
