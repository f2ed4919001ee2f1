/-
  Byte strings, the one text type of the library.

  Scripts, names and file contents need not be valid UTF-8, and every length,
  cut and comparison the interpreter makes is in bytes. So a text is a list of
  bytes, and the list operations are its operations. This module adds only what
  lists do not have: literals, decimal and hexadecimal numerals, substring
  search, and cutting at a separator byte.
-/

namespace NodeScript

/-- A text: any list of bytes, well-formed UTF-8 or not. -/
abbrev Bytes := List UInt8

/-- The bytes of a literal, in UTF-8. -/
def utf8 (s : String) : Bytes := s.toList.flatMap String.utf8EncodeChar

/-- The byte `\n`, the only line terminator of the language. -/
def newline : UInt8 := 10

/-- The byte of a carriage return. -/
def carriageReturn : UInt8 := 13

/-- The byte of a tab. -/
def tab : UInt8 := 9

/-- The byte of a space. -/
def space : UInt8 := 32

/-- The byte `"`. -/
def doubleQuote : UInt8 := 34

/-- The byte `'`. -/
def singleQuote : UInt8 := 39

/-- The byte `\`. -/
def backslash : UInt8 := 92

/-- The byte `:`. -/
def colon : UInt8 := 58

/-- The byte `,`. -/
def comma : UInt8 := 44

/-- The byte `-`. -/
def hyphen : UInt8 := 45

/-- The byte `.`. -/
def period : UInt8 := 46

/-- The byte `=`. -/
def equalsSign : UInt8 := 61

/-- The byte `(`. -/
def openingParenthesis : UInt8 := 40

/-- The byte `)`. -/
def closingParenthesis : UInt8 := 41

/-- The byte `[`. -/
def openingBracket : UInt8 := 91

/-- The byte `]`. -/
def closingBracket : UInt8 := 93

/-- The byte `{`. -/
def openingBrace : UInt8 := 123

/-- The byte `}`. -/
def closingBrace : UInt8 := 125

namespace Bytes

/-! ### Numerals -/

/-- Whether a byte is an ASCII decimal digit. -/
def isDigit (b : UInt8) : Bool := 48 ≤ b && b ≤ 57

/-- The canonical decimal numeral of a natural number: no leading zeros. -/
def ofNat (n : Nat) : Bytes := (Nat.toDigits 10 n).map fun c => c.toNat.toUInt8

/-- The canonical decimal numeral of an integer, a minus sign in front of a
negative one. -/
def ofInt : Int → Bytes
  | .ofNat n => ofNat n
  | .negSucc n => hyphen :: ofNat (n + 1)

/-- The number that a string of decimal digits spells, any number of leading
zeros allowed. -/
def digitsValue (ds : Bytes) : Nat :=
  ds.foldl (fun n d => 10 * n + (d.toNat - 48)) 0

/-- The lower-case hexadecimal digit of a number below sixteen. -/
def hexDigit (n : Nat) : UInt8 :=
  if n < 10 then (48 + n).toUInt8 else (87 + n).toUInt8

/-- The last `width` lower-case hexadecimal digits of a number. -/
def hex : (width : Nat) → Nat → Bytes
  | 0, _ => []
  | w + 1, n => hex w (n / 16) ++ [hexDigit (n % 16)]

/-- The greatest signed number of 64 bits. -/
def maxInt64 : Nat := 0x7fffffffffffffff

/-- The greatest unsigned number of 64 bits. -/
def maxUInt64 : Nat := 0xffffffffffffffff

/-- Reads a decimal integer of 64 bits: an optional sign, then at least one
digit and nothing else. -/
def toInt64? (s : Bytes) : Option Int :=
  let read (ds : Bytes) : Option Nat :=
    if ds.isEmpty || !ds.all isDigit then none else some (digitsValue ds)
  match s with
  | 45 :: ds => do
    let n ← read ds
    if n ≤ maxInt64 + 1 then some (-(n : Int)) else none
  | 43 :: ds => do
    let n ← read ds
    if n ≤ maxInt64 then some n else none
  | ds => do
    let n ← read ds
    if n ≤ maxInt64 then some n else none

/-! ### Searching and cutting -/

/-- What is left of `s` after the given beginning, if it begins so. -/
def stripStart? : (start s : Bytes) → Option Bytes
  | [], s => some s
  | _ :: _, [] => none
  | p :: ps, b :: bs => if p = b then stripStart? ps bs else none

/-- Whether `word` occurs in `s` as consecutive bytes. -/
def containsWord (word : Bytes) : Bytes → Bool
  | [] => word.isEmpty
  | b :: s => word.isPrefixOf (b :: s) || containsWord word s

/-- The pieces between the occurrences of a separator byte: one more than there
are separators, so a text without any is its own only piece. -/
def splitAt (sep : UInt8) : Bytes → List Bytes
  | [] => [[]]
  | b :: s =>
    if b = sep then [] :: splitAt sep s
    else match splitAt sep s with
      | [] => [[b]]
      | piece :: rest => (b :: piece) :: rest

/-- The texts one after another with `sep` between any two of them. -/
def join (sep : Bytes) : List Bytes → Bytes
  | [] => []
  | [s] => s
  | s :: rest => s ++ sep ++ join sep rest

/-- Each text followed by a newline, the form in which lines are printed. -/
def lines (ls : List Bytes) : Bytes := ls.flatMap fun l => l ++ [newline]

/-- The part before the first occurrence of a byte and the part after it, if it
occurs. -/
def cutAt? (sep : UInt8) : Bytes → Option (Bytes × Bytes)
  | [] => none
  | b :: s =>
    if b = sep then some ([], s)
    else (cutAt? sep s).map fun (before, after) => (b :: before, after)

/-- The part up to and including the last occurrence of a byte and the part
after it, if it occurs. -/
def cutLast? (sep : UInt8) : Bytes → Option (Bytes × Bytes)
  | [] => none
  | b :: s =>
    match cutLast? sep s with
    | some (before, after) => some (b :: before, after)
    | none => if b = sep then some ([b], s) else none

/-- The order of texts by their bytes, a beginning before what continues it. -/
def le : Bytes → Bytes → Bool
  | [], _ => true
  | _ :: _, [] => false
  | a :: as, b :: bs => a < b || (a == b && le as bs)

end Bytes

end NodeScript
