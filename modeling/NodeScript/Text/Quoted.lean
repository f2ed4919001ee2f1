/-
  Escaped forms of byte strings.

  Three forms show an arbitrary byte string on one line: the double-quoted form
  of spans and diagnostics values, the `$'…'` form of commands, and the body of
  a JSON string in diagnostics lines. Each escapes rune by rune, so each is the
  concatenation of the escapes of the runes between its delimiters. The first
  two tell every two byte strings apart; the JSON form merges all stray bytes
  into U+FFFD.
-/
import NodeScript.Text.Rune
import NodeScript.Text.Printable

namespace NodeScript

/-! ### Escapes shared by the forms -/

/-- The letter that follows the backslash in the short escape of a control
character, if it has one. -/
def controlLetter? (c : Char) : Option Char :=
  match c.toNat with
  | 7 => some 'a'
  | 8 => some 'b'
  | 9 => some 't'
  | 10 => some 'n'
  | 11 => some 'v'
  | 12 => some 'f'
  | 13 => some 'r'
  | _ => none

/-- `\xNN`, the escape of one byte. -/
def byteEscape (n : Nat) : Bytes := utf8 "\\x" ++ Bytes.hex 2 n

/-- `\uNNNN`, or `\UNNNNNNNN` for a character that needs more than four
digits. -/
def charEscape (c : Char) : Bytes :=
  if c.toNat < 0x10000 then utf8 "\\u" ++ Bytes.hex 4 c.toNat
  else utf8 "\\U" ++ Bytes.hex 8 c.toNat

/-! ### The double-quoted form -/

/-- One rune inside double quotes: printable characters stay, the quote and the
backslash are escaped by a backslash, and all else by letter or number. -/
def Rune.inDoubleQuotes : Rune → Bytes
  | .stray b => byteEscape b.toNat
  | .char c =>
    if c.toNat = 34 ∨ c.toNat = 92 then backslash :: String.utf8EncodeChar c
    else if isPrintable c then String.utf8EncodeChar c
    else match controlLetter? c with
      | some l => backslash :: String.utf8EncodeChar l
      | none =>
        if c.toNat < 0x20 ∨ c.toNat = 0x7F then byteEscape c.toNat else charEscape c

/-- The double-quoted form of a byte string. -/
def doubleQuoted (s : Bytes) : Bytes :=
  [doubleQuote] ++ (runes s).flatMap Rune.inDoubleQuotes ++ [doubleQuote]

/-! ### The `$'…'` form -/

/-- One rune inside `$'…'`: only the printable ASCII characters stay, and of
those the single quote and the backslash are escaped by a backslash. -/
def Rune.inDollarQuotes : Rune → Bytes
  | .stray b => byteEscape b.toNat
  | .char c =>
    if c.toNat = 39 ∨ c.toNat = 92 then backslash :: String.utf8EncodeChar c
    else match controlLetter? c with
      | some l => backslash :: String.utf8EncodeChar l
      | none =>
        if c.toNat < 0x20 then byteEscape c.toNat
        else if c.toNat < 0x7F then String.utf8EncodeChar c
        else charEscape c

/-- The `$'…'` form of a byte string. -/
def dollarQuoted (s : Bytes) : Bytes :=
  utf8 "$'" ++ (runes s).flatMap Rune.inDollarQuotes ++ [singleQuote]

/-! ### The JSON form -/

/-- One rune inside a JSON string. -/
def Rune.inJsonString : Rune → Bytes
  | .stray _ => utf8 "\\ufffd"
  | .char c =>
    match c.toNat with
    | 34 => utf8 "\\\""
    | 92 => utf8 "\\\\"
    | 8 => utf8 "\\b"
    | 9 => utf8 "\\t"
    | 10 => utf8 "\\n"
    | 12 => utf8 "\\f"
    | 13 => utf8 "\\r"
    | n =>
      if n < 0x20 ∨ n = 0x7F then utf8 "\\u" ++ Bytes.hex 4 n
      else String.utf8EncodeChar c

/-- A byte string as a JSON string, quotes included. -/
def jsonString (s : Bytes) : Bytes :=
  [doubleQuote] ++ (runes s).flatMap Rune.inJsonString ++ [doubleQuote]

end NodeScript
