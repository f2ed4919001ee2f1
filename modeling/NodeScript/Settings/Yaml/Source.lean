/-
  The characters of a YAML file.

  A file is in UTF-8, or, if it starts with the mark of one, in a UTF-16
  encoding. It is decoded in portions and only as far as characters are asked
  for, so that a mistake far behind the last character that is looked at goes
  unnoticed. What has been decoded and not been passed over yet is the window.
-/
import NodeScript.Text.Rune

namespace NodeScript.Yaml

/-! ### Classes of characters -/

/-- The character that stands behind the end of a file. It cannot stand in
one. -/
def endOfFile : Char := Char.ofNat 0

/-- The byte order mark. -/
def byteOrderMark : Char := Char.ofNat 0xFEFF

/-- Whether a character is a blank: a space or a tab. -/
def isBlankChar (c : Char) : Bool := c == ' ' || c == '\t'

/-- Whether a character is a line break, or begins one. -/
def isBreak (c : Char) : Bool :=
  c == '\n' || c == '\r' || c.toNat == 0x85 || c.toNat == 0x2028 || c.toNat == 0x2029

/-- Whether a line ends before a character. -/
def isLineEnd (c : Char) : Bool := isBreak c || c == endOfFile

/-- Whether a word ends before a character. -/
def isGap (c : Char) : Bool := isBlankChar c || isLineEnd c

/-- Whether a character may stand in the name of an anchor, a tag or a
directive. -/
def isNameChar (c : Char) : Bool := c.isAlphanum || c == '_' || c == '-'

/-- Whether a character may stand in a file. -/
def isAllowed (c : Char) : Bool :=
  let n := c.toNat
  n == 9 || n == 10 || n == 13 || (0x20 ≤ n && n ≤ 0x7E) || n == 0x85
    || (0xA0 ≤ n && n != 0xFFFE && n != 0xFFFF)

/-! ### Encodings -/

/-- The encodings of files. -/
inductive Encoding where
  | utf8
  | utf16 (highFirst : Bool)
  deriving DecidableEq

/-- What a text of bytes starts with. -/
inductive Start where
  | char (c : Char) (rest : Bytes)
  /-- A part of a character that may go on. -/
  | incomplete
  | invalid

/-- The number of bytes that a character has according to its first byte, or
zero if no character starts with it. -/
def width (b : UInt8) : Nat :=
  if b < 0x80 then 1
  else if b < 0xC0 then 0
  else if b < 0xE0 then 2
  else if b < 0xF0 then 3
  else if b < 0xF8 then 4
  else 0

/-- What a text in UTF-8 starts with. -/
def startUtf8 (s : Bytes) : Start :=
  match s with
  | [] => .incomplete
  | b :: _ =>
    if width b = 0 then .invalid
    else if (s.take (width b)).length < width b then .incomplete
    else match leadingChar? s with
      | some c => .char c (s.drop (width b))
      | none => .invalid

/-- The number that two bytes of UTF-16 stand for. -/
def unit16 (highFirst : Bool) (a b : UInt8) : Nat :=
  if highFirst then 256 * a.toNat + b.toNat else 256 * b.toNat + a.toNat

/-- What a text in UTF-16 starts with. A number from 0xD800 on is the first, one
from 0xDC00 on the second half of a pair. -/
def startUtf16 (highFirst : Bool) : Bytes → Start
  | a :: b :: s =>
    let u := unit16 highFirst a b
    if u / 0x400 = 0x37 then .invalid
    else if u / 0x400 = 0x36 then
      match s with
      | c :: d :: s =>
        let v := unit16 highFirst c d
        if v / 0x400 = 0x37 then
          .char (Char.ofNat (0x10000 + u % 0x400 * 0x400 + v % 0x400)) s
        else .invalid
      | _ => .incomplete
    else .char (Char.ofNat u) s
  | _ => .incomplete

/-- What a text starts with. -/
def Encoding.start : Encoding → Bytes → Start
  | .utf8 => startUtf8
  | .utf16 highFirst => startUtf16 highFirst

/-- The characters of a text and the incomplete character at its end; nothing if
one of them is invalid or not allowed. -/
def Encoding.decode (e : Encoding) (s : Bytes) : Option (List Char × Bytes) :=
  go s.length s
where
  /-- At most so many characters. -/
  go : Nat → Bytes → Option (List Char × Bytes)
    | 0, s => some ([], s)
    | n + 1, s =>
      match e.start s with
      | .incomplete => some ([], s)
      | .invalid => none
      | .char c rest =>
        if isAllowed c then (go n rest).map fun (cs, left) => (c :: cs, left) else none

/-! ### Sources -/

/-- A file while it is read. -/
structure Source where
  encoding : Encoding
  /-- What has not been decoded. -/
  bytes : Bytes
  /-- How many of those bytes have been fetched. -/
  fetched : Nat
  /-- Whether fetching has met the end of the file. -/
  ended : Bool
  /-- The characters in the window. -/
  window : List Char := []
  /-- How often the window has been padded at the end of the file. -/
  padding : Nat := 0
  /-- Whether the window started with a byte order mark when it was last
  filled. -/
  marked : Bool := false

namespace Source

/-- The number of bytes that are fetched at a time. -/
def portion : Nat := 512

/-- Fetches more bytes, or meets the end of the file. -/
def fetch (s : Source) : Source :=
  if s.ended then s
  else if s.bytes.length ≤ s.fetched then { s with ended := true }
  else { s with fetched := min portion s.bytes.length }

/-- A file before it is read, the mark of its encoding passed over. An empty
file is read as one with an empty line. -/
def ofBytes (content : Bytes) : Source :=
  let content := if content.isEmpty then [newline] else content
  let fetched := min portion content.length
  let source (encoding : Encoding) (mark : Nat) : Source :=
    { encoding, bytes := content.drop mark, fetched := fetched - mark, ended := content.length < 3 }
  match content with
  | 0xFF :: 0xFE :: _ => source (.utf16 false) 2
  | 0xFE :: 0xFF :: _ => source (.utf16 true) 2
  | 0xEF :: 0xBB :: 0xBF :: _ => source .utf8 3
  | _ => source .utf8 0

/-- The number of characters that can be looked at; the padding counts. -/
def unread (s : Source) : Nat := s.window.length + s.padding

/-- Whether at least so many characters can be looked at. -/
def holds (s : Source) (n : Nat) : Bool := (s.window.take n).length + s.padding ≥ n

/-- Fills the window until it holds so many characters or the file has ended,
which pads it. At most so many portions are fetched. -/
def fill (n : Nat) : (portions : Nat) → (first : Bool) → Source → Option Source
  | 0, _, s => some s
  | portions + 1, first, s =>
    if s.holds n then some s
    else do
      let s := if first && s.fetched != 0 then s else s.fetch
      let (chars, left) ← s.encoding.decode (s.bytes.take s.fetched)
      if s.ended && !left.isEmpty then none
      else
        let s := { s with
          bytes := s.bytes.drop (s.fetched - left.length)
          fetched := left.length
          window := s.window ++ chars }
        if s.ended then some { s with padding := s.padding + 1 }
        else fill n portions false s

/-- The source with a window that holds so many characters, as far as the file
goes. -/
def need (s : Source) (n : Nat) : Option Source :=
  if s.holds n then some s
  else do
    let s ← fill n (s.bytes.length + 2) true s
    return { s with marked := s.window.head? == some byteOrderMark }

/-- The character at a distance in the window. -/
def peek (s : Source) (n : Nat) : Char := (s.window[n]?).getD endOfFile

end Source

end NodeScript.Yaml
