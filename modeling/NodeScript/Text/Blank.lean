/-
  White space.

  Two sets are in use. Commands are classified, and output lines compressed,
  after trimming every Unicode white space character from both ends; the
  argument patterns skip only the five ASCII characters that separate words.
-/
import NodeScript.Text.Rune

namespace NodeScript

/-- The Unicode white space characters. -/
def isBlank (c : Char) : Bool :=
  let n := c.toNat
  (0x09 ≤ n && n ≤ 0x0D) || n == 0x20 || n == 0x85 || n == 0xA0 || n == 0x1680
    || (0x2000 ≤ n && n ≤ 0x200A) || n == 0x2028 || n == 0x2029 || n == 0x202F
    || n == 0x205F || n == 0x3000

/-- A stray byte is never white space, not even `0x85` or `0xA0`. -/
def Rune.isBlank : Rune → Bool
  | .char c => NodeScript.isBlank c
  | .stray _ => false

/-- Without the white space at the left end. -/
def trimStart (s : Bytes) : Bytes := dropRunes Rune.isBlank s

/-- Without the white space at the right end. -/
def trimEnd (s : Bytes) : Bytes :=
  Rune.concat ((runes s).reverse.dropWhile Rune.isBlank).reverse

/-- Without the white space at both ends; white space inside stays. -/
def trim (s : Bytes) : Bytes :=
  Rune.concat (((runes s).dropWhile Rune.isBlank).reverse.dropWhile Rune.isBlank).reverse

/-- The bytes that may separate the words of a command: tab, newline, form feed,
carriage return and space. -/
def isSeparator (b : UInt8) : Bool :=
  b == 9 || b == 10 || b == 12 || b == 13 || b == 32

end NodeScript
