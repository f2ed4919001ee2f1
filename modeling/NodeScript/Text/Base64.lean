/-
  Bytes written in base 64.

  Four letters, each of six bits, stand for three bytes. At the end, two or three
  letters stand for one or two bytes and are filled up with equals signs; the
  bits that are left over do not matter. Line ends may stand anywhere.
-/
import NodeScript.Text.Bytes

namespace NodeScript.Base64

/-- The six bits that a letter stands for. -/
def letter? (b : UInt8) : Option Nat :=
  if 65 ≤ b && b ≤ 90 then some (b.toNat - 65)
  else if 97 ≤ b && b ≤ 122 then some (b.toNat - 71)
  else if Bytes.isDigit b then some (b.toNat + 4)
  else if b == 43 then some 62
  else if b == 47 then some 63
  else none

/-- The first bytes of a number of 24 bits. -/
def firstBytes (count n : Nat) : Bytes :=
  [(n / 65536).toUInt8, (n / 256 % 256).toUInt8, (n % 256).toUInt8].take count

/-- The number that four letters stand for. -/
def quantum? (a b c d : UInt8) : Option Nat := do
  return 262144 * (← letter? a) + 4096 * (← letter? b) + 64 * (← letter? c) + (← letter? d)

/-- The bytes that letters without line ends stand for. The letter `A` has no
bits set. -/
def decodeLetters? : Bytes → Option Bytes
  | [] => some []
  | [a, b, 61, 61] => do return firstBytes 1 (← quantum? a b 65 65)
  | [a, b, c, 61] => do return firstBytes 2 (← quantum? a b c 65)
  | a :: b :: c :: d :: s => do return firstBytes 3 (← quantum? a b c d) ++ (← decodeLetters? s)
  | _ => none

/-- The bytes that a text stands for. -/
def decode? (s : Bytes) : Option Bytes :=
  decodeLetters? (s.filter fun b => b != newline && b != carriageReturn)

end NodeScript.Base64
