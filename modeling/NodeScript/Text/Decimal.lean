/-
  Decimal numerals with a fraction or an exponent.

  Settings files may hold numbers that no setting needs. They are checked all the
  same: the numeral has to be well-formed, and a binary floating-point number of
  64 bits has to be near enough.
-/
import NodeScript.Text.Bytes

namespace NodeScript

/-- A decimal number without its sign: the digits of the numeral without its
point, and the power of ten that the last digit counts. -/
structure Decimal where
  digits : Bytes
  exponent : Int
  deriving DecidableEq

namespace Decimal

/-- Whether a byte is the mark of an exponent. -/
def isMark (b : UInt8) : Bool := b == 101 || b == 69

/-- A text without a sign at its start. -/
def unsigned : Bytes → Bytes
  | 43 :: s | 45 :: s => s
  | s => s

/-- The number that the digits of an exponent spell. From ten thousand on further
digits do not count, because no numeral of a sensible length needs them. -/
def exponentValue (digits : Bytes) : Nat :=
  digits.foldl (fun n b => if n < 10000 then 10 * n + (b.toNat - 48) else n) 0

/-- The exponent that a text spells: an optional sign and at least one digit. -/
def exponent? (s : Bytes) : Option Int :=
  let ds := unsigned s
  if ds.isEmpty || !ds.all Bytes.isDigit then none
  else if s.head? == some hyphen then some (-(exponentValue ds : Int))
  else some (exponentValue ds)

/-- The number that a text spells: an optional sign, digits with at most one
point among them, and optionally a mark and an exponent. -/
def ofBytes? (s : Bytes) : Option Decimal := do
  let s := unsigned s
  let mantissa := s.takeWhile (!isMark ·)
  let exponent ← match s.dropWhile (!isMark ·) with
    | [] => some 0
    | _ :: e => exponent? e
  let (whole, fraction) := (Bytes.cutAt? period mantissa).getD (mantissa, [])
  let digits := whole ++ fraction
  if digits.isEmpty || !digits.all Bytes.isDigit then none
  else some ⟨digits, exponent - fraction.length⟩

/-- The least number that is nearer to 2 ^ 1024 than to the greatest
floating-point number, or as near. -/
def overflow : Nat := Nat.pow 2 1024 - Nat.pow 2 970

/-- Whether the nearest floating-point number of 64 bits is finite. Only numbers
of 309 digits before the point have to be computed. -/
def isFinite (d : Decimal) : Bool :=
  let digits := d.digits.dropWhile (· == 48)
  let places := digits.length + d.exponent
  if digits.isEmpty || places < 309 then true
  else if 309 < places then false
  else
    let n := Bytes.digitsValue digits
    if 0 ≤ d.exponent then n * Nat.pow 10 d.exponent.toNat < overflow
    else n < overflow * Nat.pow 10 (-d.exponent).toNat

end Decimal

end NodeScript
