/-
  Numbers, dates and times.

  No setting is a number, a date or a time, but a settings file may hold them,
  and they have to be well-formed. Whole numbers fit into 64 bits, and other
  numbers do not exceed the floating-point numbers of 64 bits.
-/
import NodeScript.Settings.Toml.Quoted
import NodeScript.Text.Decimal
import NodeScript.Text.Moment

namespace NodeScript.Toml

/-! ### Whole numbers -/

/-- Whether every underscore follows a digit and the last byte is one. -/
def isGrouped : (afterDigit : Bool) → Bytes → Bool
  | afterDigit, [] => afterDigit
  | afterDigit, b :: s => (b != 95 || afterDigit) && isGrouped (hexValue? b).isSome s

/-- Digits without the underscores between them. -/
def ungrouped (s : Bytes) : Bytes := s.filter (· != 95)

/-- Whether digits after an optional sign start with a zero for no reason. -/
def hasLeadingZero (s : Bytes) : Bool :=
  match Decimal.unsigned s with
  | 48 :: _ :: _ => true
  | _ => false

/-- Whether a numeral is a whole number in decimal digits. -/
def isWhole (s : Bytes) : Bool :=
  isGrouped false s && !hasLeadingZero s && (Bytes.toInt64? (ungrouped s)).isSome

/-- The base that the letter after a zero stands for. -/
def base? (letter : UInt8) : Option Nat := [(98, 2), (111, 8), (120, 16)].lookup letter

/-- Whether a byte is a digit of the given base. -/
def isDigitOf (base : Nat) (b : UInt8) : Bool := (hexValue? b).any (· < base)

/-- Whether digits of the given base are a whole number. -/
def isWholeIn (base : Nat) (s : Bytes) : Bool :=
  let value := (ungrouped s).foldl (fun n b => base * n + (hexValue? b).getD 0) 0
  isGrouped false s && value ≤ Bytes.maxInt64

/-! ### Other numbers -/

/-- Whether a byte divides the parts of a number that is not whole. -/
def isDivider (b : UInt8) : Bool := b == period || b == 101 || b == 69

/-- The parts of a number that is not whole, as far as they are there: before the
point, after it, and the exponent. -/
def parts (s : Bytes) : List Bytes :=
  (Bytes.splitAt period (s.map fun b => if isDivider b then period else b)).filter (!·.isEmpty)

/-- Whether a digit follows every point. -/
def pointsFollowed : Bytes → Bool
  | [] => true
  | b :: s => (b != period || s.head?.any Bytes.isDigit) && pointsFollowed s

/-- Whether a numeral is a number with a fraction or an exponent. -/
def isFractional (s : Bytes) : Bool :=
  (parts s).all (isGrouped false) && !(parts s).head?.any hasLeadingZero
    && pointsFollowed s && ((Decimal.ofBytes? (ungrouped s)).map Decimal.isFinite).getD false

/-! ### Dates and times -/

/-- A date. -/
def dateLayout : Layout := [.year, .letter hyphen, .month true, .letter hyphen, .day true]

/-- How a time of the day may be written. -/
def timeLayouts (v : Version) : List Layout :=
  let minutes : Layout := [.hour true, .letter colon, .minute true]
  let seconds : Layout := minutes ++ [.letter colon, .second true, .fraction]
  match v with
  | .v10 => [seconds]
  | .v11 => [seconds, minutes]

/-- The layouts of dates, of times, and of both, with or without an offset. -/
def layouts (v : Version) : List Layout :=
  dateLayout :: (timeLayouts v).flatMap fun time =>
    [dateLayout ++ .letter 84 :: time ++ [.zone], dateLayout ++ .letter 84 :: time, time]

/-- Whether a byte may stand in a date or a time. -/
def isMomentByte (b : UInt8) : Bool :=
  Bytes.isDigit b || (utf8 "-:Tt .Zz+").contains b

/-- The mark between a date and a time, and the mark of an offset of zero, in
the form that the layouts have. -/
def canonicalMark (b : UInt8) : UInt8 :=
  if b == 116 || b == space then 84 else if b == 122 then 90 else b

/-- Whether a numeral is a date, a time or both, with any blanks behind it. -/
def isMoment (v : Version) (s : Bytes) : Bool :=
  let trimmed := (s.reverse.dropWhile (· == space)).reverse
  (layouts v).any (·.fits (trimmed.map canonicalMark))

/-! ### Reading -/

/-- A numeral of the bytes of a class, and what follows it, if it has a
property. -/
def numeral? (isMember : UInt8 → Bool) (isValid : Bytes → Bool) (s : Bytes) : Option Bytes :=
  if isValid (s.takeWhile isMember) then some (s.dropWhile isMember) else none

/-- Whether a byte may stand in a whole number in decimal digits. -/
def isWholeByte (b : UInt8) : Bool := Bytes.isDigit b || b == 95

/-- Whether a byte may stand in a number with a fraction or an exponent. -/
def isFractionalByte (b : UInt8) : Bool := isWholeByte b || isDivider b || b == 43 || b == hyphen

/-- What follows a number in decimal digits, with or without a sign. -/
def afterDecimal? (s : Bytes) : Option Bytes :=
  let sign := s.length - (Decimal.unsigned s).length
  let digits := (s.drop sign).takeWhile isWholeByte
  let rest := s.drop (sign + digits.length)
  if !(digits.head?.any Bytes.isDigit) then none
  else if rest.head?.any isDivider then
    let numeral := s.take sign ++ (s.drop sign).takeWhile isFractionalByte
    if isFractional numeral then some (s.drop numeral.length) else none
  else if isWhole (s.take (sign + digits.length)) then some rest
  else none

/-- What follows a number, a date or a time. -/
def afterNumber? (v : Version) (s : Bytes) : Option Bytes :=
  let rest := s.dropWhile Bytes.isDigit
  if Bytes.isDigit (s.headD 0) && (rest.head? == some hyphen || rest.head? == some colon) then
    numeral? isMomentByte (isMoment v) s
  else match s with
    | 48 :: letter :: digits =>
      match base? letter with
      | some base => numeral? (fun b => isDigitOf base b || b == 95) (isWholeIn base) digits
      | none => afterDecimal? s
    | _ => afterDecimal? s

end NodeScript.Toml
