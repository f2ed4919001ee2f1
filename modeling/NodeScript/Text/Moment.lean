/-
  Dates and times by layout.

  A layout says piece by piece how a date, a time or both are written. A text
  fits a layout if it can be read by it to its end and the day is one of its
  month.
-/
import NodeScript.Text.Bytes

namespace NodeScript

/-- A piece of a layout. Numbers of at most two digits may have to have exactly
two. -/
inductive Piece where
  | year
  | month (padded : Bool)
  | day (padded : Bool)
  | hour (padded : Bool)
  | minute (padded : Bool)
  | second (padded : Bool)
  /-- A fraction of a second, which may be left out. -/
  | fraction
  /-- The letter `Z`, or an offset in hours and minutes. -/
  | zone
  | letter (b : UInt8)
  /-- Any number of spaces. -/
  | spaces
  deriving DecidableEq

/-- How a date, a time or both are written. -/
abbrev Layout := List Piece

/-- The date that has been read so far. A time without one is on the first day
of a year. -/
structure CalendarDate where
  year : Nat := 0
  month : Nat := 1
  day : Nat := 1
  deriving DecidableEq

/-- The number of days of a month. -/
def daysOf (year month : Nat) : Nat :=
  if month = 2 then
    if (year % 4 = 0 ∧ year % 100 ≠ 0) ∨ year % 400 = 0 then 29 else 28
  else if month = 4 ∨ month = 6 ∨ month = 9 ∨ month = 11 then 30 else 31

/-- Whether there is such a day. -/
def CalendarDate.isReal (d : CalendarDate) : Bool := 1 ≤ d.day && d.day ≤ daysOf d.year d.month

namespace Piece

/-- A number of one or two digits, and what follows it. -/
def number? (padded : Bool) : Bytes → Option (Nat × Bytes)
  | a :: b :: s =>
    if !Bytes.isDigit a then none
    else if Bytes.isDigit b then some (Bytes.digitsValue [a, b], s)
    else if padded then none
    else some (Bytes.digitsValue [a], b :: s)
  | [a] => if Bytes.isDigit a && !padded then some (Bytes.digitsValue [a], []) else none
  | [] => none

/-- A number below a limit, and what follows it. -/
def below? (padded : Bool) (limit : Nat) (s : Bytes) : Option (Nat × Bytes) := do
  let (n, s) ← number? padded s
  if n < limit then some (n, s) else none

/-- What follows an offset. The greatest offset is a day, and the greatest
number of minutes an hour. -/
def afterOffset? (s : Bytes) : Option Bytes :=
  match s with
  | sign :: s =>
    if sign == 43 || sign == hyphen then do
      let (_, s) ← below? true 25 s
      match s with
      | 58 :: s => do return (← below? true 61 s).2
      | _ => none
    else none
  | [] => none

/-- Reads a piece: the date with what the piece says about it, and what follows
the piece. -/
def read (p : Piece) (d : CalendarDate) (s : Bytes) : Option (CalendarDate × Bytes) :=
  match p with
  | year =>
    let digits := s.take 4
    if digits.length == 4 && digits.all Bytes.isDigit then
      some ({ d with year := Bytes.digitsValue digits }, s.drop 4)
    else none
  | month padded => do
    let (n, s) ← below? padded 13 s
    if n = 0 then none else some ({ d with month := n }, s)
  | day padded => do
    let (n, s) ← number? padded s
    some ({ d with day := n }, s)
  | hour padded => do return (d, (← below? padded 24 s).2)
  | minute padded => do return (d, (← below? padded 60 s).2)
  | second padded => do return (d, (← below? padded 60 s).2)
  | fraction =>
    match s with
    | point :: digit :: rest =>
      if (point == period || point == comma) && Bytes.isDigit digit then
        some (d, rest.dropWhile Bytes.isDigit)
      else some (d, s)
    | _ => some (d, s)
  | zone => do return (d, ← if s.head? == some 90 then some s.tail else afterOffset? s)
  | letter b =>
    match s with
    | c :: s => if b = c then some (d, s) else none
    | [] => none
  | spaces =>
    match s with
    | 32 :: s => some (d, s.dropWhile (· == space))
    | _ => none

end Piece

namespace Layout

/-- Reads the pieces of a layout. -/
def read : Layout → CalendarDate → Bytes → Option CalendarDate
  | [], d, s => if s.isEmpty then some d else none
  | p :: ps, d, s => do
    let (d, s) ← p.read d s
    Layout.read ps d s

/-- Whether a text is written by a layout. -/
def fits (l : Layout) (s : Bytes) : Bool :=
  ((Layout.read l {} s).map CalendarDate.isReal).getD false

end Layout

end NodeScript
