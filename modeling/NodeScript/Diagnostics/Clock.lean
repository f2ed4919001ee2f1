/-
  Times as they are put on events.
-/
import NodeScript.Text.Bytes

namespace NodeScript

/-- A number with zeros in front of it up to the given width. -/
def paddedNat (width n : Nat) : Bytes :=
  let digits := Bytes.ofNat n
  List.replicate (width - digits.length) 48 ++ digits

/-- Year, month and day of a date that is given by the number of days since the
first of January 1970. Years are counted from March, so that the leap day is the
last day of its year, and in cycles of 400 years of 146097 days each. -/
def civilDate (days : Nat) : Nat × Nat × Nat :=
  let shifted := days + 719468
  let cycle := shifted / 146097
  let dayOfCycle := shifted % 146097
  let yearOfCycle :=
    (dayOfCycle - dayOfCycle / 1460 + dayOfCycle / 36524 - dayOfCycle / 146096) / 365
  let dayOfYear := dayOfCycle - (365 * yearOfCycle + yearOfCycle / 4 - yearOfCycle / 100)
  let fromMarch := (5 * dayOfYear + 2) / 153
  let day := dayOfYear - (153 * fromMarch + 2) / 5 + 1
  let month := if fromMarch < 10 then fromMarch + 3 else fromMarch - 9
  let year := yearOfCycle + 400 * cycle + (if month ≤ 2 then 1 else 0)
  (year, month, day)

/-- The time that is given by the number of seconds since the start of 1970, as
`YYYY-MM-DDThh:mm:ssZ`. -/
def timestamp (seconds : Nat) : Bytes :=
  let (year, month, day) := civilDate (seconds / 86400)
  let rest := seconds % 86400
  paddedNat 4 year ++ [hyphen] ++ paddedNat 2 month ++ [hyphen] ++ paddedNat 2 day ++ [84]
    ++ paddedNat 2 (rest / 3600) ++ [colon] ++ paddedNat 2 (rest / 60 % 60) ++ [colon]
    ++ paddedNat 2 (rest % 60) ++ [90]

end NodeScript
