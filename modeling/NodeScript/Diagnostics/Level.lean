/-
  Levels of diagnostics.

  A level is a small signed number. Nine of the numbers have names; the empty
  name is the level of events without a level. A journal writes the events at
  its own level and above, but none below the finest named level and none of
  the level that stands for silence.
-/
import NodeScript.Text.Case

namespace NodeScript

/-- A level, from -128 to 127. -/
structure Level where
  value : Int
  deriving DecidableEq

namespace Level

/-- The finest level. -/
def trace : Level := ⟨-1⟩

/-- The level of events that only help to find mistakes. -/
def debug : Level := ⟨0⟩

/-- The level of events worth telling. -/
def info : Level := ⟨1⟩

/-- The level of events that may be mistakes. -/
def warn : Level := ⟨2⟩

/-- The level of events that are mistakes. -/
def error : Level := ⟨3⟩

/-- The level of mistakes that end the program. -/
def fatal : Level := ⟨4⟩

/-- The level of mistakes of the program itself. -/
def panic : Level := ⟨5⟩

/-- The level of events without a level. -/
def unset : Level := ⟨6⟩

/-- Above every other named level: a journal of this level writes no event of a
named level, and no journal writes an event of this level. -/
def disabled : Level := ⟨7⟩

/-- The named levels with their names and their three-letter forms on the
console, the finest first. -/
def named : List (Level × Bytes × Bytes) :=
  [(trace, utf8 "trace", utf8 "TRC"), (debug, utf8 "debug", utf8 "DBG"),
   (info, utf8 "info", utf8 "INF"), (warn, utf8 "warn", utf8 "WRN"),
   (error, utf8 "error", utf8 "ERR"), (fatal, utf8 "fatal", utf8 "FTL"),
   (panic, utf8 "panic", utf8 "PNC")]

/-- The name of a level; a level without one is named by its number. -/
def name (l : Level) : Bytes :=
  if l = unset then []
  else if l = disabled then utf8 "disabled"
  else match named.find? (·.1 = l) with
    | some (_, n, _) => n
    | none => Bytes.ofInt l.value

/-- Why a text is not a level. -/
inductive Mistake where
  | outOfBounds (n : Int)
  | unknown (text : Bytes)
  deriving DecidableEq

/-- The wording of a mistake. -/
def Mistake.message : Mistake → Bytes
  | .outOfBounds n =>
    utf8 "Out-Of-Bounds Level: '" ++ Bytes.ofInt n ++ utf8 "', defaulting to NoLevel"
  | .unknown text =>
    utf8 "Unknown Level String: '" ++ text ++ utf8 "', defaulting to NoLevel"

/-- The level that a text names, in any case, or gives by its number. -/
def ofBytes (s : Bytes) : Except Mistake Level :=
  let folded := foldCase s
  match named.find? (·.2.1 = folded) with
  | some (l, _, _) => .ok l
  | none =>
    if folded = utf8 "disabled" then .ok disabled
    else if s.isEmpty then .ok unset
    else match Bytes.toInt64? s with
      | none => .error (.unknown s)
      | some n => if n < -128 ∨ 127 < n then .error (.outOfBounds n) else .ok ⟨n⟩

/-- The short form of a level's text on the console: three fixed letters for a
named level, in whichever way it is given; otherwise the first three bytes in
upper case, or question marks if there are none. -/
def shortForm (s : Bytes) : Bytes :=
  match (ofBytes s).toOption.bind fun l => named.find? (·.1 = l) with
  | some (_, _, letters) => letters
  | none => if s.isEmpty then utf8 "???" else upperCase (s.take 3)

end Level

end NodeScript
