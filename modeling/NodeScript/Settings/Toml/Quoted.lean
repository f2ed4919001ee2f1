/-
  Texts in quotes.

  A text stands in double or in single quotes, on one line, or between three
  quotes on any number of lines. Only double quotes give backslashes a meaning.
  A text is first cut out as it is written and then read, so that the end of a
  text is found without regard to what its escapes stand for.
-/
import NodeScript.Text.Rune

namespace NodeScript.Toml

/-- A version of the format. The later one reads everything that the earlier one
reads, and more: two further escapes, tables in braces on several lines, and
times without seconds. -/
inductive Version where
  | v10
  | v11
  deriving DecidableEq

/-- Whether a byte starts an escape inside the given quotes. Inside single quotes
every byte stands for itself. -/
def startsEscape (quote b : UInt8) : Bool := quote == doubleQuote && b == backslash

/-! ### Where a text ends -/

/-- A text on one line as it is written, after its opening quote, and what
follows its closing quote. -/
def cutLine? (quote : UInt8) : Bytes → Option (Bytes × Bytes)
  | [] => none
  | b :: s =>
    if b = quote then some ([], s)
    else if b = newline ∨ b = carriageReturn then none
    else if startsEscape quote b then
      match s with
      | [] => none
      | c :: s => do
        let (text, rest) ← cutLine? quote s
        return (b :: c :: text, rest)
    else do
      let (text, rest) ← cutLine? quote s
      return (b :: text, rest)

/-- Whether a text that is followed by four quotes cannot take one more of them:
it ends with two quotes already. Behind a backslash, only one of these is its
own, and there is room for another. The text has its last byte first. -/
def isFull (quote : UInt8) : Bytes → Bool
  | a :: b :: s => a == quote && b == quote && !(s.head?.any (startsEscape quote))
  | _ => false

/-- A text on several lines as it is written, after its opening quotes, and what
follows its closing quotes. Of more than three quotes the last three close the
text. What has been read so far has its last byte first. -/
def cutLines? (quote : UInt8) (before : Bytes) : Bytes → Option (Bytes × Bytes)
  | [] => none
  | b :: s =>
    if [quote, quote, quote].isPrefixOf (b :: s) then
      if (s.drop 2).head? ≠ some quote then some (before.reverse, s.drop 2)
      else if isFull quote before then none
      else cutLines? quote (b :: before) s
    else if startsEscape quote b then
      match s with
      | [] => none
      | c :: s => cutLines? quote (c :: b :: before) s
    else cutLines? quote (b :: before) s

/-! ### What a text says -/

/-- The byte that an escape of one letter stands for. -/
def escape? (v : Version) (letter : UInt8) : Option UInt8 :=
  if v = .v11 ∧ letter = 101 then some 27
  else [(98, 8), (116, 9), (110, 10), (102, 12), (114, 13), (34, 34), (92, 92)].lookup letter

/-- How many hexadecimal digits follow the letter of an escape by number. -/
def hexLength? (v : Version) (letter : UInt8) : Option Nat :=
  if v = .v11 ∧ letter = 120 then some 2 else [(117, 4), (85, 8)].lookup letter

/-- What an escape after its backslash stands for, and what follows it: a control
character, a quote, a backslash, or the character of a number. -/
def readEscape? (v : Version) : Bytes → Option (Bytes × Bytes)
  | [] => none
  | letter :: s =>
    match hexLength? v letter with
    | none => (escape? v letter).map fun b => ([b], s)
    | some n =>
      let digits := s.take n
      if digits.length < n then none else (hexChar? digits).map fun c => (c, s.drop n)

/-- What follows an escape is shorter than what follows its backslash. -/
theorem length_of_readEscape? {v : Version} {s c rest : Bytes}
    (h : readEscape? v s = some (c, rest)) : rest.length < s.length := by
  cases s with
  | nil => simp [readEscape?] at h
  | cons letter s =>
    simp only [readEscape?] at h
    split at h
    · simp only [Option.map_eq_some_iff, Prod.mk.injEq] at h
      obtain ⟨_, _, _, rfl⟩ := h
      simp
    · split at h
      · simp at h
      · simp only [Option.map_eq_some_iff, Prod.mk.injEq] at h
        obtain ⟨_, _, _, rfl⟩ := h
        simp only [List.length_drop, List.length_cons]
        omega

/-- Whether a byte is a blank or belongs to a line end. -/
def isSpace (b : UInt8) : Bool :=
  b == space || b == tab || b == newline || b == carriageReturn

/-- Whether a backslash in front of a text joins two lines: only blanks stand
between it and a line end. -/
def joinsLines (s : Bytes) : Bool := (s.takeWhile isSpace).contains newline

/-- A text with its escapes replaced. If it may have several `lines`, a backslash
in front of a line end goes away with all the blanks and line ends behind it. -/
def unescape? (v : Version) (lines : Bool) : Bytes → Option Bytes
  | [] => some []
  | b :: s =>
    if b ≠ backslash then do return b :: (← unescape? v lines s)
    else if lines && joinsLines s then unescape? v lines (s.dropWhile isSpace)
    else match h : readEscape? v s with
      | none => none
      | some (c, rest) =>
        have := length_of_readEscape? h
        (unescape? v lines rest).map (c ++ ·)
termination_by s => s.length
decreasing_by
  · simp
  · have := (List.dropWhile_suffix isSpace (l := s)).length_le
    simp only [List.length_cons]
    omega
  · simp only [List.length_cons]
    omega

/-- A text without a line end at its start. -/
def dropFirstLineEnd : Bytes → Bytes
  | 10 :: s => s
  | 13 :: 10 :: s => s
  | s => s

/-! ### Reading -/

/-- A text on one line, after its opening quote, and what follows it. -/
def readLine? (v : Version) (quote : UInt8) (s : Bytes) : Option (Bytes × Bytes) := do
  let (text, rest) ← cutLine? quote s
  return (← if quote = doubleQuote then unescape? v false text else text, rest)

/-- A text on several lines, after its opening quotes, and what follows it. -/
def readLines? (v : Version) (quote : UInt8) (s : Bytes) : Option (Bytes × Bytes) := do
  let (text, rest) ← cutLines? quote [] s
  let text := dropFirstLineEnd text
  return (← if quote = doubleQuote then unescape? v true text else text, rest)

/-- A text of either kind, after its first quote, and what follows it. -/
def readText? (v : Version) (quote : UInt8) (s : Bytes) : Option (Bytes × Bytes) :=
  match Bytes.stripStart? [quote, quote] s with
  | some s => readLines? v quote s
  | none => readLine? v quote s

end NodeScript.Toml
