/-
  Reading a byte string as characters.

  A byte string is cut from left to right into runes: the well-formed UTF-8
  characters, and, wherever no well-formed character begins, single stray bytes.
  So every byte string has exactly one reading, the reading loses nothing (the
  bytes of the runes, one after another, are the string again), and one column
  of a location is one rune whatever the bytes are.
-/
import NodeScript.Text.Bytes

namespace NodeScript

/-- One step of reading: a well-formed character, or a byte at which none
begins. A stray byte is never confused with the replacement character U+FFFD,
which is a character like any other. -/
inductive Rune where
  | char (c : Char)
  | stray (b : UInt8)
  deriving DecidableEq

namespace Rune

/-- The bytes that a rune stands for. -/
def bytes : Rune → Bytes
  | .char c => String.utf8EncodeChar c
  | .stray b => [b]

/-- Whether a rune is the given ASCII character. -/
def is (c : Char) (r : Rune) : Bool := r = .char c

end Rune

/-! ### Well-formed characters -/

/-- The low six bits of a continuation byte `10xxxxxx`; nothing for any other
byte. -/
def continuation? (b : UInt8) : Option Nat :=
  if b.toNat / 64 = 2 then some (b.toNat % 64) else none

/-- The character with the number `n`, unless a shorter encoding than the one
at hand would have done (`n` is below `least`), or `n` is a surrogate or beyond
the last character. -/
def scalar? (least n : Nat) : Option Char :=
  if least ≤ n ∧ n.isValidChar then some (Char.ofNat n) else none

/-- The well-formed character that a byte string begins with, if any. The lead
byte announces how many continuation bytes follow. -/
def leadingChar? : Bytes → Option Char
  | [] => none
  | b :: rest =>
    let n := b.toNat
    if n < 0x80 then some (Char.ofNat n)
    else if n < 0xC0 then none
    else if n < 0xE0 then
      match rest with
      | c :: _ => do
        scalar? 0x80 ((n - 0xC0) * 64 + (← continuation? c))
      | _ => none
    else if n < 0xF0 then
      match rest with
      | c :: d :: _ => do
        scalar? 0x800 ((n - 0xE0) * 4096 + (← continuation? c) * 64 + (← continuation? d))
      | _ => none
    else if n < 0xF8 then
      match rest with
      | c :: d :: e :: _ => do
        scalar? 0x10000 ((n - 0xF0) * 262144 + (← continuation? c) * 4096
          + (← continuation? d) * 64 + (← continuation? e))
      | _ => none
    else none

/-! ### Runes of a byte string -/

/-- The first rune of a byte string and what follows it. -/
def nextRune? : Bytes → Option (Rune × Bytes)
  | [] => none
  | b :: rest =>
    match leadingChar? (b :: rest) with
    | some c => some (.char c, (b :: rest).drop c.utf8Size)
    | none => some (.stray b, rest)

/-- Reading a rune makes progress, so reading on ends. -/
theorem length_lt_of_nextRune? {s rest : Bytes} {r : Rune}
    (h : nextRune? s = some (r, rest)) : rest.length < s.length := by
  cases s with
  | nil => simp [nextRune?] at h
  | cons b t =>
    rw [nextRune?] at h
    split at h
    · next c _ =>
      have := c.utf8Size_pos
      simp only [Option.some.injEq, Prod.mk.injEq] at h
      rw [← h.2, List.length_drop, List.length_cons]
      omega
    · simp only [Option.some.injEq, Prod.mk.injEq] at h
      rw [← h.2, List.length_cons]
      omega

/-- The runes of a byte string, from left to right. -/
def runes (s : Bytes) : List Rune :=
  match _h : nextRune? s with
  | none => []
  | some (r, rest) => r :: runes rest
termination_by s.length
decreasing_by exact length_lt_of_nextRune? _h

/-- A byte string without the runes at its start that have a property. -/
def dropRunes (p : Rune → Bool) (s : Bytes) : Bytes :=
  match _h : nextRune? s with
  | none => []
  | some (r, rest) => if p r then dropRunes p rest else s
termination_by s.length
decreasing_by exact length_lt_of_nextRune? _h

/-- Whether a byte string is well-formed UTF-8: no byte of it is stray. -/
def isWellFormed (s : Bytes) : Bool :=
  (runes s).all fun
    | .char _ => true
    | .stray _ => false

/-- The bytes of the runes, one after another. -/
def Rune.concat (rs : List Rune) : Bytes := rs.flatMap Rune.bytes

/-- A text with every character changed. A stray byte becomes the replacement
character U+FFFD. -/
def mapChars (f : Char → Char) (s : Bytes) : Bytes :=
  (runes s).flatMap fun
    | .char c => String.utf8EncodeChar (f c)
    | .stray _ => String.utf8EncodeChar (Char.ofNat 0xFFFD)

/-- A text with the replacement character in the stead of every stray byte. -/
def replaceStray (s : Bytes) : Bytes := mapChars id s

/-! ### Characters by number -/

/-- The value of a hexadecimal digit. -/
def hexValue? (b : UInt8) : Option Nat :=
  if Bytes.isDigit b then some (b.toNat - 48)
  else if 97 ≤ b && b ≤ 102 then some (b.toNat - 87)
  else if 65 ≤ b && b ≤ 70 then some (b.toNat - 55)
  else none

/-- The character whose number is given by hexadecimal digits. -/
def hexChar? (digits : Bytes) : Option Bytes := do
  let n ← digits.foldlM (fun n b => do return 16 * n + (← hexValue? b)) 0
  if n.isValidChar then some (String.utf8EncodeChar (Char.ofNat n)) else none

end NodeScript
