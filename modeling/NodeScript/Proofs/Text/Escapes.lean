/-
  Escaped texts read back.

  Both quoted forms write a text rune by rune, and one reader understands both: `unescape?`
  takes the first escape off a text and says which rune it stands for. What `\x` stands for
  depends on the number, since a byte below `0x80` is a character and any other is written so
  only if it is stray. An `Escaping` is a way to write runes that this reader understands and
  that does not leave the closing byte as it is, so the end of a quoted text is found whatever
  the text is and whatever follows (`Escaping.text_eq_of_append`).

  The JSON form cannot be read back, since all stray bytes look alike in it, but it keeps a text
  on one line (`newline_not_mem_jsonString`), and plain text as it is (`jsonString_plain`).
-/
import Mathlib.Algebra.Group.Nat.Defs
import NodeScript.Text.Quoted
import NodeScript.Proofs.Text.Runes

namespace NodeScript

open String (utf8EncodeChar)

/-! ### Hexadecimal numerals -/

/-- The number that hexadecimal digits spell. -/
def hexNumber? (digits : Bytes) : Option Nat :=
  digits.foldlM (fun n d => (hexValue? d).map (16 * n + ·)) 0

theorem hexValue?_hexDigit : ∀ n < 16, hexValue? (Bytes.hexDigit n) = some n := by decide

theorem length_hex (width n : Nat) : (Bytes.hex width n).length = width := by
  induction width generalizing n with
  | zero => rfl
  | succ w ih => rw [Bytes.hex, List.length_append, ih, List.length_singleton]

theorem hexNumber?_hex {width n : Nat} (h : n < 16 ^ width) :
    hexNumber? (Bytes.hex width n) = some n := by
  induction width generalizing n with
  | zero =>
    have hn : n = 0 := by simpa using h
    rw [hn]
    rfl
  | succ w ih =>
    have hdigit : hexValue? (Bytes.hexDigit (n % 16)) = some (n % 16) :=
      hexValue?_hexDigit _ (Nat.mod_lt n (by decide))
    have hfront : n / 16 < 16 ^ w := by
      rw [Nat.pow_succ] at h
      omega
    have hvalue : 16 * (n / 16) + n % 16 = n := Nat.div_add_mod n 16
    have hread : hexNumber? (Bytes.hex w (n / 16)) = some (n / 16) := ih hfront
    unfold hexNumber? at hread ⊢
    rw [Bytes.hex, List.foldlM_append, hread]
    simp [hdigit, hvalue]

/-! ### Reading one escape -/

/-- The number of the character that a letter behind a backslash stands for: of a control
character, or of itself. -/
def letterNumber (b : UInt8) : Nat :=
  if b = 97 then 7 else if b = 98 then 8 else if b = 116 then 9 else if b = 110 then 10
  else if b = 118 then 11 else if b = 102 then 12 else if b = 114 then 13 else b.toNat

/-- The rune that the escape of one byte stands for. -/
def byteRune (n : Nat) : Rune := if n < 0x80 then .char (Char.ofNat n) else .stray n.toUInt8

/-- Reads as many hexadecimal digits as an escape has, and the rune with their number. -/
def readHex? (width : Nat) (rune : Nat → Rune) (s : Bytes) : Option (Rune × Bytes) :=
  (hexNumber? (s.take width)).map fun n => (rune n, s.drop width)

/-- The rune that the first escape of a text stands for, and what follows the escape. What does
not begin with a backslash stands for itself. -/
def unescape? : Bytes → Option (Rune × Bytes)
  | 92 :: b :: s =>
    if b = 120 then readHex? 2 byteRune s
    else if b = 117 then readHex? 4 (fun n => .char (Char.ofNat n)) s
    else if b = 85 then readHex? 8 (fun n => .char (Char.ofNat n)) s
    else some (.char (Char.ofNat (letterNumber b)), s)
  | s => nextRune? s

/-! ### Escapes by their shape -/

theorem readHex?_hex_append {width n : Nat} (h : n < 16 ^ width) (rune : Nat → Rune) (t : Bytes) :
    readHex? width rune (Bytes.hex width n ++ t) = some (rune n, t) := by
  unfold readHex?
  rw [List.take_left' (length_hex width n), List.drop_left' (length_hex width n), hexNumber?_hex h]
  rfl

theorem unescape?_byteEscape_append {n : Nat} (h : n < 256) (t : Bytes) :
    unescape? (byteEscape n ++ t) = some (byteRune n, t) := by
  have hword : utf8 "\\x" = [92, 120] := by decide
  unfold byteEscape
  rw [hword]
  exact readHex?_hex_append h byteRune t

theorem unescape?_charEscape_append (c : Char) (t : Bytes) :
    unescape? (charEscape c ++ t) = some (.char c, t) := by
  have hlt := toNat_lt_of_char c
  have hchar : Rune.char (Char.ofNat c.toNat) = .char c := by rw [Char.ofNat_toNat]
  unfold charEscape
  split
  · next h =>
    have hword : utf8 "\\u" = [92, 117] := by decide
    rw [hword, ← hchar]
    exact readHex?_hex_append (n := c.toNat) h (fun n => .char (Char.ofNat n)) t
  · have hword : utf8 "\\U" = [92, 85] := by decide
    rw [hword, ← hchar]
    exact readHex?_hex_append (n := c.toNat) (by omega) (fun n => .char (Char.ofNat n)) t

theorem unescape?_of_head? {s : Bytes} (h : s.head? ≠ some backslash) :
    unescape? s = nextRune? s := by
  unfold unescape?
  split
  · exact absurd rfl h
  · rfl

theorem unescape?_controlLetter {c l : Char} (h : controlLetter? c = some l) (t : Bytes) :
    unescape? (backslash :: (utf8EncodeChar l ++ t)) = some (.char c, t) := by
  have hchar : c = Char.ofNat c.toNat := (Char.ofNat_toNat c).symm
  unfold controlLetter? at h
  split at h
  case h_8 => cases h
  all_goals
    next hc =>
      obtain rfl := Option.some.inj h
      rw [hchar, hc]
      rfl

theorem head?_utf8EncodeChar_append {c : Char} {b : UInt8} (hb : b.toNat < 0x80)
    (hc : c.toNat ≠ b.toNat) (t : Bytes) : (utf8EncodeChar c ++ t).head? ≠ some b := by
  obtain ⟨d, u, hu, -⟩ := utf8EncodeChar_eq_cons c
  have hd : d ∈ utf8EncodeChar c := by rw [hu]; exact List.mem_cons_self ..
  rw [hu, List.cons_append, List.head?_cons]
  intro h
  obtain rfl := Option.some.inj h
  by_cases hascii : c.toNat < 0x80
  · rw [utf8EncodeChar_ascii hascii, List.mem_singleton] at hd
    rw [hd, UInt8.toNat_ofNat'] at hc
    omega
  · have hhigh : 0x80 ≤ d.toNat := high_of_mem_utf8EncodeChar (by omega) hd
    omega

theorem unescape?_raw {c : Char} (hc : c.toNat ≠ 92) (t : Bytes) :
    unescape? (utf8EncodeChar c ++ t) = some (.char c, t) := by
  have hhead : (utf8EncodeChar c ++ t).head? ≠ some backslash :=
    head?_utf8EncodeChar_append (by decide) hc t
  rw [unescape?_of_head? hhead, nextRune?_utf8EncodeChar_append]

theorem unescape?_marked {c : Char} (hc : c.toNat = 34 ∨ c.toNat = 39 ∨ c.toNat = 92)
    (t : Bytes) : unescape? (backslash :: (utf8EncodeChar c ++ t)) = some (.char c, t) := by
  have hchar : c = Char.ofNat c.toNat := (Char.ofNat_toNat c).symm
  rcases hc with hc | hc | hc
  all_goals
    rw [hchar, hc]
    rfl

theorem byteRune_of_stray {b : UInt8} (h : 0x80 ≤ b.toNat) : byteRune b.toNat = .stray b := by
  unfold byteRune
  rw [if_neg (by omega)]
  simp

theorem byteRune_of_char {c : Char} (h : c.toNat < 0x80) : byteRune c.toNat = .char c := by
  unfold byteRune
  rw [if_pos h, Char.ofNat_toNat]

/-! ### Escapes of the two forms -/

theorem unescape?_inDollarQuotes {r : Rune} (hr : r.IsRead) (t : Bytes) :
    unescape? (r.inDollarQuotes ++ t) = some (r, t) := by
  cases r with
  | stray b =>
    have hb : 0x80 ≤ b.toNat := hr
    rw [Rune.inDollarQuotes, unescape?_byteEscape_append b.toNat_lt, byteRune_of_stray hb]
  | char c =>
    rw [Rune.inDollarQuotes]
    split
    · next hc => exact unescape?_marked (by omega) t
    · next hc =>
      split
      · next l hl => exact unescape?_controlLetter hl t
      · split
        · next hlow =>
          rw [unescape?_byteEscape_append (by omega), byteRune_of_char (by omega)]
        · split
          · exact unescape?_raw (by omega) t
          · exact unescape?_charEscape_append c t

theorem unescape?_inDoubleQuotes {r : Rune} (hr : r.IsRead) (t : Bytes) :
    unescape? (r.inDoubleQuotes ++ t) = some (r, t) := by
  cases r with
  | stray b =>
    have hb : 0x80 ≤ b.toNat := hr
    rw [Rune.inDoubleQuotes, unescape?_byteEscape_append b.toNat_lt, byteRune_of_stray hb]
  | char c =>
    rw [Rune.inDoubleQuotes]
    split
    · next hc => exact unescape?_marked (by omega) t
    · next hc =>
      split
      · exact unescape?_raw (by omega) t
      · split
        · next l hl => exact unescape?_controlLetter hl t
        · split
          · next hlow =>
            rw [unescape?_byteEscape_append (by omega), byteRune_of_char (by omega)]
          · exact unescape?_charEscape_append c t

/-! ### Quoted texts -/

/-- A way to write runes so that they are read back, and so that the closing byte is never
taken for the beginning of a rune. -/
structure Escaping (escape : Rune → Bytes) (close : UInt8) : Prop where
  unescape?_append : ∀ {r : Rune}, r.IsRead → ∀ t, unescape? (escape r ++ t) = some (r, t)
  ascii : close.toNat < 0x80
  ne_backslash : close ≠ backslash
  escapes_close : escape (.char (Char.ofNat close.toNat)) ≠ [close]

namespace Escaping

variable {escape : Rune → Bytes} {close : UInt8}

/-- The only rune that could begin with the closing byte is that byte itself. -/
theorem append_ne_close (h : Escaping escape close) {r : Rune} (hr : r.IsRead) (u t : Bytes) :
    escape r ++ u ≠ close :: t := by
  intro heq
  have hread := h.unescape?_append hr u
  have hhead : (close :: t).head? ≠ some backslash := by simpa using h.ne_backslash
  -- Read as what it is, the text begins with the closing byte as a character.
  rw [heq, unescape?_of_head? hhead, nextRune?_ascii h.ascii] at hread
  simp only [Option.some.injEq, Prod.mk.injEq] at hread
  obtain ⟨rfl, rfl⟩ := hread
  have hwritten : escape (.char (Char.ofNat close.toNat)) = [close] :=
    List.append_cancel_right heq
  exact h.escapes_close hwritten

/-- Runes up to the closing byte, and what follows it, are told from the text. -/
theorem eq_of_append (h : Escaping escape close) {rs rs' : List Rune} {t t' : Bytes}
    (hrs : ∀ r ∈ rs, r.IsRead) (hrs' : ∀ r ∈ rs', r.IsRead)
    (heq : rs.flatMap escape ++ close :: t = rs'.flatMap escape ++ close :: t') :
    rs = rs' ∧ t = t' := by
  induction rs generalizing rs' with
  | nil =>
    cases rs' with
    | nil => exact ⟨rfl, (List.cons.inj heq).2⟩
    | cons r' rs' =>
      rw [List.flatMap_nil, List.nil_append, List.flatMap_cons, List.append_assoc] at heq
      exact absurd heq.symm (h.append_ne_close (hrs' r' (List.mem_cons_self ..)) _ _)
  | cons r rs ih =>
    have hr := hrs r (List.mem_cons_self ..)
    cases rs' with
    | nil =>
      rw [List.flatMap_nil, List.nil_append, List.flatMap_cons, List.append_assoc] at heq
      exact absurd heq (h.append_ne_close hr _ _)
    | cons r' rs' =>
      have hr' := hrs' r' (List.mem_cons_self ..)
      rw [List.flatMap_cons, List.flatMap_cons, List.append_assoc, List.append_assoc] at heq
      have hread := h.unescape?_append hr (rs.flatMap escape ++ close :: t)
      rw [heq, h.unescape?_append hr'] at hread
      simp only [Option.some.injEq, Prod.mk.injEq] at hread
      obtain ⟨rfl, hrest⟩ := hread
      obtain ⟨rfl, rfl⟩ := ih (fun q hq => hrs q (List.mem_cons_of_mem _ hq))
        (fun q hq => hrs' q (List.mem_cons_of_mem _ hq)) hrest.symm
      exact ⟨rfl, rfl⟩

theorem text_eq_of_append (h : Escaping escape close) {s s' t t' : Bytes}
    (heq : (runes s).flatMap escape ++ close :: t = (runes s').flatMap escape ++ close :: t') :
    s = s' ∧ t = t' := by
  obtain ⟨hrunes, ht⟩ := h.eq_of_append (fun r => isRead_of_mem_runes)
    (fun r => isRead_of_mem_runes) heq
  refine ⟨?_, ht⟩
  rw [← concat_runes s, hrunes, concat_runes]

end Escaping

theorem escaping_inDollarQuotes : Escaping Rune.inDollarQuotes singleQuote where
  unescape?_append := unescape?_inDollarQuotes
  ascii := by decide
  ne_backslash := by decide
  escapes_close := by decide

theorem escaping_inDoubleQuotes : Escaping Rune.inDoubleQuotes doubleQuote where
  unescape?_append := unescape?_inDoubleQuotes
  ascii := by decide
  ne_backslash := by decide
  escapes_close := by decide

theorem eq_of_dollarQuoted_append {s s' t t' : Bytes}
    (h : dollarQuoted s ++ t = dollarQuoted s' ++ t') : s = s' ∧ t = t' := by
  unfold dollarQuoted at h
  simp only [List.append_assoc, List.singleton_append, List.append_cancel_left_eq] at h
  exact escaping_inDollarQuotes.text_eq_of_append h

theorem eq_of_doubleQuoted_append {s s' t t' : Bytes}
    (h : doubleQuoted s ++ t = doubleQuoted s' ++ t') : s = s' ∧ t = t' := by
  unfold doubleQuoted at h
  simp only [List.append_assoc, List.cons_append, List.cons.injEq, true_and] at h
  exact escaping_inDoubleQuotes.text_eq_of_append h

/-! ### JSON strings -/

theorem newline_not_mem_hex (width n : Nat) : newline ∉ Bytes.hex width n := by
  have hdigit : ∀ d < 16, newline ≠ Bytes.hexDigit d := by decide
  induction width generalizing n with
  | zero => exact List.not_mem_nil
  | succ w ih =>
    rw [Bytes.hex, List.mem_append, List.mem_singleton, not_or]
    exact ⟨ih _, hdigit _ (Nat.mod_lt n (by decide))⟩

theorem newline_not_mem_utf8EncodeChar {c : Char} (hc : c.toNat ≠ 10) :
    newline ∉ utf8EncodeChar c := by
  intro hmem
  have hread : (Rune.char c).IsRead := trivial
  have his := (hread.mem_bytes_iff (c := '\n') (by decide)).mp hmem
  simp only [Rune.is, decide_eq_true_eq, Rune.char.injEq] at his
  rw [his] at hc
  exact hc rfl

theorem newline_not_mem_inJsonString (r : Rune) : newline ∉ r.inJsonString := by
  cases r with
  | stray b =>
    rw [Rune.inJsonString]
    decide
  | char c =>
    rw [Rune.inJsonString]
    split
    case h_8 =>
      split
      · rw [List.mem_append, not_or]
        exact ⟨by decide, newline_not_mem_hex 4 _⟩
      · exact newline_not_mem_utf8EncodeChar (by omega)
    all_goals decide

theorem newline_not_mem_jsonString (s : Bytes) : newline ∉ jsonString s := by
  have hbody : newline ∉ (runes s).flatMap Rune.inJsonString := by
    intro hmem
    obtain ⟨r, -, hr⟩ := List.mem_flatMap.mp hmem
    exact newline_not_mem_inJsonString r hr
  unfold jsonString
  rw [List.mem_append, List.mem_append, not_or, not_or]
  exact ⟨⟨by decide, hbody⟩, by decide⟩

/-- Whether a byte stands for itself in a JSON string: it is printable ASCII, and neither a quote
nor a backslash. -/
def isPlain (b : UInt8) : Bool := 0x20 ≤ b && b < 0x7F && b != doubleQuote && b != backslash

theorem inJsonString_plain {b : UInt8} (h : isPlain b) :
    (Rune.char (Char.ofNat b.toNat)).inJsonString = [b] := by
  simp only [isPlain, Bool.and_eq_true, decide_eq_true_eq, bne_iff_ne, UInt8.le_iff_toNat_le,
    UInt8.lt_iff_toNat_lt, ne_eq, ← UInt8.toNat_inj] at h
  obtain ⟨⟨⟨hlow, hhigh⟩, hquote⟩, hbackslash⟩ := h
  have hlow : 0x20 ≤ b.toNat := hlow
  have hhigh : b.toNat < 0x7F := hhigh
  have hquote : b.toNat ≠ 34 := hquote
  have hbackslash : b.toNat ≠ 92 := hbackslash
  have hnumber : (Char.ofNat b.toNat).toNat = b.toNat :=
    toNat_ofNat_of_isValidChar (by unfold Nat.isValidChar; omega)
  rw [Rune.inJsonString]
  split
  case h_8 =>
    rw [hnumber, if_neg (by omega), utf8EncodeChar_ascii (by omega), hnumber, UInt8.ofNat_toNat]
  all_goals omega

theorem jsonString_plain {s : Bytes} (h : s.all isPlain) :
    jsonString s = [doubleQuote] ++ s ++ [doubleQuote] := by
  have hbody : (runes s).flatMap Rune.inJsonString = s := by
    induction s with
    | nil => rw [runes_nil]; rfl
    | cons b s ih =>
      rw [List.all_cons, Bool.and_eq_true] at h
      have hascii : b.toNat < 0x80 := by
        have hb := h.1
        simp only [isPlain, Bool.and_eq_true, decide_eq_true_eq, UInt8.lt_iff_toNat_lt] at hb
        have hb : b.toNat < 0x7F := hb.1.1.2
        omega
      rw [runes_ascii_cons hascii, List.flatMap_cons, inJsonString_plain h.1, ih h.2]
      rfl
  rw [jsonString, hbody]

end NodeScript
