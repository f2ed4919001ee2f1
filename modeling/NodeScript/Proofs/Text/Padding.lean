/-
  White space around a text.

  Padding is any white space characters, one after another. Every character of it is
  read as such, whatever bytes stand beside it (`runes_padded`): a fragment of a character
  at the end of the text does not go on into the padding behind it, since no character of
  padding begins with a byte that continues one, and the padding in front ends with whole
  characters. So trimming takes the padding off and goes on as it would without it
  (`trim_padded`), and every text is what trimming leaves of it between two paddings
  (`exists_padded_trim`). What it leaves is bare, and a text between two paddings that is
  bare is what it leaves (`trim_eq_iff`). Padding has no solid byte, and a word with solid
  bytes at both ends is not found in it or across its border (`containsWord_padded`).
-/
import NodeScript.Proofs.Text.Words

namespace NodeScript

open String (utf8EncodeChar)

/-- White space characters, one after another. -/
structure Padding where
  chars : List Char
  blank : ∀ c ∈ chars, isBlank c = true

namespace Padding

/-- The text of a padding. -/
def bytes (w : Padding) : Bytes := w.chars.flatMap utf8EncodeChar

/-- No padding. -/
def none : Padding := ⟨[], nofun⟩

/-- One white space character. -/
def single (c : Char) (h : isBlank c = true) : Padding :=
  ⟨[c], fun _ hd => List.mem_singleton.mp hd ▸ h⟩

/-- The runes of a padding. -/
def runes (w : Padding) : List Rune := w.chars.map .char

@[simp]
theorem bytes_none : Padding.none.bytes = [] := rfl

@[simp]
theorem bytes_single {c : Char} (h : isBlank c = true) : (single c h).bytes = utf8EncodeChar c :=
  List.flatMap_singleton ..

theorem isBlank_of_mem_runes {w : Padding} {r : Rune} (h : r ∈ w.runes) : r.isBlank = true := by
  obtain ⟨c, hc, rfl⟩ := List.mem_map.mp h
  exact w.blank c hc

theorem concat_runes (w : Padding) : Rune.concat w.runes = w.bytes := by
  unfold Rune.concat runes bytes
  rw [List.flatMap_map]
  rfl

/-- Blank runes are the runes of a padding. -/
theorem exists_runes_eq {rs : List Rune} (h : ∀ r ∈ rs, r.isBlank = true) :
    ∃ w : Padding, w.runes = rs := by
  induction rs with
  | nil => exact ⟨⟨[], nofun⟩, rfl⟩
  | cons r rs ih =>
    obtain ⟨hr, hrs⟩ := List.forall_mem_cons.mp h
    obtain ⟨w, hw⟩ := ih hrs
    cases r with
    | char c =>
      have hblank : ∀ d ∈ c :: w.chars, isBlank d = true := List.forall_mem_cons.mpr ⟨hr, w.blank⟩
      exact ⟨⟨c :: w.chars, hblank⟩, congrArg (Rune.char c :: ·) hw⟩
    | stray b => cases hr

/-- A solid byte belongs to no white space character. -/
theorem not_mem_bytes {b : UInt8} (hb : isSolid b = true) (w : Padding) : b ∉ w.bytes := by
  intro hmem
  obtain ⟨c, hc, hbyte⟩ := List.mem_flatMap.mp hmem
  have hblank := w.blank c hc
  simp only [isSolid, Bool.and_eq_true, decide_eq_true_eq, Bool.not_eq_true'] at hb
  obtain ⟨hascii, hsolid⟩ := hb
  by_cases hlt : c.toNat < 0x80
  · rw [utf8EncodeChar_ascii hlt] at hbyte
    have hnumber : b.toNat = c.toNat := by
      rw [List.mem_singleton.mp hbyte, UInt8.toNat_ofNat']
      omega
    rw [hnumber, Char.ofNat_toNat] at hsolid
    rw [hsolid] at hblank
    cases hblank
  · have hhigh := high_of_mem_utf8EncodeChar (Nat.not_lt.mp hlt) hbyte
    omega

end Padding

variable {x y t : Bytes}

/-! ### Reading -/

theorem seam_nil_right (x : Bytes) : Seam x [] :=
  fun _ _ _ _ hv _ => Or.inr (List.prefix_nil.mp hv)

/-- No character goes on into the first byte of another. -/
theorem seam_utf8EncodeChar (x : Bytes) (c : Char) (y : Bytes) : Seam x (utf8EncodeChar c ++ y) := by
  obtain ⟨b, u, hc, hb, -⟩ := utf8EncodeChar_eq_cons c
  rw [hc]
  exact seam_cons hb x _

theorem seam_padding (x : Bytes) (w : Padding) : Seam x w.bytes := by
  obtain ⟨chars, hblank⟩ := w
  cases chars with
  | nil => exact seam_nil_right x
  | cons c cs => exact seam_utf8EncodeChar x c _

theorem runes_chars_append (cs : List Char) (t : Bytes) :
    runes (cs.flatMap utf8EncodeChar ++ t) = cs.map .char ++ runes t := by
  induction cs with
  | nil => rfl
  | cons c cs ih =>
    rw [List.flatMap_cons, List.append_assoc,
      runes_of_nextRune? (nextRune?_utf8EncodeChar_append c _), ih]
    rfl

/-- Padding is read as it is meant, on either side of any text. -/
theorem runes_padded (w w' : Padding) (t : Bytes) :
    runes (w.bytes ++ t ++ w'.bytes) = w.runes ++ runes t ++ w'.runes := by
  have hright : runes w'.bytes = w'.runes := by
    have hread := runes_chars_append w'.chars []
    rwa [runes_nil, List.append_nil, List.append_nil] at hread
  have hleft : runes (w.bytes ++ t) = w.runes ++ runes t := runes_chars_append w.chars t
  rw [runes_append (seam_padding _ w'), hleft, hright]

/-! ### Trimming -/

theorem rdropWhile_dropWhile_append {α : Type} {p : α → Bool} {front back : List α}
    (hfront : ∀ a ∈ front, p a = true) (hback : ∀ a ∈ back, p a = true) (l : List α) :
    ((front ++ l ++ back).dropWhile p).rdropWhile p = (l.dropWhile p).rdropWhile p := by
  have hrback : ∀ k : List α, (k ++ back).rdropWhile p = k.rdropWhile p := by
    intro k
    have hreverse : ∀ a ∈ back.reverse, p a = true := fun a ha => hback a (List.mem_reverse.mp ha)
    unfold List.rdropWhile
    rw [List.reverse_append, List.dropWhile_append_of_pos hreverse]
  rw [List.append_assoc, List.dropWhile_append_of_pos hfront, List.dropWhile_append]
  split
  -- If nothing is left of the middle, nothing is left of what stands behind it.
  · next hempty =>
    have hnil : back.dropWhile p = [] := List.dropWhile_eq_nil_iff.mpr hback
    rw [hnil, List.isEmpty_iff.mp hempty]
  · exact hrback _

/-- Trimming takes the padding off. -/
theorem trim_padded (w w' : Padding) (t : Bytes) : trim (w.bytes ++ t ++ w'.bytes) = trim t := by
  have hruns := runes_padded w w' t
  show Rune.concat (((runes (w.bytes ++ t ++ w'.bytes)).dropWhile Rune.isBlank).rdropWhile
    Rune.isBlank) = _
  rw [hruns, rdropWhile_dropWhile_append (fun r => Padding.isBlank_of_mem_runes)
    fun r => Padding.isBlank_of_mem_runes]
  rfl

theorem trim_append_left (w : Padding) (t : Bytes) : trim (w.bytes ++ t) = trim t := by
  have htrim := trim_padded w .none t
  rwa [Padding.bytes_none, List.append_nil] at htrim

theorem trim_append_right (w : Padding) (t : Bytes) : trim (t ++ w.bytes) = trim t := by
  have htrim := trim_padded .none w t
  rwa [Padding.bytes_none, List.nil_append] at htrim

/-- A text is what trimming leaves of it, with padding around. -/
theorem exists_padded_trim (t : Bytes) :
    ∃ w w' : Padding, t = w.bytes ++ trim t ++ w'.bytes := by
  obtain ⟨front, back, hrunes, hfront, hback⟩ := exists_runes_eq_trim t
  obtain ⟨w, rfl⟩ := Padding.exists_runes_eq hfront
  obtain ⟨w', rfl⟩ := Padding.exists_runes_eq hback
  have hconcat := congrArg Rune.concat hrunes
  rw [Rune.concat_append, Rune.concat_append, concat_runes, concat_runes, w.concat_runes,
    w'.concat_runes] at hconcat
  exact ⟨w, w', hconcat⟩

/-! ### Bare texts -/

/-- A text that neither begins nor ends with a white space character, read as bytes. -/
structure Bare (t : Bytes) : Prop where
  front : ∀ c, isBlank c = true → ¬ utf8EncodeChar c <+: t
  back : ∀ c, isBlank c = true → ¬ utf8EncodeChar c <:+ t

theorem bare_trim (t : Bytes) : Bare (trim t) := by
  -- White space at an end of it would be trimmed, but trimming again does nothing.
  have hle : ∀ m, trim t = trim m → (trim t).length ≤ m.length := by
    intro m hm
    rw [hm]
    exact (isInfix_trim m).length_le
  constructor
  · rintro c hc ⟨m, hm⟩
    have hpos := c.utf8Size_pos
    have htrim : trim t = trim m := by
      rw [← trim_trim t, ← hm]
      rw [← Padding.bytes_single hc, trim_append_left]
    have hlen := hle m htrim
    rw [← hm, List.length_append, String.length_utf8EncodeChar] at hlen
    omega
  · rintro c hc ⟨m, hm⟩
    have hpos := c.utf8Size_pos
    have htrim : trim t = trim m := by
      rw [← trim_trim t, ← hm]
      rw [← Padding.bytes_single hc, trim_append_right]
    have hlen := hle m htrim
    rw [← hm, List.length_append, String.length_utf8EncodeChar] at hlen
    omega

/-- Nothing is trimmed off a bare text. -/
theorem Bare.trim_eq (h : Bare t) : trim t = t := by
  obtain ⟨⟨front, hfront⟩, ⟨back, hback⟩, ht⟩ := exists_padded_trim t
  have hnofront : front = [] := by
    cases front with
    | nil => rfl
    | cons c cs =>
      apply absurd _ (h.front c (hfront c (List.mem_cons_self ..)))
      rw [ht, Padding.bytes, List.flatMap_cons, List.append_assoc, List.append_assoc]
      exact List.prefix_append ..
  have hnoback : back = [] := by
    rcases List.eq_nil_or_concat back with hnil | ⟨cs, c, hconcat⟩
    · exact hnil
    · apply absurd _ (h.back c (hback c (by simp [hconcat])))
      rw [ht]
      refine ⟨Padding.bytes ⟨front, hfront⟩ ++ trim t ++ cs.flatMap utf8EncodeChar, ?_⟩
      simp [Padding.bytes, hconcat]
  subst hnofront hnoback
  simpa [Padding.bytes] using ht.symm

/-- **What trimming leaves of a text** is what is bare between two paddings. -/
theorem trim_eq_iff {m : Bytes} :
    trim t = m ↔ Bare m ∧ ∃ w w' : Padding, t = w.bytes ++ m ++ w'.bytes := by
  constructor
  · rintro rfl
    exact ⟨bare_trim t, exists_padded_trim t⟩
  · rintro ⟨hbare, w, w', rfl⟩
    rw [trim_padded, hbare.trim_eq]

/-! ### Words -/

theorem infix_append_left_iff {word : Bytes} {a : UInt8} (hword : word.head? = some a)
    (ha : a ∉ x) : word <:+: x ++ y ↔ word <:+: y := by
  constructor
  · intro h
    rcases List.infix_append_iff.mp h with hx | hy | ⟨u, v, rfl, hu, hv⟩
    · exact absurd (hx.mem (List.mem_of_head? hword)) ha
    · exact hy
    · cases u with
      | nil => exact hv.isInfix
      | cons b u =>
        obtain rfl : b = a := Option.some.inj hword
        exact absurd (hu.mem (List.mem_cons_self ..)) ha
  · intro h
    exact h.trans (List.suffix_append x y).isInfix

theorem infix_append_right_iff {word : Bytes} {e : UInt8} (hword : word.getLast? = some e)
    (he : e ∉ y) : word <:+: x ++ y ↔ word <:+: x := by
  have hhead : word.reverse.head? = some e := by rw [List.head?_reverse, hword]
  have hreverse : word.reverse <:+: y.reverse ++ x.reverse ↔ word.reverse <:+: x.reverse :=
    infix_append_left_iff hhead fun h => he (List.mem_reverse.mp h)
  rwa [← List.reverse_append, List.reverse_infix, List.reverse_infix] at hreverse

/-- A word between solid bytes is not found across the border of a padding. -/
theorem containsWord_padded (word : Bytes) {a e : UInt8} (hhead : word.head? = some a)
    (hlast : word.getLast? = some e) (ha : isSolid a = true) (he : isSolid e = true)
    (w w' : Padding) (t : Bytes) :
    Bytes.containsWord word (w.bytes ++ t ++ w'.bytes) = Bytes.containsWord word t := by
  rw [Bool.eq_iff_iff, Bytes.containsWord_iff, Bytes.containsWord_iff,
    infix_append_right_iff hlast (w'.not_mem_bytes he),
    infix_append_left_iff hhead (w.not_mem_bytes ha)]

end NodeScript
