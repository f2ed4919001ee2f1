/-
  Words in texts.

  Trimming does nothing to a text that begins and ends with solid bytes, whatever
  stands between them (`trim_eq_self`), nor to one that was trimmed already, whether
  it is well-formed or not (`trim_trim`). What it leaves is a part of the text
  (`isInfix_trim`), with a solid byte at its head if the text has one there
  (`head?_trim`). Searching for a word is a question about infixes (`containsWord_iff`),
  and a byte that the word does not have divides the search (`containsWord_append_cons`).
  A numeral spells the number that it was written for (`digitsValue_ofNat`), so different
  numbers have different numerals (`ofInt_injective`).
-/
import NodeScript.Text.Blank
import NodeScript.Proofs.Text.Runes
import Mathlib.Data.List.DropRight

namespace NodeScript

/-! ### Trimming -/

/-- Whether a byte is an ASCII character other than white space. -/
def isSolid (b : UInt8) : Bool := b.toNat < 0x80 && !isBlank (Char.ofNat b.toNat)

/-- Nothing is trimmed in front of a solid byte. -/
theorem dropWhile_runes_of_head {b : UInt8} {s : Bytes} (hs : s.head? = some b)
    (hb : isSolid b) : (runes s).dropWhile Rune.isBlank = runes s := by
  obtain ⟨t, rfl⟩ := List.head?_eq_some_iff.mp hs
  simp only [isSolid, Bool.and_eq_true, decide_eq_true_eq, Bool.not_eq_true'] at hb
  rw [runes_ascii_cons hb.1, List.dropWhile_cons_of_neg]
  simp [Rune.isBlank, hb.2]

/-- Nothing is trimmed behind a solid byte. -/
theorem dropWhile_reverse_runes_of_getLast {b : UInt8} {s : Bytes} (hs : s.getLast? = some b)
    (hb : isSolid b) : (runes s).reverse.dropWhile Rune.isBlank = (runes s).reverse := by
  obtain ⟨t, rfl⟩ := List.getLast?_eq_some_iff.mp hs
  simp only [isSolid, Bool.and_eq_true, decide_eq_true_eq, Bool.not_eq_true'] at hb
  rw [runes_concat_ascii hb.1, List.reverse_append, List.reverse_singleton,
    List.singleton_append, List.dropWhile_cons_of_neg]
  simp [Rune.isBlank, hb.2]

/-- A text between solid bytes is trimmed already. -/
theorem trim_eq_self {b e : UInt8} {s : Bytes} (hhead : s.head? = some b)
    (hlast : s.getLast? = some e) (hb : isSolid b) (he : isSolid e) : trim s = s := by
  unfold trim
  rw [dropWhile_runes_of_head hhead hb, dropWhile_reverse_runes_of_getLast hlast he,
    List.reverse_reverse, concat_runes]

/-- What trimming leaves of a text is read as it was read in the text: no bytes at
its ends make up other characters once the white space is gone. -/
theorem runes_trim (s : Bytes) :
    runes (trim s) = ((runes s).dropWhile Rune.isBlank).rdropWhile Rune.isBlank := by
  obtain ⟨front, hfront⟩ := List.dropWhile_suffix (l := runes s) Rune.isBlank
  obtain ⟨back, hback⟩ := List.rdropWhile_prefix Rune.isBlank ((runes s).dropWhile Rune.isBlank)
  obtain ⟨-, hrest⟩ := runes_concat_of_append hfront.symm
  exact runes_concat_of_append_left (hrest.trans hback.symm)

/-- Nothing more can be dropped in front of what is left, nor of a beginning of it. -/
theorem dropWhile_of_prefix_dropWhile {p : Rune → Bool} {l k : List Rune}
    (h : k <+: l.dropWhile p) : k.dropWhile p = k := by
  cases k with
  | nil => rfl
  | cons r k =>
    obtain ⟨t, ht⟩ := h
    have hr : p r = false := by
      have hhead := List.head?_dropWhile_not p l
      rw [← ht] at hhead
      exact hhead
    rw [List.dropWhile_cons_of_neg (by simp [hr])]

/-- Trimming twice is trimming once. -/
theorem trim_trim (s : Bytes) : trim (trim s) = trim s := by
  have hleft := dropWhile_of_prefix_dropWhile (List.rdropWhile_prefix Rune.isBlank
    ((runes s).dropWhile Rune.isBlank))
  show Rune.concat (((runes (trim s)).dropWhile Rune.isBlank).rdropWhile Rune.isBlank) = _
  rw [runes_trim, hleft, List.rdropWhile_idempotent]
  rfl

/-- The runes of a text are those that trimming leaves, between blank ones. -/
theorem exists_runes_eq_trim (s : Bytes) :
    ∃ front back, runes s = front ++ runes (trim s) ++ back ∧
      (∀ r ∈ front, r.isBlank = true) ∧ ∀ r ∈ back, r.isBlank = true := by
  set rest := (runes s).dropWhile Rune.isBlank with hrest
  have hfront : (runes s).takeWhile Rune.isBlank ++ rest = runes s :=
    List.takeWhile_append_dropWhile
  have hback : rest.rdropWhile Rune.isBlank ++ rest.rtakeWhile Rune.isBlank = rest :=
    List.rdropWhile_append_rtakeWhile ..
  refine ⟨(runes s).takeWhile Rune.isBlank, rest.rtakeWhile Rune.isBlank, ?_, ?_, ?_⟩
  · rw [runes_trim, ← hrest, List.append_assoc, hback, hfront]
  · exact List.all_eq_true.mp List.all_takeWhile
  · exact fun r hr => List.mem_rtakeWhile_imp hr

theorem isInfix_trim (s : Bytes) : trim s <:+: s := by
  obtain ⟨front, back, hrunes, -, -⟩ := exists_runes_eq_trim s
  refine ⟨Rune.concat front, Rune.concat back, ?_⟩
  have hconcat := congrArg Rune.concat hrunes
  rw [Rune.concat_append, Rune.concat_append, concat_runes, concat_runes] at hconcat
  exact hconcat.symm

theorem exists_rdropWhile_cons {p : Rune → Bool} {r : Rune} (hr : p r = false) (rs : List Rune) :
    ∃ kept, (r :: rs).rdropWhile p = r :: kept := by
  obtain ⟨back, hback⟩ := List.rdropWhile_prefix p (r :: rs)
  cases hkept : (r :: rs).rdropWhile p with
  | nil =>
    have hall := List.rdropWhile_eq_nil_iff.mp hkept r (List.mem_cons_self ..)
    rw [hr] at hall
    cases hall
  | cons r' kept =>
    rw [hkept, List.cons_append] at hback
    rw [(List.cons.inj hback).1]
    exact ⟨kept, rfl⟩

/-- A solid byte at the head of a text stays there. -/
theorem head?_trim {b : UInt8} {s : Bytes} (hs : s.head? = some b) (hb : isSolid b) :
    (trim s).head? = some b := by
  obtain ⟨t, rfl⟩ := List.head?_eq_some_iff.mp hs
  have hdrop := dropWhile_runes_of_head hs hb
  simp only [isSolid, Bool.and_eq_true, decide_eq_true_eq, Bool.not_eq_true'] at hb
  obtain ⟨hascii, hsolid⟩ := hb
  -- The byte is a rune of its own, and no white space.
  set r : Rune := .char (Char.ofNat b.toNat)
  have hbytes : r.bytes = [b] := by
    have hread := concat_runes [b]
    rw [runes_ascii_cons hascii, runes_nil] at hread
    simpa [Rune.concat] using hread
  obtain ⟨kept, hkept⟩ := exists_rdropWhile_cons (p := Rune.isBlank) (r := r) hsolid (runes t)
  have hrunes := runes_trim (b :: t)
  rw [hdrop, runes_ascii_cons hascii, hkept] at hrunes
  rw [← concat_runes (trim (b :: t)), hrunes, Rune.concat, List.flatMap_cons, hbytes]
  rfl

namespace Bytes

/-! ### Searching -/

/-- A text contains the words that are infixes of it. -/
theorem containsWord_iff {w s : Bytes} : containsWord w s ↔ w <:+: s := by
  induction s with
  | nil => simp [containsWord]
  | cons b s ih =>
    rw [containsWord, Bool.or_eq_true, ih, List.isPrefixOf_iff_prefix, List.infix_cons_iff]

/-- Where a byte that the word does not have stands, the word is on one side of it
or on the other. -/
theorem containsWord_append_cons {w : Bytes} {b : UInt8} (hb : b ∉ w) (x y : Bytes) :
    containsWord w (x ++ b :: y) = (containsWord w x || containsWord w y) := by
  -- No beginning of what starts with the byte can be a part of the word, unless it
  -- is empty.
  have hnil : ∀ {v : Bytes}, v <:+: w → v <+: b :: y → v = [] := by
    intro v hv hpre
    rcases List.prefix_cons_iff.mp hpre with rfl | ⟨t, rfl, -⟩
    · rfl
    · exact absurd (hv.subset (List.mem_cons_self ..)) hb
  rw [Bool.eq_iff_iff, Bool.or_eq_true]
  simp only [containsWord_iff]
  rw [List.infix_append_iff, List.infix_cons_iff]
  constructor
  · rintro (hx | (hpre | hy) | ⟨u, v, rfl, hu, hv⟩)
    · exact .inl hx
    · rw [hnil List.infix_rfl hpre]
      exact .inl List.nil_infix
    · exact .inr hy
    · rw [hnil (List.suffix_append u v).isInfix hv, List.append_nil]
      exact .inl hu.isInfix
  · rintro (hx | hy)
    · exact .inl hx
    · exact .inr (.inl (.inr hy))

/-! ### Numerals -/

/-- The byte of a digit is its character. -/
theorem toNat_toUInt8_of_isDigit {c : Char} (h : c.isDigit) :
    c.toNat.toUInt8.toNat = c.toNat := by
  have hle : c.toNat ≤ 57 := (Char.isDigit_iff_toNat.mp h).2
  exact Nat.mod_eq_of_lt (by omega)

theorem isDigit_of_mem_ofNat {n : Nat} {b : UInt8} (h : b ∈ ofNat n) : isDigit b := by
  obtain ⟨c, hc, rfl⟩ := List.mem_map.mp h
  have hdigit := Nat.isDigit_of_mem_toDigits (by decide) (by decide) hc
  obtain ⟨hge, hle⟩ := Char.isDigit_iff_toNat.mp hdigit
  simp only [isDigit, Bool.and_eq_true, decide_eq_true_eq, UInt8.le_iff_toNat_le,
    toNat_toUInt8_of_isDigit hdigit]
  exact ⟨hge, hle⟩

theorem ofNat_ne_nil (n : Nat) : ofNat n ≠ [] := by
  simp [ofNat]

/-- The bytes of digits spell what the digits do. -/
theorem foldl_toUInt8_eq_ofDigitChars {cs : List Char} (h : ∀ c ∈ cs, c.isDigit) (n : Nat) :
    (cs.map fun c => c.toNat.toUInt8).foldl (fun n d => 10 * n + (d.toNat - 48)) n =
      Nat.ofDigitChars 10 cs n := by
  induction cs generalizing n with
  | nil => rfl
  | cons c cs ih =>
    rw [List.map_cons, List.foldl_cons, ih fun d hd => h d (List.mem_cons_of_mem _ hd),
      toNat_toUInt8_of_isDigit (h c (List.mem_cons_self ..)), Nat.ofDigitChars_cons]
    rfl

/-- A numeral spells its number. -/
theorem digitsValue_ofNat (n : Nat) : digitsValue (ofNat n) = n := by
  unfold digitsValue ofNat
  rw [foldl_toUInt8_eq_ofDigitChars, Nat.ofDigitChars_ten_toDigits]
  intro c hc
  exact Nat.isDigit_of_mem_toDigits (by decide) (by decide) hc

theorem not_mem_ofNat {b : UInt8} (hb : isDigit b = false) (n : Nat) : b ∉ ofNat n := by
  intro h
  rw [isDigit_of_mem_ofNat h] at hb
  cases hb

/-- A numeral has no bytes but digits and the minus sign. -/
theorem not_mem_ofInt {b : UInt8} (hminus : b ≠ hyphen) (hb : isDigit b = false) (n : Int) :
    b ∉ ofInt n := by
  cases n with
  | ofNat n => exact not_mem_ofNat hb n
  | negSucc n =>
    intro h
    rcases List.mem_cons.mp h with h | h
    · exact hminus h
    · exact not_mem_ofNat hb _ h

theorem ofNat_injective : Function.Injective ofNat :=
  Function.LeftInverse.injective digitsValue_ofNat

theorem ofInt_injective : Function.Injective ofInt := by
  -- The minus sign is not a digit, so numerals of different signs differ.
  have hsign : ∀ m n, ofNat m ≠ hyphen :: ofNat n := by
    intro m n h
    refine not_mem_ofNat (b := hyphen) (by decide) m ?_
    rw [h]
    exact List.mem_cons_self ..
  intro m n h
  cases m with
  | ofNat m =>
    cases n with
    | ofNat n => rw [ofNat_injective h]
    | negSucc n => exact absurd h (hsign m (n + 1))
  | negSucc m =>
    cases n with
    | ofNat n => exact absurd h.symm (hsign n (m + 1))
    | negSucc n => rw [Nat.succ.inj (ofNat_injective (List.cons.inj h).2)]

end Bytes

end NodeScript
