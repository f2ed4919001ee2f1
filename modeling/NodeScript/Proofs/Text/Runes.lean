/-
  The reading of a byte string as runes.

  Reading loses nothing (`concat_runes`), and it can be cut into pieces wherever
  the cut does not go through a character (`runes_append`). Such a cut is called
  a seam. Two kinds of cuts are seams whatever the bytes are: those beside a byte
  below `0x80` (`seam_cons_ascii`, `seam_concat_ascii`), and those that reading
  itself makes between two runes (`Seam.read`).

  All delimiters of the language are ASCII. A rune that reading can give
  (`Rune.IsRead`) is a delimiter exactly if its only byte is, and no other rune
  has a byte below `0x80` (`Rune.IsRead.ascii_or_high`), which is why a search
  for delimiters finds the same places rune by rune as byte by byte.
-/
import NodeScript.Proofs.Text.Encoding
import Mathlib.Tactic.ByContra

namespace NodeScript

open String (utf8EncodeChar)

/-! ### One rune -/

theorem Rune.bytes_ne_nil (r : Rune) : r.bytes ≠ [] := by
  cases r with
  | char c =>
    obtain ⟨b, t, h, -⟩ := utf8EncodeChar_eq_cons c
    simp [Rune.bytes, h]
  | stray b => simp [Rune.bytes]

theorem nextRune?_utf8EncodeChar_append (c : Char) (t : Bytes) :
    nextRune? (utf8EncodeChar c ++ t) = some (.char c, t) := by
  have hc := leadingChar?_utf8EncodeChar_append c t
  have hdrop : (utf8EncodeChar c ++ t).drop c.utf8Size = t := by
    rw [← String.length_utf8EncodeChar c, List.drop_left]
  obtain ⟨b, u, hu, -⟩ := utf8EncodeChar_eq_cons c
  rw [hu, List.cons_append] at hc hdrop ⊢
  rw [nextRune?, hc]
  simp only [hdrop]

theorem nextRune?_of_leadingChar?_eq_none {b : UInt8} {t : Bytes}
    (h : leadingChar? (b :: t) = none) : nextRune? (b :: t) = some (.stray b, t) := by
  rw [nextRune?, h]

/-- What the next rune can be: a character whose bytes stand in front, or a byte
at which no character begins. -/
theorem nextRune?_cases {s rest : Bytes} {r : Rune} (h : nextRune? s = some (r, rest)) :
    (∃ c, r = .char c ∧ s = utf8EncodeChar c ++ rest) ∨
    (∃ b, r = .stray b ∧ s = b :: rest ∧ leadingChar? s = none) := by
  cases s with
  | nil => simp [nextRune?] at h
  | cons b t =>
    cases hc : leadingChar? (b :: t) with
    | none =>
      rw [nextRune?_of_leadingChar?_eq_none hc] at h
      simp only [Option.some.injEq, Prod.mk.injEq] at h
      obtain ⟨rfl, rfl⟩ := h
      exact Or.inr ⟨b, rfl, rfl, rfl⟩
    | some c =>
      obtain ⟨u, hu⟩ := leadingChar?_eq_some_iff.mp hc
      rw [← hu, nextRune?_utf8EncodeChar_append] at h
      simp only [Option.some.injEq, Prod.mk.injEq] at h
      obtain ⟨rfl, rfl⟩ := h
      exact Or.inl ⟨c, rfl, hu.symm⟩

/-- Reading a rune takes its bytes off the front. -/
theorem eq_append_of_nextRune? {s rest : Bytes} {r : Rune} (h : nextRune? s = some (r, rest)) :
    s = r.bytes ++ rest := by
  rcases nextRune?_cases h with ⟨c, rfl, rfl⟩ | ⟨b, rfl, rfl, -⟩ <;> rfl

theorem nextRune?_eq_none_iff {s : Bytes} : nextRune? s = none ↔ s = [] := by
  constructor
  · intro h
    cases s with
    | nil => rfl
    | cons b t => rw [nextRune?] at h; split at h <;> cases h
  · rintro rfl; rfl

theorem exists_nextRune? {s : Bytes} (h : s ≠ []) : ∃ r rest, nextRune? s = some (r, rest) := by
  cases hr : nextRune? s with
  | none => exact absurd (nextRune?_eq_none_iff.mp hr) h
  | some p => exact ⟨p.1, p.2, rfl⟩

/-! ### ASCII -/

/-- Where the next byte is below `0x80`, it is the next rune. -/
theorem nextRune?_ascii {b : UInt8} (h : b.toNat < 0x80) (t : Bytes) :
    nextRune? (b :: t) = some (.char (Char.ofNat b.toNat), t) := by
  have hv : b.toNat.isValidChar := by unfold Nat.isValidChar; omega
  have henc : utf8EncodeChar (Char.ofNat b.toNat) = [b] := by
    rw [utf8EncodeChar_ascii (by rw [toNat_ofNat_of_isValidChar hv]; exact h),
      toNat_ofNat_of_isValidChar hv, UInt8.ofNat_toNat]
  have := nextRune?_utf8EncodeChar_append (Char.ofNat b.toNat) t
  rwa [henc] at this

/-- What reading can give: a stray byte is never one below `0x80`. -/
def Rune.IsRead : Rune → Prop
  | .char _ => True
  | .stray b => 0x80 ≤ b.toNat

theorem isRead_of_nextRune? {s rest : Bytes} {r : Rune} (h : nextRune? s = some (r, rest)) :
    r.IsRead := by
  rcases nextRune?_cases h with ⟨c, rfl, -⟩ | ⟨b, rfl, rfl, hb⟩
  · trivial
  · show 0x80 ≤ b.toNat
    by_contra hlt
    rw [leadingChar?_of_one (by omega)] at hb
    cases hb

/-- A rune is one byte below `0x80`, or has no such byte. -/
theorem Rune.IsRead.ascii_or_high {r : Rune} (h : r.IsRead) :
    (∃ c : Char, c.toNat < 0x80 ∧ r = .char c ∧ r.bytes = [UInt8.ofNat c.toNat]) ∨
    ∀ b ∈ r.bytes, 0x80 ≤ b.toNat := by
  cases r with
  | char c =>
    by_cases hc : c.toNat < 0x80
    · exact Or.inl ⟨c, hc, rfl, utf8EncodeChar_ascii hc⟩
    · exact Or.inr fun b hb => high_of_mem_utf8EncodeChar (by omega) hb
  | stray b =>
    refine Or.inr fun x hx => ?_
    obtain rfl := List.mem_singleton.mp hx
    exact h

/-- A rune is the delimiter `c` exactly if its bytes are those of `c`. -/
theorem Rune.IsRead.is_iff {r : Rune} (h : r.IsRead) {c : Char} (hc : c.toNat < 0x80) :
    r.is c = true ↔ r.bytes = [UInt8.ofNat c.toNat] := by
  have hb : (UInt8.ofNat c.toNat).toNat = c.toNat := by
    rw [UInt8.toNat_ofNat']; omega
  unfold Rune.is
  rw [decide_eq_true_eq]
  constructor
  · rintro rfl
    exact utf8EncodeChar_ascii hc
  · intro hr
    rcases h.ascii_or_high with ⟨d, hd, rfl, hdb⟩ | hhigh
    · have hd8 : (UInt8.ofNat d.toNat).toNat = d.toNat := by
        rw [UInt8.toNat_ofNat']; omega
      have : d.toNat = c.toNat := by
        rw [← hd8, ← hb, List.singleton_inj.mp (hdb.symm.trans hr)]
      rw [← Char.ofNat_toNat d, this, Char.ofNat_toNat]
    · have := hhigh (UInt8.ofNat c.toNat) (by rw [hr]; exact List.mem_singleton.mpr rfl)
      omega

/-- The byte of a delimiter stands in no other rune. -/
theorem Rune.IsRead.mem_bytes_iff {r : Rune} (h : r.IsRead) {c : Char} (hc : c.toNat < 0x80) :
    UInt8.ofNat c.toNat ∈ r.bytes ↔ r.is c = true := by
  rw [h.is_iff hc]
  constructor
  · intro hmem
    rcases h.ascii_or_high with ⟨d, -, -, hd⟩ | hhigh
    · rw [hd] at hmem ⊢
      rw [List.mem_singleton.mp hmem]
    · have := hhigh _ hmem
      rw [UInt8.toNat_ofNat'] at this
      omega
  · intro hb
    rw [hb]
    exact List.mem_singleton.mpr rfl

/-! ### All runes -/

@[simp]
theorem runes_nil : runes [] = [] := by
  rw [runes]; rfl

theorem runes_of_nextRune? {s rest : Bytes} {r : Rune} (h : nextRune? s = some (r, rest)) :
    runes s = r :: runes rest := by
  rw [runes]
  split
  · next h' => rw [h] at h'; cases h'
  · next r' rest' h' =>
    rw [h] at h'
    simp only [Option.some.injEq, Prod.mk.injEq] at h'
    rw [h'.1, h'.2]

/-- To show something of every byte string, it is enough to show it of the empty
one and to go back over one rune at a time. -/
theorem rune_induction {P : Bytes → Prop} (nil : P [])
    (read : ∀ r s rest, nextRune? s = some (r, rest) → P rest → P s) (s : Bytes) : P s := by
  generalize hn : s.length = n
  induction n using Nat.strongRecOn generalizing s with
  | ind n ih =>
    by_cases hs : s = []
    · rw [hs]; exact nil
    · obtain ⟨r, rest, h⟩ := exists_nextRune? hs
      have hlt := length_lt_of_nextRune? h
      exact read r s rest h (ih rest.length (by omega) rest rfl)

theorem Rune.concat_append (l l' : List Rune) : concat (l ++ l') = concat l ++ concat l' :=
  List.flatMap_append

/-- **Reading loses nothing.** -/
@[simp]
theorem concat_runes (s : Bytes) : Rune.concat (runes s) = s := by
  induction s using rune_induction with
  | nil => rw [runes_nil]; rfl
  | read r s rest h ih =>
    rw [runes_of_nextRune? h]
    show r.bytes ++ Rune.concat (runes rest) = s
    rw [ih, ← eq_append_of_nextRune? h]

theorem isRead_of_mem_runes {s : Bytes} {r : Rune} (h : r ∈ runes s) : r.IsRead := by
  induction s using rune_induction with
  | nil => rw [runes_nil] at h; cases h
  | read r' s rest hn ih =>
    rw [runes_of_nextRune? hn] at h
    rcases List.mem_cons.mp h with rfl | h
    · exact isRead_of_nextRune? hn
    · exact ih h

/-- Where a delimiter does not stand as a byte, it is not among the runes. -/
theorem is_eq_false_of_mem_runes {s : Bytes} {c : Char} (hc : c.toNat < 0x80)
    (h : UInt8.ofNat c.toNat ∉ s) {r : Rune} (hr : r ∈ runes s) : r.is c = false := by
  rw [Bool.eq_false_iff, Ne, ← (isRead_of_mem_runes hr).mem_bytes_iff hc]
  intro hb
  apply h
  rw [← concat_runes s]
  exact List.mem_flatMap.mpr ⟨r, hr, hb⟩

/-- The runes from some point on are the runes of the bytes from that point on. -/
theorem runes_concat_of_append {s : Bytes} {l l' : List Rune} (h : runes s = l ++ l') :
    s = Rune.concat l ++ Rune.concat l' ∧ runes (Rune.concat l') = l' := by
  refine ⟨by rw [← concat_runes s, h, Rune.concat_append], ?_⟩
  induction l generalizing s with
  | nil => rw [List.nil_append] at h; rw [← h, concat_runes]
  | cons r l ih =>
    obtain ⟨r', rest, hn⟩ : ∃ r' rest, nextRune? s = some (r', rest) := by
      apply exists_nextRune?
      rintro rfl
      simp at h
    rw [runes_of_nextRune? hn, List.cons_append] at h
    exact ih (List.cons.inj h).2

/-! ### Seams -/

/-- A cut that goes through no character: no bytes at the end of `x` and at the
beginning of `y` make up a character together. -/
def Seam (x y : Bytes) : Prop :=
  ∀ (c : Char) (u v : Bytes), u <:+ x → v <+: y → u ++ v = utf8EncodeChar c → u = [] ∨ v = []

theorem Seam.mono {x x' y y' : Bytes} (h : Seam x y) (hx : x' <:+ x) (hy : y' <+: y) :
    Seam x' y' :=
  fun c u v hu hv => h c u v (hu.trans hx) (hv.trans hy)

theorem seam_nil_left (y : Bytes) : Seam [] y :=
  fun _ _ _ hu _ _ => Or.inl (List.suffix_nil.mp hu)

/-- No character goes on with a byte that does not continue one. -/
theorem seam_cons {b : UInt8} (h : b.toNat / 64 ≠ 2) (x y : Bytes) : Seam x (b :: y) := by
  intro c u v _ hv huv
  obtain ⟨d, t, hc, -, ht⟩ := utf8EncodeChar_eq_cons c
  rw [hc] at huv
  cases u with
  | nil => exact Or.inl rfl
  | cons e u =>
    right
    cases v with
    | nil => rfl
    | cons a v =>
      obtain rfl := (List.cons_prefix_cons.mp hv).1
      have : a ∈ t := by
        rw [← (List.cons.inj huv).2]
        exact List.mem_append_right _ (List.mem_cons_self ..)
      exact absurd (ht a this) h

theorem seam_cons_ascii {b : UInt8} (h : b.toNat < 0x80) (x y : Bytes) : Seam x (b :: y) :=
  seam_cons (by omega) x y

/-- A byte below `0x80` is a character of its own, so none goes on behind it. -/
theorem seam_concat_ascii {b : UInt8} (h : b.toNat < 0x80) (x y : Bytes) :
    Seam (x ++ [b]) y := by
  intro c u v hu _ huv
  rcases List.eq_nil_or_concat u with rfl | ⟨w, a, rfl⟩
  · exact Or.inl rfl
  · right
    rw [List.concat_eq_append] at hu huv
    obtain ⟨z, hz⟩ := hu
    rw [← List.append_assoc] at hz
    obtain rfl : a = b := List.singleton_inj.mp (List.append_inj' hz rfl).2
    have hmem : a ∈ utf8EncodeChar c := by rw [← huv]; simp
    have hc : c.toNat < 0x80 := by
      by_contra hlt
      have := high_of_mem_utf8EncodeChar (by omega) hmem
      omega
    have hlen := congrArg List.length huv
    rw [utf8EncodeChar_ascii hc] at hlen
    simp only [List.length_append, List.length_cons, List.length_nil] at hlen
    exact List.eq_nil_of_length_eq_zero (by omega)

/-- The next rune is not the beginning of a longer character. -/
theorem eq_nil_of_bytes_append {y rest v : Bytes} {r : Rune} {c : Char}
    (hr : nextRune? y = some (r, rest)) (hv : v <+: rest) (h : r.bytes ++ v = utf8EncodeChar c) :
    v = [] := by
  have hc : utf8EncodeChar c <+: y := by
    rw [← h, eq_append_of_nextRune? hr]
    exact (List.prefix_append_right_inj r.bytes).mpr hv
  obtain ⟨t, rfl⟩ := hc
  rw [nextRune?_utf8EncodeChar_append] at hr
  simp only [Option.some.injEq, Prod.mk.injEq] at hr
  obtain ⟨rfl, -⟩ := hr
  exact List.append_right_eq_self.mp h

/-- A rune with more than one byte goes on with continuation bytes, and no
character begins with one. -/
theorem eq_nil_of_suffix_bytes {r : Rune} {z u v : Bytes} {c : Char} (hz : z ≠ [])
    (h : z ++ u = r.bytes) (huv : u ++ v = utf8EncodeChar c) : u = [] := by
  by_contra hu
  obtain ⟨a, z, rfl⟩ := List.exists_cons_of_ne_nil hz
  obtain ⟨e, u, rfl⟩ := List.exists_cons_of_ne_nil hu
  cases r with
  | stray b => simp [Rune.bytes] at h
  | char d =>
    obtain ⟨b, t, hd, -, ht⟩ := utf8EncodeChar_eq_cons d
    obtain ⟨b', t', hc, hb', -⟩ := utf8EncodeChar_eq_cons c
    rw [Rune.bytes, hd, List.cons_append] at h
    rw [hc, List.cons_append] at huv
    obtain rfl := (List.cons.inj huv).1
    apply hb' (ht e _)
    rw [← (List.cons.inj h).2]
    exact List.mem_append_right _ (List.mem_cons_self ..)

/-- Reading a rune off `y` moves a seam behind that rune. -/
theorem Seam.read {x y rest : Bytes} {r : Rune} (h : Seam x y)
    (hr : nextRune? y = some (r, rest)) : Seam (x ++ r.bytes) rest := by
  intro c u v hu hv huv
  rcases List.suffix_or_suffix_of_suffix hu (List.suffix_append x r.bytes) with
    ⟨z, hz⟩ | ⟨w, rfl⟩
  -- The character would begin with the rune or inside it.
  · by_cases hz0 : z = []
    · rw [hz0, List.nil_append] at hz
      exact Or.inr (eq_nil_of_bytes_append hr hv (hz ▸ huv))
    · exact Or.inl (eq_nil_of_suffix_bytes hz0 hz huv)
  -- The character would begin in `x` and go on at least to the end of the rune.
  · have hw : w <:+ x := by
      obtain ⟨z, hz⟩ := hu
      rw [← List.append_assoc] at hz
      exact ⟨z, List.append_cancel_right hz⟩
    have hrv : r.bytes ++ v <+: y := by
      rw [eq_append_of_nextRune? hr]
      exact (List.prefix_append_right_inj r.bytes).mpr hv
    rcases h c w (r.bytes ++ v) hw hrv (by rw [← huv, List.append_assoc]) with rfl | hnil
    · exact Or.inr (eq_nil_of_bytes_append hr hv huv)
    · exact absurd (List.append_eq_nil_iff.mp hnil).1 r.bytes_ne_nil

/-- In front of a seam, the next rune is the same as without what follows. -/
theorem nextRune?_append_of_seam {x y : Bytes} (hx : x ≠ []) (h : Seam x y) :
    ∃ r rest, nextRune? x = some (r, rest) ∧ nextRune? (x ++ y) = some (r, rest ++ y) := by
  obtain ⟨b, t, rfl⟩ := List.exists_cons_of_ne_nil hx
  cases hc : leadingChar? (b :: t ++ y) with
  | none =>
    have hn : leadingChar? (b :: t) = none := by
      rw [Option.eq_none_iff_forall_ne_some]
      intro c hs
      have := (leadingChar?_eq_some_iff.mp hs).trans (List.prefix_append _ y)
      rw [leadingChar?_eq_some_iff.mpr this] at hc
      cases hc
    exact ⟨_, _, nextRune?_of_leadingChar?_eq_none hn, nextRune?_of_leadingChar?_eq_none hc⟩
  | some c =>
    have hpre := leadingChar?_eq_some_iff.mp hc
    rcases List.prefix_or_prefix_of_prefix hpre (List.prefix_append (b :: t) y) with
      ⟨u, hu⟩ | ⟨v, hv⟩
    · rw [← hu, List.append_assoc]
      exact ⟨_, _, nextRune?_utf8EncodeChar_append c u,
        nextRune?_utf8EncodeChar_append c (u ++ y)⟩
    -- All of `x` belongs to the character, so at a seam `x` is the character.
    · have hvy : v <+: y := by
        rw [← hv] at hpre
        exact (List.prefix_append_right_inj _).mp hpre
      rcases h c (b :: t) v List.suffix_rfl hvy hv with hnil | rfl
      · cases hnil
      · rw [List.append_nil] at hv
        have h₁ := nextRune?_utf8EncodeChar_append c []
        have h₂ := nextRune?_utf8EncodeChar_append c y
        rw [List.append_nil] at h₁
        rw [hv]
        exact ⟨_, _, h₁, h₂⟩

/-- **At a seam, reading can be cut.** -/
theorem runes_append {x y : Bytes} (h : Seam x y) : runes (x ++ y) = runes x ++ runes y := by
  induction x using rune_induction with
  | nil => rw [runes_nil, List.nil_append, List.nil_append]
  | read r x rest hr ih =>
    have hx : x ≠ [] := fun hx => by rw [hx] at hr; cases hr
    obtain ⟨r', rest', hr', hry⟩ := nextRune?_append_of_seam hx h
    rw [hr] at hr'
    simp only [Option.some.injEq, Prod.mk.injEq] at hr'
    obtain ⟨rfl, rfl⟩ := hr'
    have hsuf : rest <:+ x := ⟨r.bytes, (eq_append_of_nextRune? hr).symm⟩
    rw [runes_of_nextRune? hry, runes_of_nextRune? hr, List.cons_append,
      ih (h.mono hsuf List.prefix_rfl)]

/-- Reading several runes off `y` moves a seam behind them. -/
theorem Seam.readAll {x y : Bytes} {l l' : List Rune} (h : Seam x y) (hy : runes y = l ++ l') :
    Seam (x ++ Rune.concat l) (Rune.concat l') := by
  induction l generalizing x y with
  | nil =>
    rw [List.nil_append] at hy
    rw [← hy, concat_runes]
    show Seam (x ++ []) y
    rwa [List.append_nil]
  | cons r l ih =>
    obtain ⟨r', rest, hr⟩ : ∃ r' rest, nextRune? y = some (r', rest) := by
      apply exists_nextRune?
      rintro rfl
      simp at hy
    rw [runes_of_nextRune? hr, List.cons_append] at hy
    obtain ⟨rfl, hrest⟩ := List.cons.inj hy
    have hseam := ih (h.read hr) hrest
    rwa [List.append_assoc] at hseam

/-- The runes up to some point are the runes of the bytes up to that point. -/
theorem runes_concat_of_append_left {s : Bytes} {l l' : List Rune} (h : runes s = l ++ l') :
    runes (Rune.concat l) = l := by
  obtain ⟨hs, hl'⟩ := runes_concat_of_append h
  have hseam : Seam (Rune.concat l) (Rune.concat l') := (seam_nil_left s).readAll h
  have hread : runes (Rune.concat l) ++ l' = l ++ l' := by
    rw [← h, hs, runes_append hseam, hl']
  exact List.append_cancel_right hread

/-- A rune that reading gave is read again where its bytes stand alone. -/
theorem runes_bytes {s rest : Bytes} {r : Rune} (h : nextRune? s = some (r, rest)) :
    runes r.bytes = [r] := by
  have hseam : Seam r.bytes rest := (seam_nil_left s).read h
  have hs : runes (r.bytes ++ rest) = r :: runes rest := by
    rw [← eq_append_of_nextRune? h, runes_of_nextRune? h]
  rw [runes_append hseam] at hs
  exact List.append_cancel_right hs

theorem runes_ascii_cons {b : UInt8} (h : b.toNat < 0x80) (s : Bytes) :
    runes (b :: s) = .char (Char.ofNat b.toNat) :: runes s :=
  runes_of_nextRune? (nextRune?_ascii h s)

theorem runes_concat_ascii {b : UInt8} (h : b.toNat < 0x80) (s : Bytes) :
    runes (s ++ [b]) = runes s ++ [.char (Char.ofNat b.toNat)] := by
  rw [runes_append (seam_cons_ascii h s []), runes_ascii_cons h, runes_nil]

end NodeScript
