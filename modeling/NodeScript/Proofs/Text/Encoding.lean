/-
  Characters and their bytes.

  Main statement: a byte string begins with the character `c`, as decoding sees
  it, exactly when the encoding of `c` is an initial piece of it
  (`leadingChar?_eq_some_iff`). Decoding by arithmetic on lead and continuation
  bytes is not looked into again after this module.

  Two facts about single encodings go with it. The bytes of a character are
  either one byte below `0x80` or all of them are at least `0x80`
  (`high_of_mem_utf8EncodeChar`), and only the first byte of a character is not a continuation
  byte (`utf8EncodeChar_eq_cons`).
-/
import NodeScript.Text.Rune
import Mathlib.Tactic.SplitIfs

namespace NodeScript

open String (utf8EncodeChar)

/-! ### Numbers of characters -/

theorem toNat_ofNat_of_isValidChar {n : Nat} (h : n.isValidChar) : (Char.ofNat n).toNat = n := by
  unfold Char.ofNat
  rw [dif_pos h]
  rfl

theorem toNat_lt_of_char (c : Char) : c.toNat < 0x110000 := by
  have hv : c.toNat.isValidChar := c.valid
  unfold Nat.isValidChar at hv
  omega

theorem scalar?_toNat {least : Nat} {c : Char} (h : least ≤ c.toNat) :
    scalar? least c.toNat = some c := by
  have hv : c.toNat.isValidChar := c.valid
  unfold scalar?
  rw [if_pos ⟨h, hv⟩, Char.ofNat_toNat]

theorem scalar?_eq_some {least n : Nat} {c : Char} (h : scalar? least n = some c) :
    least ≤ n ∧ c.toNat = n := by
  unfold scalar? at h
  split at h
  · next hn =>
    obtain rfl := Option.some.inj h
    exact ⟨hn.1, toNat_ofNat_of_isValidChar hn.2⟩
  · cases h

/-! ### Continuation bytes -/

theorem continuation?_ofNat {k : Nat} (h : k < 64) :
    continuation? (UInt8.ofNat (k + 0x80)) = some k := by
  have hk : (UInt8.ofNat (k + 0x80)).toNat = k + 0x80 := by
    rw [UInt8.toNat_ofNat']; omega
  unfold continuation?
  rw [hk, if_pos (by omega)]
  congr 1
  omega

theorem continuation?_eq_some {b : UInt8} {k : Nat} (h : continuation? b = some k) :
    k < 64 ∧ b = UInt8.ofNat (k + 0x80) := by
  unfold continuation? at h
  split at h
  · obtain rfl := Option.some.inj h
    refine ⟨by omega, ?_⟩
    apply UInt8.toNat_inj.mp
    rw [UInt8.toNat_ofNat']
    omega
  · cases h

/-! ### Encodings -/

/-- The encoding of a character by its number. -/
theorem utf8EncodeChar_eq (c : Char) : utf8EncodeChar c =
    if c.toNat ≤ 0x7F then [UInt8.ofNat c.toNat]
    else if c.toNat ≤ 0x7FF then
      [UInt8.ofNat (c.toNat / 64 % 32 + 0xC0), UInt8.ofNat (c.toNat % 64 + 0x80)]
    else if c.toNat ≤ 0xFFFF then
      [UInt8.ofNat (c.toNat / 4096 % 16 + 0xE0), UInt8.ofNat (c.toNat / 64 % 64 + 0x80),
        UInt8.ofNat (c.toNat % 64 + 0x80)]
    else
      [UInt8.ofNat (c.toNat / 262144 % 8 + 0xF0), UInt8.ofNat (c.toNat / 4096 % 64 + 0x80),
        UInt8.ofNat (c.toNat / 64 % 64 + 0x80), UInt8.ofNat (c.toNat % 64 + 0x80)] :=
  rfl

/-- Below `0x80` a character is its own byte. -/
theorem utf8EncodeChar_ascii {c : Char} (h : c.toNat < 0x80) :
    utf8EncodeChar c = [UInt8.ofNat c.toNat] := by
  rw [utf8EncodeChar_eq, if_pos (by omega)]

/-- Every byte of a character but the first is a continuation byte, and the first
is none. -/
theorem utf8EncodeChar_eq_cons (c : Char) : ∃ (b : UInt8) (t : Bytes),
    utf8EncodeChar c = b :: t ∧ b.toNat / 64 ≠ 2 ∧ ∀ x ∈ t, x.toNat / 64 = 2 := by
  have hlt := toNat_lt_of_char c
  -- All continuation bytes have this shape, whatever six bits they carry.
  have hcont (n : Nat) : (UInt8.ofNat (n % 64 + 0x80)).toNat / 64 = 2 := by
    rw [UInt8.toNat_ofNat']; omega
  rw [utf8EncodeChar_eq]
  split_ifs
  · exact ⟨_, _, rfl, by rw [UInt8.toNat_ofNat']; omega, by simp⟩
  all_goals
    refine ⟨_, _, rfl, by rw [UInt8.toNat_ofNat']; omega, fun x hx => ?_⟩
    simp only [List.mem_cons, List.not_mem_nil, or_false] at hx
    rcases hx with rfl | rfl | rfl <;> exact hcont _

/-- A character beyond ASCII has no byte below `0x80`. -/
theorem high_of_mem_utf8EncodeChar {c : Char} (h : 0x80 ≤ c.toNat) {b : UInt8}
    (hb : b ∈ utf8EncodeChar c) : 0x80 ≤ b.toNat := by
  rw [utf8EncodeChar_eq, if_neg (by omega)] at hb
  split_ifs at hb
  all_goals
    simp only [List.mem_cons, List.not_mem_nil, or_false] at hb
    rcases hb with rfl | rfl | rfl | rfl <;> rw [UInt8.toNat_ofNat'] <;> omega

/-! ### Decoding -/

theorem leadingChar?_of_one {b : UInt8} (h : b.toNat < 0x80) (t : Bytes) :
    leadingChar? (b :: t) = some (Char.ofNat b.toNat) := by
  simp only [leadingChar?]
  rw [if_pos h]

theorem leadingChar?_of_two {m k : Nat} (hm : m < 32) (hk : k < 64) (t : Bytes) :
    leadingChar? (UInt8.ofNat (m + 0xC0) :: UInt8.ofNat (k + 0x80) :: t)
      = scalar? 0x80 (m * 64 + k) := by
  have hb : (UInt8.ofNat (m + 0xC0)).toNat = m + 0xC0 := by
    rw [UInt8.toNat_ofNat']; omega
  simp only [leadingChar?, hb]
  rw [if_neg (by omega), if_neg (by omega), if_pos (by omega), continuation?_ofNat hk,
    Nat.add_sub_cancel, Option.bind_eq_bind, Option.bind_some]

theorem leadingChar?_of_three {m k l : Nat} (hm : m < 16) (hk : k < 64) (hl : l < 64)
    (t : Bytes) :
    leadingChar? (UInt8.ofNat (m + 0xE0) :: UInt8.ofNat (k + 0x80) :: UInt8.ofNat (l + 0x80) :: t)
      = scalar? 0x800 (m * 4096 + k * 64 + l) := by
  have hb : (UInt8.ofNat (m + 0xE0)).toNat = m + 0xE0 := by
    rw [UInt8.toNat_ofNat']; omega
  simp only [leadingChar?, hb]
  rw [if_neg (by omega), if_neg (by omega), if_neg (by omega), if_pos (by omega),
    continuation?_ofNat hk, continuation?_ofNat hl, Nat.add_sub_cancel, Option.bind_eq_bind,
    Option.bind_some, Option.bind_some]

theorem leadingChar?_of_four {m k l o : Nat} (hm : m < 8) (hk : k < 64) (hl : l < 64)
    (ho : o < 64) (t : Bytes) :
    leadingChar? (UInt8.ofNat (m + 0xF0) :: UInt8.ofNat (k + 0x80) :: UInt8.ofNat (l + 0x80)
      :: UInt8.ofNat (o + 0x80) :: t)
      = scalar? 0x10000 (m * 262144 + k * 4096 + l * 64 + o) := by
  have hb : (UInt8.ofNat (m + 0xF0)).toNat = m + 0xF0 := by
    rw [UInt8.toNat_ofNat']; omega
  simp only [leadingChar?, hb]
  rw [if_neg (by omega), if_neg (by omega), if_neg (by omega), if_neg (by omega),
    if_pos (by omega), continuation?_ofNat hk, continuation?_ofNat hl, continuation?_ofNat ho,
    Nat.add_sub_cancel, Option.bind_eq_bind, Option.bind_some, Option.bind_some, Option.bind_some]

/-- What was encoded is decoded, whatever follows. -/
theorem leadingChar?_utf8EncodeChar_append (c : Char) (t : Bytes) :
    leadingChar? (utf8EncodeChar c ++ t) = some c := by
  have hlt := toNat_lt_of_char c
  have h64 (n : Nat) : n % 64 < 64 := Nat.mod_lt _ (by decide)
  rw [utf8EncodeChar_eq]
  split_ifs with h₁ h₂ h₃
  · have hb : (UInt8.ofNat c.toNat).toNat = c.toNat := by
      rw [UInt8.toNat_ofNat']; omega
    rw [List.singleton_append, leadingChar?_of_one (by omega), hb, Char.ofNat_toNat]
  · rw [List.cons_append, List.cons_append, List.nil_append,
      leadingChar?_of_two (by omega) (h64 _),
      show c.toNat / 64 % 32 * 64 + c.toNat % 64 = c.toNat by omega]
    exact scalar?_toNat (by omega)
  · rw [List.cons_append, List.cons_append, List.cons_append, List.nil_append,
      leadingChar?_of_three (by omega) (h64 _) (h64 _),
      show c.toNat / 4096 % 16 * 4096 + c.toNat / 64 % 64 * 64 + c.toNat % 64 = c.toNat by omega]
    exact scalar?_toNat (by omega)
  · rw [List.cons_append, List.cons_append, List.cons_append, List.cons_append, List.nil_append,
      leadingChar?_of_four (by omega) (h64 _) (h64 _) (h64 _),
      show c.toNat / 262144 % 8 * 262144 + c.toNat / 4096 % 64 * 4096 + c.toNat / 64 % 64 * 64
        + c.toNat % 64 = c.toNat by omega]
    exact scalar?_toNat (by omega)

/-- What is decoded was encoded: the bytes of the character stand there. -/
theorem utf8EncodeChar_prefix_of_leadingChar? {s : Bytes} {c : Char}
    (h : leadingChar? s = some c) : utf8EncodeChar c <+: s := by
  cases s with
  | nil => cases h
  | cons b t =>
    have hb : b = UInt8.ofNat b.toNat := by simp
    have hb8 := b.toNat_lt
    simp only [leadingChar?] at h
    rw [utf8EncodeChar_eq]
    -- One case for each length that the lead byte can announce.
    split_ifs at h with h₁ h₂ h₃ h₄ h₅
    · obtain rfl := Option.some.inj h
      have hv : b.toNat.isValidChar := by unfold Nat.isValidChar; omega
      rw [toNat_ofNat_of_isValidChar hv, if_pos (by omega), ← hb]
      exact ⟨t, rfl⟩
    · split at h
      · next x u =>
        simp only [Option.bind_eq_bind, Option.bind_eq_some_iff] at h
        obtain ⟨k, hk, hs⟩ := h
        obtain ⟨hk64, rfl⟩ := continuation?_eq_some hk
        obtain ⟨hle, hn⟩ := scalar?_eq_some hs
        rw [if_neg (by omega), if_pos (by omega),
          show c.toNat / 64 % 32 + 0xC0 = b.toNat by omega, show c.toNat % 64 = k by omega, ← hb]
        exact ⟨u, rfl⟩
      · cases h
    · split at h
      · next x y u =>
        simp only [Option.bind_eq_bind, Option.bind_eq_some_iff] at h
        obtain ⟨k, hk, l, hl, hs⟩ := h
        obtain ⟨hk64, rfl⟩ := continuation?_eq_some hk
        obtain ⟨hl64, rfl⟩ := continuation?_eq_some hl
        obtain ⟨hle, hn⟩ := scalar?_eq_some hs
        rw [if_neg (by omega), if_neg (by omega), if_pos (by omega),
          show c.toNat / 4096 % 16 + 0xE0 = b.toNat by omega,
          show c.toNat / 64 % 64 = k by omega, show c.toNat % 64 = l by omega, ← hb]
        exact ⟨u, rfl⟩
      · cases h
    · split at h
      · next x y z u =>
        simp only [Option.bind_eq_bind, Option.bind_eq_some_iff] at h
        obtain ⟨k, hk, l, hl, o, ho, hs⟩ := h
        obtain ⟨hk64, rfl⟩ := continuation?_eq_some hk
        obtain ⟨hl64, rfl⟩ := continuation?_eq_some hl
        obtain ⟨ho64, rfl⟩ := continuation?_eq_some ho
        obtain ⟨hle, hn⟩ := scalar?_eq_some hs
        have hlt := toNat_lt_of_char c
        rw [if_neg (by omega), if_neg (by omega), if_neg (by omega),
          show c.toNat / 262144 % 8 + 0xF0 = b.toNat by omega,
          show c.toNat / 4096 % 64 = k by omega, show c.toNat / 64 % 64 = l by omega,
          show c.toNat % 64 = o by omega, ← hb]
        exact ⟨u, rfl⟩
      · cases h

/-- **A byte string begins with a character iff it begins with its encoding.** -/
theorem leadingChar?_eq_some_iff {s : Bytes} {c : Char} :
    leadingChar? s = some c ↔ utf8EncodeChar c <+: s := by
  constructor
  · exact utf8EncodeChar_prefix_of_leadingChar?
  · rintro ⟨t, rfl⟩
    exact leadingChar?_utf8EncodeChar_append c t

end NodeScript
