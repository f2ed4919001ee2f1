/-
  Kinds and arguments of well-formed texts.

  The rule that decides the kind of a text is the first that matches it
  (`classify_eq`). The argument of a pattern is found where the text leads up to it
  with the words of the pattern: nothing before the first word gets in the way as
  long as the byte that the word begins with does not occur there
  (`find?_append_of_not_mem`), and the argument reaches up to the closing byte
  (`matchHere?_eq_some`). A text that lacks a byte of the words has no argument
  (`find?_eq_none_of_not_mem`), and an argument has no bytes but those that the pattern
  allows, wherever it was found (`inner_of_mem_find?`).
-/
import NodeScript.Script.Argument
import NodeScript.Script.Classification

namespace NodeScript

/-- The first of the rules that matches a trimmed text gives its kind. -/
theorem classify_eq {s : Bytes} (hs : trim s = s) (before : List Rule) {after : List Rule}
    {r : Rule} (hrules : rules = before ++ r :: after) (hbefore : ∀ q ∈ before, q.matches s = false)
    (hr : r.matches s = true) : classify s = r.kind := by
  have hfind : rules.find? (·.matches s) = some r := by
    refine List.find?_eq_some_iff_append.mpr ⟨hr, before, after, hrules, fun q hq => ?_⟩
    rw [hbefore q hq]
    rfl
  unfold classify classifyBy
  rw [hs, hfind]

namespace Bytes

theorem stripStart?_of_head {a : UInt8} {w s : Bytes} (h : s.head? ≠ some a) :
    stripStart? (a :: w) s = none := by
  cases s with
  | nil => rfl
  | cons b s =>
    rw [stripStart?, if_neg]
    rintro rfl
    exact h rfl

theorem eq_append_of_stripStart? {w s rest : Bytes} (h : stripStart? w s = some rest) :
    s = w ++ rest := by
  fun_induction stripStart? w s with
  | case1 s => exact Option.some.inj h
  | case2 => cases h
  | case3 p ps bs ih => rw [ih h, List.cons_append]
  | case4 => cases h

end Bytes

namespace Pattern

variable {p : Pattern} {a : UInt8} {w s v rest : Bytes} {ws : List Bytes}

/-- A pattern does not fit where its first word does not begin. -/
theorem matchHere?_eq_none (hp : p.words = (a :: w) :: ws) (hs : s.head? ≠ some a) :
    p.matchHere? s = none := by
  have hnone := Bytes.stripStart?_of_head (w := w) hs
  unfold matchHere?
  rw [hp]
  cases ws with
  | nil => simp [afterWords?, hnone]
  | cons w' ws => simp [afterWords?, hnone]

/-- Text in which the first word cannot begin is passed over. -/
theorem find?_append_of_not_mem {x : Bytes} (hp : p.words = (a :: w) :: ws) (hx : a ∉ x)
    (s : Bytes) : p.find? (x ++ s) = p.find? s := by
  induction x with
  | nil => rfl
  | cons b x ih =>
    have hb : (b :: (x ++ s)).head? ≠ some a := by
      intro h
      exact hx (Option.some.inj h ▸ List.mem_cons_self ..)
    rw [List.cons_append, find?, matchHere?_eq_none hp hb,
      ih fun h => hx (List.mem_cons_of_mem _ h)]
    rfl

/-- A text that gets as far as behind the words has all their bytes. -/
theorem mem_of_afterWords? (h : afterWords? ws s = some rest) {u : Bytes} (hu : u ∈ ws)
    {b : UInt8} (hb : b ∈ u) : b ∈ s := by
  fun_induction afterWords? ws s with
  | case1 s => cases hu
  | case2 s w =>
    obtain rfl := List.mem_singleton.mp hu
    rw [Bytes.eq_append_of_stripStart? h]
    exact List.mem_append_left _ hb
  | case3 s w ws _ ih =>
    obtain ⟨t, ht, hrest⟩ := Option.bind_eq_some_iff.mp h
    rw [Bytes.eq_append_of_stripStart? ht]
    rcases List.mem_cons.mp hu with rfl | hu
    · exact List.mem_append_left _ hb
    · exact List.mem_append_right _ ((List.dropWhile_suffix _).mem (ih t hrest hu))

/-- A pattern is found only in a text that has all bytes of its words. -/
theorem find?_eq_none_of_not_mem {u : Bytes} (hu : u ∈ p.words) {b : UInt8} (hb : b ∈ u)
    (hs : b ∉ s) : p.find? s = none := by
  have hhere : ∀ t : Bytes, b ∉ t → p.matchHere? t = none := by
    intro t ht
    unfold matchHere?
    cases hwords : afterWords? p.words t with
    | none => rfl
    | some rest => exact absurd (mem_of_afterWords? hwords hu hb) ht
  induction s with
  | nil => exact hhere [] hs
  | cons a s ih =>
    rw [find?, hhere _ hs, ih fun h => hs (List.mem_cons_of_mem _ h)]
    rfl

/-- A pattern that fits at the start of a text is found there. -/
theorem find?_of_matchHere? (h : p.matchHere? s = some v) : p.find? s = some v := by
  cases s with
  | nil => exact h
  | cons b s =>
    rw [find?, h]
    rfl

/-- Behind the words of a pattern, the argument is what stands before the closing
byte. -/
theorem matchHere?_eq_some (hwords : afterWords? p.words s = some (v ++ p.close :: rest))
    (hv : ∀ b ∈ v, p.inner b = true) (hclose : p.inner p.close = false)
    (hleast : p.least ≤ v.length) : p.matchHere? s = some v := by
  have htake : (v ++ p.close :: rest).takeWhile p.inner = v := by
    rw [List.takeWhile_append_of_pos hv, List.takeWhile_cons_of_neg (by simp [hclose]),
      List.append_nil]
  have hdrop : (v ++ p.close :: rest).dropWhile p.inner = p.close :: rest := by
    rw [List.dropWhile_append_of_pos hv, List.dropWhile_cons_of_neg (by simp [hclose])]
  unfold matchHere?
  rw [hwords, Option.bind_eq_bind, Option.bind_some, htake, hdrop]
  exact if_pos ⟨hleast, rfl⟩

theorem inner_of_mem_matchHere? (h : p.matchHere? s = some v) {b : UInt8} (hb : b ∈ v) :
    p.inner b = true := by
  unfold matchHere? at h
  obtain ⟨rest, -, hrest⟩ := Option.bind_eq_some_iff.mp h
  dsimp only at hrest
  split at hrest
  · rw [← Option.some.inj hrest] at hb
    exact List.all_eq_true.mp List.all_takeWhile b hb
  · cases hrest

/-- A pattern captures no other bytes than those it allows. -/
theorem inner_of_mem_find? (h : p.find? s = some v) {b : UInt8} (hb : b ∈ v) :
    p.inner b = true := by
  induction s with
  | nil => exact inner_of_mem_matchHere? h hb
  | cons a s ih =>
    rw [find?, Option.orElse_eq_orElse, Option.orElse_eq_or, Option.or_eq_some_iff] at h
    rcases h with hhere | ⟨-, hthere⟩
    · exact inner_of_mem_matchHere? hhere hb
    · exact ih hthere

/-- An argument up to a closing byte has no newline, even if the text has some. -/
theorem newline_not_mem_of_find? {words : List Bytes} {close : UInt8}
    (h : (upTo words close).find? s = some v) : newline ∉ v := by
  intro hline
  have hinner := inner_of_mem_find? h hline
  simp [upTo] at hinner

/-- An argument up to a closing byte may hold all bytes but that one and the
newline. -/
theorem inner_upTo {words : List Bytes} {close b : UInt8} {v : Bytes} (hclose : close ∉ v)
    (hline : newline ∉ v) (hb : b ∈ v) : (upTo words close).inner b = true := by
  have hne : b ≠ close := fun h => hclose (h ▸ hb)
  have hnl : b ≠ newline := fun h => hline (h ▸ hb)
  simp [upTo, hne, hnl]

end Pattern

end NodeScript
