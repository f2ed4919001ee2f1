/-
  Texts made of lines.

  Lines without newlines in them can be told from a text that holds them, in both forms
  that are in use: with newlines between the lines (`recalls_join`), where the empty text
  would leave open whether it holds no line or an empty one, and with a newline behind each
  line (`lines_injective`), where nothing is left open.
-/
import NodeScript.Text.Bytes

namespace NodeScript

namespace Bytes

/-! ### Cutting at a byte -/

theorem splitAt_eq_splitOn (sep : UInt8) (s : Bytes) : splitAt sep s = s.splitOn sep := by
  rw [List.splitOn_eq_splitOnP]
  induction s with
  | nil => rfl
  | cons b s ih =>
    rw [splitAt, ih, List.splitOnP_cons_eq_if_modifyHead]
    simp only [beq_iff_eq]
    split
    · rfl
    · cases h : s.splitOnP (· == sep) with
      | nil => exact absurd h (List.splitOnP_ne_nil _ _)
      | cons piece rest => rfl

theorem cutAt?_eq_some_iff {sep : UInt8} {s x y : Bytes} :
    cutAt? sep s = some (x, y) ↔ s = x ++ sep :: y ∧ sep ∉ x := by
  induction s generalizing x with
  | nil => simp [cutAt?]
  | cons b s ih =>
    rw [cutAt?]
    split
    · next hb => cases x <;> grind
    · next hb =>
      rw [Option.map_eq_some_iff]
      cases x with
      | nil => grind
      | cons a x =>
        constructor
        · rintro ⟨⟨u, v⟩, hcut, heq⟩
          simp only [Prod.mk.injEq, List.cons.injEq] at heq
          obtain ⟨⟨rfl, rfl⟩, rfl⟩ := heq
          obtain ⟨rfl, hu⟩ := ih.mp hcut
          exact ⟨rfl, by grind⟩
        · rintro ⟨heq, hx⟩
          obtain ⟨rfl, rfl⟩ := List.cons.inj heq
          exact ⟨(x, y), ih.mpr ⟨rfl, fun h => hx (List.mem_cons_of_mem _ h)⟩, rfl⟩

/-- The first occurrence of a byte cuts a text in one way only. -/
theorem eq_of_append_first {sep : UInt8} {x x' y y' : Bytes} (hx : sep ∉ x) (hx' : sep ∉ x')
    (h : x ++ sep :: y = x' ++ sep :: y') : x = x' ∧ y = y' := by
  have hcut : cutAt? sep (x ++ sep :: y) = some (x, y) := cutAt?_eq_some_iff.mpr ⟨rfl, hx⟩
  have hcut' : cutAt? sep (x ++ sep :: y) = some (x', y') := cutAt?_eq_some_iff.mpr ⟨h, hx'⟩
  rw [hcut, Option.some.injEq, Prod.mk.injEq] at hcut'
  exact hcut'

/-- So does the last. -/
theorem eq_of_append_last {sep : UInt8} {x x' y y' : Bytes} (hy : sep ∉ y) (hy' : sep ∉ y')
    (h : x ++ sep :: y = x' ++ sep :: y') : x = x' ∧ y = y' := by
  have hback := congrArg List.reverse h
  simp only [List.reverse_append, List.reverse_cons, List.append_assoc,
    List.singleton_append] at hback
  obtain ⟨hyy, hxx⟩ := eq_of_append_first (by simpa using hy) (by simpa using hy') hback
  exact ⟨List.reverse_inj.mp hxx, List.reverse_inj.mp hyy⟩

theorem cutLast?_eq_none_iff {sep : UInt8} {s : Bytes} : cutLast? sep s = none ↔ sep ∉ s := by
  induction s with
  | nil => simp [cutLast?]
  | cons b s ih =>
    rw [cutLast?]
    cases hcut : cutLast? sep s with
    | none =>
      have hs : sep ∉ s := ih.mp hcut
      by_cases hb : b = sep
      · simp [hb]
      · simp [hb, hs, Ne.symm hb]
    | some p =>
      have hs : sep ∈ s := by
        apply Decidable.of_not_not
        intro hnot
        rw [ih.mpr hnot] at hcut
        cases hcut
      obtain ⟨before, rest⟩ := p
      simp [hs]

/-- The last occurrence of a byte is the one that the byte does not follow. -/
theorem eq_of_cutLast? {sep : UInt8} {s x y : Bytes} (h : cutLast? sep s = some (x, y)) :
    ∃ u, x = u ++ [sep] ∧ s = u ++ sep :: y ∧ sep ∉ y := by
  induction s generalizing x with
  | nil => cases h
  | cons b s ih =>
    rw [cutLast?] at h
    cases hcut : cutLast? sep s with
    | none =>
      rw [hcut] at h
      by_cases hb : b = sep
      · simp only [hb, if_true, Option.some.injEq, Prod.mk.injEq] at h
        obtain ⟨rfl, rfl⟩ := h
        exact ⟨[], rfl, by rw [hb]; rfl, cutLast?_eq_none_iff.mp hcut⟩
      · simp [hb] at h
    | some p =>
      obtain ⟨before, rest⟩ := p
      rw [hcut] at h
      simp only [Option.some.injEq, Prod.mk.injEq] at h
      obtain ⟨rfl, rfl⟩ := h
      obtain ⟨u, rfl, rfl, hrest⟩ := ih hcut
      exact ⟨b :: u, rfl, rfl, hrest⟩

/-! ### Newlines between the lines -/

theorem join_eq_intercalate (sep : Bytes) (ls : List Bytes) : join sep ls = sep.intercalate ls := by
  fun_induction join sep ls with
  | case1 => rw [List.intercalate_nil]
  | case2 l => rw [List.intercalate_singleton]
  | case3 l ls hne ih =>
    obtain ⟨l', ls, rfl⟩ := List.exists_cons_of_ne_nil hne
    rw [ih, List.intercalate_cons_cons]

variable {ls : List Bytes}

theorem not_mem_join {b : UInt8} {sep : Bytes} (hsep : b ∉ sep) (h : ∀ l ∈ ls, b ∉ l) :
    b ∉ join sep ls := by
  fun_induction join sep ls with
  | case1 => exact List.not_mem_nil
  | case2 l => exact h l (List.mem_cons_self ..)
  | case3 l ls _ ih =>
    have hrest : b ∉ join sep ls := ih fun m hm => h m (List.mem_cons_of_mem _ hm)
    rw [List.mem_append, List.mem_append, not_or, not_or]
    exact ⟨⟨h l (List.mem_cons_self ..), hsep⟩, hrest⟩

theorem suffix_join_concat (sep : Bytes) (ls : List Bytes) (l : Bytes) :
    l <:+ join sep (ls ++ [l]) := by
  induction ls with
  | nil => exact List.suffix_rfl
  | cons m ls ih =>
    obtain ⟨m', ls', hls⟩ := List.exists_cons_of_ne_nil (List.concat_ne_nil l ls)
    rw [List.cons_append, hls, join]
    · rw [← hls]
      exact ih.trans (List.suffix_append ..)
    · exact List.cons_ne_nil _ _

theorem splitAt_join {sep : UInt8} (hls : ls ≠ []) (h : ∀ l ∈ ls, sep ∉ l) :
    splitAt sep (join [sep] ls) = ls := by
  rw [splitAt_eq_splitOn, join_eq_intercalate]
  exact List.splitOn_intercalate sep h hls

/-- If no line is empty, joined lines are empty only if there are none. -/
theorem join_eq_nil_iff {sep : Bytes} (h : ∀ l ∈ ls, l ≠ []) : join sep ls = [] ↔ ls = [] := by
  cases ls with
  | nil => exact ⟨fun _ => rfl, fun _ => rfl⟩
  | cons l ls =>
    have hl : l ≠ [] := h l (List.mem_cons_self ..)
    cases ls with
    | nil => simp [join, hl]
    | cons l' ls => simp [join, hl]

/-- Which lines a text was joined from can be told from it: there are none if it is empty,
and else they are what stands between its newlines. -/
def Recalls (text : Bytes) (ls : List Bytes) : Prop :=
  (text = [] ↔ ls = []) ∧ (ls ≠ [] → splitAt newline text = ls)

theorem recalls_join (h : ∀ l ∈ ls, l ≠ [] ∧ newline ∉ l) : Recalls (join [newline] ls) ls :=
  ⟨join_eq_nil_iff fun l hl => (h l hl).1, fun hls => splitAt_join hls fun l hl => (h l hl).2⟩

/-! ### A newline behind each line -/

@[simp]
theorem lines_nil : lines [] = [] := rfl

theorem lines_cons (l : Bytes) (ls : List Bytes) : lines (l :: ls) = l ++ [newline] ++ lines ls :=
  rfl

theorem lines_append (ls ls' : List Bytes) : lines (ls ++ ls') = lines ls ++ lines ls' :=
  List.flatMap_append

theorem lines_concat (ls : List Bytes) (l : Bytes) :
    lines (ls ++ [l]) = lines ls ++ (l ++ [newline]) := by
  rw [lines_append, lines_cons, lines_nil, List.append_nil]

theorem lines_eq_join (ls : List Bytes) : lines ls = join [newline] (ls ++ [[]]) := by
  induction ls with
  | nil => rfl
  | cons l ls ih =>
    have hne : ls ++ [[]] ≠ [] := by simp
    obtain ⟨l', ls', h⟩ := List.exists_cons_of_ne_nil hne
    rw [lines_cons, ih, List.cons_append, h]
    rfl

theorem splitAt_lines (h : ∀ l ∈ ls, newline ∉ l) : splitAt newline (lines ls) = ls ++ [[]] := by
  rw [lines_eq_join]
  refine splitAt_join (by simp) fun l hl => ?_
  rcases List.mem_append.mp hl with hl | hl
  · exact h l hl
  · rw [List.mem_singleton.mp hl]
    exact List.not_mem_nil

/-- Lines with a newline behind each are told from their text. -/
theorem lines_injective {ls' : List Bytes} (h : ∀ l ∈ ls, newline ∉ l)
    (h' : ∀ l ∈ ls', newline ∉ l) (heq : lines ls = lines ls') : ls = ls' := by
  have hsplit := congrArg (splitAt newline) heq
  rw [splitAt_lines h, splitAt_lines h'] at hsplit
  exact List.append_cancel_right hsplit

end Bytes

end NodeScript
