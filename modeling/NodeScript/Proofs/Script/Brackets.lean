/-
  The spans of a script, found by looking ahead.

  `brackets` goes through the bytes of a script from left to right. At each `<` it
  looks for the nearest `>`: if no newline stands in between, the bytes between
  the two are a span, and the search goes on behind the `>`; otherwise it goes on
  right behind the `<`. There is no mode, no counter and no decoding in it. Where
  a span stands is told from all that stands before it: the line by counting
  newlines, the column by counting the runes of the last line.

  Main statement: reading a script gives exactly these spans as commands
  (`readScript_eq_brackets`), whatever the bytes are.
-/
import NodeScript.Proofs.Script.Scanning
import NodeScript.Proofs.Text.Joining

namespace NodeScript

/-! ### Lines and columns -/

/-- The part of a text behind its last newline. -/
def lastLine (s : Bytes) : Bytes := (s.reverse.takeWhile (· ≠ newline)).reverse

/-- The line on which a text ends, counted from one. -/
def lineAfter (s : Bytes) : Nat := 1 + s.count newline

/-- The number of runes on the last line of a text. -/
def columnAfter (s : Bytes) : Nat := (runes (lastLine s)).length

/-- The place of the last rune of a text in the script with the given label. -/
def placeAfter (label s : Bytes) : Location := ⟨label, lineAfter s, columnAfter s⟩

theorem lastLine_suffix (s : Bytes) : lastLine s <:+ s := by
  rw [lastLine, ← List.reverse_prefix, List.reverse_reverse]
  exact List.takeWhile_prefix _

theorem lastLine_concat_newline (s : Bytes) : lastLine (s ++ [newline]) = [] := by
  simp [lastLine]

theorem lastLine_append {t : Bytes} (h : newline ∉ t) (s : Bytes) :
    lastLine (s ++ t) = lastLine s ++ t := by
  unfold lastLine
  rw [List.reverse_append, List.takeWhile_append_of_pos, List.reverse_append, List.reverse_reverse]
  intro b hb
  have hne : b ≠ newline := fun hb' => h (hb' ▸ List.mem_reverse.mp hb)
  exact decide_eq_true hne

/-- What one more rune does to line and column. -/
theorem position_append {x y rest : Bytes} {r : Rune} (hseam : Seam x y)
    (h : nextRune? y = some (r, rest)) :
    lineAfter (x ++ r.bytes) = (if r.is '\n' then lineAfter x + 1 else lineAfter x) ∧
    columnAfter (x ++ r.bytes) = if r.is '\n' then 0 else columnAfter x + 1 := by
  have hr := isRead_of_nextRune? h
  have hn : r.is '\n' = true ↔ r.bytes = [newline] := hr.is_iff (by decide)
  by_cases hrn : r.is '\n' = true
  · rw [if_pos hrn, if_pos hrn, hn.mp hrn]
    constructor
    · simp [lineAfter, Nat.add_assoc]
    · rw [columnAfter, lastLine_concat_newline, runes_nil]
      rfl
  · have hnot : newline ∉ r.bytes := fun hmem => hrn ((hr.mem_bytes_iff (by decide)).mp hmem)
    have hpre : r.bytes <+: y := ⟨rest, (eq_append_of_nextRune? h).symm⟩
    rw [if_neg hrn, if_neg hrn]
    constructor
    · rw [lineAfter, List.count_append, List.count_eq_zero_of_not_mem hnot]
      rfl
    · rw [columnAfter, lastLine_append hnot, runes_append (hseam.mono (lastLine_suffix x) hpre),
        runes_bytes h, List.length_append]
      rfl

/-- A reading that stands at the end of a text. -/
def Reading.after (x : Bytes) (span : Option Span) : Reading := ⟨lineAfter x, columnAfter x, span⟩

theorem Reading.read_after (label : Bytes) {x y rest : Bytes} {r : Rune} (hseam : Seam x y)
    (h : nextRune? y = some (r, rest)) (span : Option Span) :
    (after x span).read label r = after (x ++ r.bytes) ((after x span).read label r).span := by
  obtain ⟨hline, hcolumn⟩ := position_append hseam h
  unfold after
  rw [hline, hcolumn]
  rfl

theorem Reading.readAll_after (label : Bytes) {x t : Bytes} (hseam : Seam x t)
    (span : Option Span) :
    (after x span).readAll label (runes t)
      = after (x ++ t) ((after x span).readAll label (runes t)).span := by
  induction t using rune_induction generalizing x span with
  | nil => rw [runes_nil, List.append_nil]; rfl
  | read r t rest h ih =>
    rw [runes_of_nextRune? h]
    show ((after x span).read label r).readAll label (runes rest)
      = after (x ++ t) (((after x span).read label r).readAll label (runes rest)).span
    rw [read_after label hseam h, ih (hseam.read h), List.append_assoc,
      ← eq_append_of_nextRune? h]
    rfl

/-- Inside a span, bytes that do not end it are its text. -/
theorem Reading.inside_after (label : Bytes) {x t : Bytes} (hseam : Seam x t) (p : Span)
    (hc : closing ∉ t) (hn : newline ∉ t) :
    (after x (some p)).readAll label (runes t) = after (x ++ t) (some ⟨p.text ++ t, p.place⟩) ∧
    (after x (some p)).spans label (runes t) = [] := by
  have hnot : ∀ r ∈ runes t, (r.is '>' || r.is '\n') = false := fun r hr => by
    rw [is_eq_false_of_mem_runes (by decide) hc hr, is_eq_false_of_mem_runes (by decide) hn hr]
    rfl
  obtain ⟨hall, hspans⟩ :=
    Cursor.readAll_inside label ⟨0, lineAfter x, columnAfter x⟩ p hnot
  refine ⟨?_, hspans⟩
  rw [readAll_after label hseam]
  show after (x ++ t) ((⟨lineAfter x, columnAfter x, some p⟩ : Reading).readAll label (runes t)).span
    = _
  rw [hall, concat_runes]

/-! ### The search -/

/-- The bytes up to the nearest `>`, if no newline is among them, and those behind
it. -/
def enclosed? (s : Bytes) : Option (Bytes × Bytes) :=
  (Bytes.cutAt? closing s).filter fun p => newline ∉ p.1

theorem enclosed?_eq_some_iff {s t rest : Bytes} :
    enclosed? s = some (t, rest) ↔ s = t ++ closing :: rest ∧ closing ∉ t ∧ newline ∉ t := by
  unfold enclosed?
  rw [Option.filter_eq_some_iff, Bytes.cutAt?_eq_some_iff, decide_eq_true_eq, and_assoc]

theorem enclosed?_of_not_mem {t : Bytes} (hc : closing ∉ t) : enclosed? t = none := by
  rw [Option.eq_none_iff_forall_ne_some]
  rintro ⟨u, rest⟩ h
  obtain ⟨rfl, -, -⟩ := enclosed?_eq_some_iff.mp h
  exact hc (List.mem_append_right _ (List.mem_cons_self ..))

theorem enclosed?_append_newline {t : Bytes} (hc : closing ∉ t) (s : Bytes) :
    enclosed? (t ++ newline :: s) = none := by
  rw [Option.eq_none_iff_forall_ne_some]
  rintro ⟨u, rest⟩ h
  obtain ⟨heq, -, hn⟩ := enclosed?_eq_some_iff.mp h
  -- Whichever of `t` and `u` is longer holds the byte that follows the other.
  rcases List.append_eq_append_iff.mp heq with ⟨v, rfl, hv⟩ | ⟨v, rfl, hv⟩
  · cases v with
    | nil => exact absurd (List.cons.inj hv).1 (by decide)
    | cons a v =>
      rw [← (List.cons.inj hv).1] at hn
      exact hn (List.mem_append_right _ (List.mem_cons_self ..))
  · cases v with
    | nil => exact absurd (List.cons.inj hv).1 (by decide)
    | cons a v =>
      rw [← (List.cons.inj hv).1] at hc
      exact hc (List.mem_append_right _ (List.mem_cons_self ..))

/-- A span, and all that stands before its text, the `<` included. -/
structure Bracket where
  before : Bytes
  text : Bytes
  deriving DecidableEq

/-- The spans of a text that comes behind the given one. -/
def brackets (before : Bytes) : Bytes → List Bracket
  | [] => []
  | b :: s =>
    if b = opening then
      match _h : enclosed? s with
      | some (text, rest) =>
        ⟨before ++ [opening], text⟩ :: brackets (before ++ opening :: (text ++ [closing])) rest
      | none => brackets (before ++ [b]) s
    else brackets (before ++ [b]) s
termination_by s => s.length
decreasing_by
  · rw [(enclosed?_eq_some_iff.mp _h).1]
    simp only [List.length_cons, List.length_append]
    omega
  · exact Nat.lt_succ_self _
  · exact Nat.lt_succ_self _

theorem brackets_nil (x : Bytes) : brackets x [] = [] := by
  rw [brackets]

theorem brackets_cons_of_ne {b : UInt8} (h : b ≠ opening) (x s : Bytes) :
    brackets x (b :: s) = brackets (x ++ [b]) s := by
  rw [brackets, if_neg h]

theorem brackets_opening_of_none {s : Bytes} (h : enclosed? s = none) (x : Bytes) :
    brackets x (opening :: s) = brackets (x ++ [opening]) s := by
  rw [brackets, if_pos rfl]
  split
  · next heq => rw [h] at heq; cases heq
  · rfl

theorem brackets_opening {t : Bytes} (hc : closing ∉ t) (hn : newline ∉ t) (x rest : Bytes) :
    brackets x (opening :: (t ++ closing :: rest))
      = ⟨x ++ [opening], t⟩ :: brackets (x ++ opening :: (t ++ [closing])) rest := by
  have h : enclosed? (t ++ closing :: rest) = some (t, rest) :=
    enclosed?_eq_some_iff.mpr ⟨rfl, hc, hn⟩
  rw [brackets, if_pos rfl]
  split
  · next heq =>
    rw [h] at heq
    simp only [Option.some.injEq, Prod.mk.injEq] at heq
    rw [heq.1, heq.2]
  · next heq => rw [h] at heq; cases heq

/-- Text without a `<` is passed over. -/
theorem brackets_append_of_not_mem {t : Bytes} (h : opening ∉ t) (x s : Bytes) :
    brackets x (t ++ s) = brackets (x ++ t) s := by
  induction t generalizing x with
  | nil => rw [List.nil_append, List.append_nil]
  | cons b t ih =>
    have hb : b ≠ opening := fun hb => h (hb ▸ List.mem_cons_self ..)
    rw [List.cons_append, brackets_cons_of_ne hb, ih fun ht => h (List.mem_cons_of_mem _ ht),
      List.append_assoc, List.singleton_append]

/-- On a line with no `>` further on, no `<` opens a span. -/
theorem brackets_append_newline {t : Bytes} (hc : closing ∉ t) (x s : Bytes) :
    brackets x (t ++ newline :: s) = brackets (x ++ t ++ [newline]) s := by
  induction t generalizing x with
  | nil => rw [List.nil_append, brackets_cons_of_ne (by decide), List.append_nil]
  | cons b t ih =>
    have hct : closing ∉ t := fun h => hc (List.mem_cons_of_mem _ h)
    have hstep : brackets x (b :: (t ++ newline :: s))
        = brackets (x ++ [b]) (t ++ newline :: s) := by
      by_cases hb : b = opening
      · rw [hb, brackets_opening_of_none (enclosed?_append_newline hct s)]
      · exact brackets_cons_of_ne hb ..
    rw [List.cons_append, hstep, ih hct, List.append_assoc x, List.singleton_append]

theorem brackets_of_not_mem {t : Bytes} (hc : closing ∉ t) (x : Bytes) : brackets x t = [] := by
  induction t generalizing x with
  | nil => exact brackets_nil x
  | cons b t ih =>
    have hct : closing ∉ t := fun h => hc (List.mem_cons_of_mem _ h)
    by_cases hb : b = opening
    · rw [hb, brackets_opening_of_none (enclosed?_of_not_mem hct), ih hct]
    · rw [brackets_cons_of_ne hb, ih hct]

/-- Brackets reach up to the nearest `>` on their line, so none is inside them. -/
theorem not_mem_text_of_mem_brackets {x s : Bytes} {b : Bracket} (h : b ∈ brackets x s) :
    closing ∉ b.text ∧ newline ∉ b.text := by
  fun_induction brackets x s with
  | case1 x => cases h
  | case2 x s text rest henclosed ih =>
    obtain ⟨-, hclosing, hline⟩ := enclosed?_eq_some_iff.mp henclosed
    rcases List.mem_cons.mp h with rfl | h
    · exact ⟨hclosing, hline⟩
    · exact ih h
  | case3 x s henclosed ih => exact ih h
  | case4 x a s ha ih => exact ih h

/-! ### Reading and searching -/

namespace Reading

/-- Reading a byte below `0x80`, which is a rune of its own. -/
theorem spans_cons_ascii (label : Bytes) {b : UInt8} (h : b.toNat < 0x80) (x s : Bytes)
    (span : Option Span) :
    (after x span).spans label (runes (b :: s))
      = (after x span).finished (.char (Char.ofNat b.toNat))
        ++ (after (x ++ [b]) ((after x span).read label (.char (Char.ofNat b.toNat))).span).spans
          label (runes s) := by
  have hb := nextRune?_ascii h s
  have hbytes : (Rune.char (Char.ofNat b.toNat)).bytes = [b] := by
    have := eq_append_of_nextRune? hb
    exact (List.append_cancel_right (this : [b] ++ s = _)).symm
  have hread := read_after label (seam_cons_ascii h x s) hb span
  rw [hbytes] at hread
  rw [runes_of_nextRune? hb, spans]
  exact congrArg (fun s' => _ ++ spans label s' (runes s)) hread

/-- A `<` outside a span opens one. -/
theorem spans_opening (label x s : Bytes) :
    (after x none).spans label (runes (opening :: s))
      = (after (x ++ [opening]) (some ⟨[], placeAfter label (x ++ [opening])⟩)).spans label
          (runes s) := by
  obtain ⟨hline, hcolumn⟩ := position_append (seam_cons_ascii (b := opening) (by decide) x s)
    (nextRune?_ascii (by decide) s)
  have hplace : ((after x none).read label (.char '<')).span
      = some ⟨[], placeAfter label (x ++ [opening])⟩ := by
    have hl : lineAfter (x ++ [opening]) = lineAfter x := hline
    have hc : columnAfter (x ++ [opening]) = columnAfter x + 1 := hcolumn
    rw [placeAfter, hl, hc]
    rfl
  rw [spans_cons_ascii label (by decide) x s none, ← hplace]
  rfl

/-- Inside a span, a `>` on the same line finishes it. -/
theorem spans_inside_closing (label : Bytes) {x t : Bytes} (hseam : Seam x t) (p : Span)
    (hc : closing ∉ t) (hn : newline ∉ t) (rest : Bytes) :
    (after x (some p)).spans label (runes (t ++ closing :: rest))
      = ⟨p.text ++ t, p.place⟩
        :: (after (x ++ t ++ [closing]) none).spans label (runes rest) := by
  obtain ⟨hall, hspans⟩ := inside_after label hseam p hc hn
  have hcut : Seam t (closing :: rest) := seam_cons_ascii (by decide) t rest
  rw [runes_append hcut, spans_append, hspans, hall, spans_cons_ascii label (by decide)]
  rfl

/-- Inside a span, a newline gives it up. -/
theorem spans_inside_newline (label : Bytes) {x t : Bytes} (hseam : Seam x t) (p : Span)
    (hc : closing ∉ t) (hn : newline ∉ t) (rest : Bytes) :
    (after x (some p)).spans label (runes (t ++ newline :: rest))
      = (after (x ++ t ++ [newline]) none).spans label (runes rest) := by
  obtain ⟨hall, hspans⟩ := inside_after label hseam p hc hn
  have hcut : Seam t (newline :: rest) := seam_cons_ascii (by decide) t rest
  rw [runes_append hcut, spans_append, hspans, hall, spans_cons_ascii label (by decide)]
  rfl

end Reading

/-- What comes behind a `<`: a `>` on the same line, the end of the line, or the
end of the text. -/
theorem exists_span_end (s : Bytes) : ∃ t, closing ∉ t ∧ newline ∉ t ∧
    ((∃ rest, s = t ++ closing :: rest) ∨ (∃ rest, s = t ++ newline :: rest) ∨ s = t) := by
  induction s with
  | nil => exact ⟨[], by simp, by simp, by simp⟩
  | cons b s ih =>
    by_cases hc : b = closing
    · exact ⟨[], by simp, by simp, Or.inl ⟨s, by rw [hc]; rfl⟩⟩
    by_cases hn : b = newline
    · exact ⟨[], by simp, by simp, Or.inr (Or.inl ⟨s, by rw [hn]; rfl⟩)⟩
    obtain ⟨t, htc, htn, hend⟩ := ih
    refine ⟨b :: t, by grind, by grind, ?_⟩
    rcases hend with ⟨rest, rfl⟩ | ⟨rest, rfl⟩ | rfl
    · exact Or.inl ⟨rest, rfl⟩
    · exact Or.inr (Or.inl ⟨rest, rfl⟩)
    · exact Or.inr (Or.inr rfl)

/-- **A reading outside a span finds the spans that searching finds.** -/
theorem spans_eq_brackets (label : Bytes) {x s : Bytes} (hseam : Seam x s) :
    (Reading.after x none).spans label (runes s)
      = (brackets x s).map fun b => ⟨b.text, placeAfter label b.before⟩ := by
  generalize hn : s.length = n
  induction n using Nat.strongRecOn generalizing x s with
  | ind n ih =>
    by_cases hs : s = []
    · rw [hs, runes_nil, brackets_nil]; rfl
    obtain ⟨r, rest, hr⟩ := exists_nextRune? hs
    by_cases hro : r.is '<' = true
    · obtain rfl : r = .char '<' := of_decide_eq_true hro
      obtain rfl : s = opening :: rest := eq_append_of_nextRune? hr
      rw [Reading.spans_opening]
      obtain ⟨t, htc, htn, hend⟩ := exists_span_end rest
      have hseam' : Seam (x ++ [opening]) t := seam_concat_ascii (by decide) x t
      rw [List.length_cons] at hn
      rcases hend with ⟨rest', rfl⟩ | ⟨rest', rfl⟩ | rfl
      -- The span is finished.
      · have hseam'' : Seam (x ++ [opening] ++ t ++ [closing]) rest' :=
          seam_concat_ascii (by decide) _ rest'
        rw [List.length_append, List.length_cons] at hn
        rw [Reading.spans_inside_closing label hseam' _ htc htn, brackets_opening htc htn,
          List.map_cons, ih rest'.length (by omega) hseam'' rfl]
        simp
      -- The line ends first.
      · have hseam'' : Seam (x ++ [opening] ++ t ++ [newline]) rest' :=
          seam_concat_ascii (by decide) _ rest'
        rw [List.length_append, List.length_cons] at hn
        rw [Reading.spans_inside_newline label hseam' _ htc htn,
          brackets_opening_of_none (enclosed?_append_newline htc rest'),
          brackets_append_newline htc, ih rest'.length (by omega) hseam'' rfl]
      -- The text ends first.
      · rw [(Reading.inside_after label hseam' _ htc htn).2,
          brackets_opening_of_none (enclosed?_of_not_mem htc), brackets_of_not_mem htc]
        rfl
    -- All bytes of the rune are passed over.
    · have hnot : opening ∉ r.bytes := fun hmem =>
        hro (((isRead_of_nextRune? hr).mem_bytes_iff (by decide)).mp hmem)
      have hlt := length_lt_of_nextRune? hr
      have hread : (Reading.after x none).read label r = Reading.after (x ++ r.bytes) none := by
        rw [Reading.read_after label hseam hr]
        simp [Reading.read, Reading.after, hro]
      rw [runes_of_nextRune? hr, Reading.spans, hread, ih rest.length (by omega) (hseam.read hr) rfl,
        eq_append_of_nextRune? hr, brackets_append_of_not_mem hnot]
      simp [Reading.finished, Reading.after]

/-- A new scanner stands at the beginning. -/
theorem reading_new (label : Bytes) : ({ label } : Scanner).reading = Reading.after [] none := by
  have hcolumn : columnAfter [] = 0 := by
    rw [columnAfter, show lastLine [] = [] from rfl, runes_nil]
    rfl
  rw [Reading.after, hcolumn]
  rfl

/-- All that a scanner hands out of a script that it is fed at once. -/
theorem drain_feed_new (label script : Bytes) :
    ((({ label } : Scanner).feed script).drain).1
      = (brackets [] script).map fun b => ⟨b.text, placeAfter label b.before⟩ := by
  have hahead : (({ label } : Scanner).feed script).ahead ++
      (({ label } : Scanner).feed script).queue.flatten = script := List.append_nil script
  rw [(Scanner.drain_eq (Scanner.sound_feed (Scanner.sound_new label) script)).1, hahead,
    ← spans_eq_brackets label (seam_nil_left script), ← reading_new label]
  rfl

/-- The commands of a script are those of its brackets. -/
theorem readScript_eq_map_command (label script : Bytes) :
    readScript label script =
      (brackets [] script).map fun b => Span.command ⟨b.text, placeAfter label b.before⟩ := by
  show ((({ label } : Scanner).feed script).drain).1.map Span.command = _
  rw [drain_feed_new, List.map_map]
  rfl

theorem closing_not_mem_text {label script : Bytes} {c : Command}
    (h : c ∈ readScript label script) : closing ∉ c.text := by
  rw [readScript_eq_map_command] at h
  obtain ⟨b, hb, rfl⟩ := List.mem_map.mp h
  exact (not_mem_text_of_mem_brackets hb).1

/-- **Reading is searching.** The commands of a script are the spans that `brackets`
finds, in order, each with the kind of its text and with the place of its `<`: the
line is one more than the newlines before it, the column is the number of runes
from the start of its line up to and including it. -/
theorem readScript_eq_brackets (label script : Bytes) :
    readScript label script = (brackets [] script).map fun b =>
      { kind := classify b.text
        text := b.text
        place :=
          { name := label
            line := (1 + b.before.count newline : Nat)
            column := (runes (lastLine b.before)).length } } := by
  show ((({ label } : Scanner).feed script).drain).1.map Span.command = _
  rw [drain_feed_new, List.map_map]
  rfl

end NodeScript
