/-
  Completion and the scanner.

  Completion looks back from the cursor for the last `<`, while the scanner goes forward and
  takes a `<` inside a span for text. Both agree on whether the cursor is outside every span:
  then no words are offered. Inside a span without a `<` in its text they agree on all, and
  every word that is offered makes a command of its own (`readScript_finish`). But a span may
  have a `<` in its text. Then the words that begin with the text behind that `<` are offered,
  although no word of the language begins with the text of the span.
-/
import NodeScript.Proofs.Script.Brackets
import NodeScript.Shell.Completion

namespace NodeScript

/-! ### Text without a `<` -/

/-- Text without a `<` goes on with the span that is open, or ends it. -/
theorem Outline.span_readAll {t : Bytes} (ht : opening ∉ t) (o : Outline) :
    (o.readAll t).span =
      if closing ∈ t ∨ newline ∈ t then none else o.span.map fun p => (p.1 ++ t, p.2) := by
  induction t generalizing o with
  | nil =>
    obtain ⟨line, _ | ⟨text, l⟩⟩ := o
    · simp [readAll]
    · simp [readAll]
  | cons b t ih =>
    have hb : b ≠ opening := fun h => ht (h ▸ List.mem_cons_self ..)
    have hrest := ih (fun h => ht (List.mem_cons_of_mem _ h)) (o.read b)
    show ((o.read b).readAll t).span = _
    rw [hrest]
    obtain ⟨line, _ | ⟨text, l⟩⟩ := o
    · simp [read, hb]
    · by_cases hend : b = closing ∨ b = newline
      · have hends : closing ∈ b :: t ∨ newline ∈ b :: t := by
          rcases hend with rfl | rfl
          · exact .inl (List.mem_cons_self ..)
          · exact .inr (List.mem_cons_self ..)
        rw [if_pos hends]
        simp [read, hend]
      · obtain ⟨hclosing, hnewline⟩ := not_or.mp hend
        simp [read, hclosing, hnewline, Ne.symm hclosing, Ne.symm hnewline]

/-! ### The reading of a text -/

namespace Reading

/-- Where reading a text from its beginning leads. -/
def of (label text : Bytes) : Reading := (after [] none).readAll label (runes text)

theorem outline_of (label text : Bytes) : (of label text).outline = ({} : Outline).readAll text :=
  outline_readAll label (after [] none) text

/-- A `<` is always inside a span, which it opens, or of which it is the text. -/
theorem exists_span_of_concat_opening (label text : Bytes) :
    ∃ p, (of label (text ++ [opening])).span = some p ∧
      (p.text = [] ∨ ∃ u, p.text = u ++ [opening]) := by
  have hrunes : runes (text ++ [opening]) = runes text ++ [.char '<'] :=
    runes_concat_ascii (b := opening) (by decide) text
  have hread : of label (text ++ [opening]) = (of label text).read label (.char '<') := by
    unfold of
    rw [hrunes, readAll_append]
    rfl
  rw [hread]
  cases hspan : (of label text).span with
  | none => exact ⟨_, by simp [read, hspan, Rune.is]; rfl, .inl rfl⟩
  | some p => exact ⟨_, by simp [read, hspan, Rune.is]; rfl, .inr ⟨p.text, rfl⟩⟩

end Reading

theorem readScript_eq_spans (label script : Bytes) :
    readScript label script =
      ((Reading.after [] none).spans label (runes script)).map Span.command := by
  rw [readScript_eq_map_command, spans_eq_brackets label (seam_nil_left script), List.map_map]
  rfl

theorem Reading.of_eq_after (label text : Bytes) :
    of label text = after text (of label text).span :=
  readAll_after label (seam_nil_left text) none

variable {label text t : Bytes} {p : Span}

theorem Reading.of_append (hseam : Seam text t) :
    of label (text ++ t) = (of label text).readAll label (runes t) := by
  unfold of
  rw [runes_append hseam, readAll_append]

theorem readScript_append (hseam : Seam text t) :
    readScript label (text ++ t) =
      readScript label text ++ ((Reading.of label text).spans label (runes t)).map Span.command := by
  rw [readScript_eq_spans, readScript_eq_spans, runes_append hseam, Reading.spans_append,
    List.map_append]
  rfl

/-- Inside a span, text that does not end it is its text, and finishes nothing. -/
theorem Reading.goOn (hp : (of label text).span = some p) (hseam : ∀ t, Seam text t)
    (hclosing : closing ∉ t) (hnewline : newline ∉ t) :
    (of label (text ++ t)).span = some ⟨p.text ++ t, p.place⟩ ∧
      readScript label (text ++ t) = readScript label text := by
  have hof : of label text = after text (some p) := hp ▸ of_eq_after label text
  obtain ⟨hall, hspans⟩ := inside_after label (hseam t) p hclosing hnewline
  rw [of_append (hseam t), readScript_append (hseam t), hof, hall, hspans]
  exact ⟨rfl, List.append_nil _⟩

/-- Inside a span, a `>` finishes it. -/
theorem readScript_finish (hp : (Reading.of label text).span = some p)
    (hseam : ∀ t, Seam text t) (hclosing : closing ∉ t) (hnewline : newline ∉ t) :
    readScript label (text ++ t ++ [closing]) =
      readScript label text ++ [Span.command ⟨p.text ++ t, p.place⟩] := by
  have hof : Reading.of label text = .after text (some p) := hp ▸ Reading.of_eq_after label text
  rw [List.append_assoc, readScript_append (hseam _), hof,
    Reading.spans_inside_closing label (hseam t) p hclosing hnewline, runes_nil]
  rfl

/-! ### The scanner at the cursor -/

namespace Scanner

/-- The scanner that has been fed a text and has handed out all its spans. -/
def drained (label text : Bytes) : Scanner := ((({ label } : Scanner).feed text).drain).2

theorem reading_drained (label text : Bytes) : (drained label text).reading = .of label text := by
  have htext : (({ label } : Scanner).feed text).ahead ++
      (({ label } : Scanner).feed text).queue.flatten = text := List.append_nil text
  have hdrain := (drain_eq (sound_feed (sound_new label) text)).2
  rw [htext] at hdrain
  rw [drained, hdrain, Reading.of, ← reading_new label]
  rfl

theorem span_of_inside (h : (drained label text).mode = .inside) :
    (Reading.of label text).span = some ⟨(drained label text).text, (drained label text).opened⟩ := by
  rw [← reading_drained, reading_of_inside h]

theorem mode_eq_outside_iff : (drained label text).mode = .outside ↔
    (Reading.of label text).span = none := by
  rw [← reading_drained]
  unfold reading
  cases (drained label text).mode with
  | outside => simp
  | inside => simp

/-- Behind the last `<`, the scanner is outside if a `>` or a newline follows. -/
theorem mode_drained_of_end (label text : Bytes) (ht : opening ∉ t) (hend : closing ∈ t ∨ newline ∈ t) :
    (drained label (text ++ t)).mode = .outside := by
  have houtline := Outline.span_readAll ht (({} : Outline).readAll text)
  rw [if_pos hend, ← Outline.readAll_append, ← Reading.outline_of label] at houtline
  rw [mode_eq_outside_iff]
  exact Option.map_eq_none_iff.mp houtline

theorem mode_drained_of_not_mem (label : Bytes) (ht : opening ∉ t) : (drained label t).mode = .outside := by
  have houtline := Outline.span_readAll ht {}
  rw [← Reading.outline_of label, Option.map_none, ite_self] at houtline
  rw [mode_eq_outside_iff]
  exact Option.map_eq_none_iff.mp houtline

end Scanner

/-! ### Words that are offered -/

theorem not_mem_keyword {kw : Bytes} (h : kw ∈ keywords) :
    opening ∉ kw ∧ closing ∉ kw ∧ newline ∉ kw := by
  revert kw
  decide

theorem classify_word {r : Rule} (h : r ∈ rules) : classify r.word = r.kind := by
  revert r
  decide +kernel

/-- A text with a byte that no word has is the beginning of none. -/
theorem filter_keywords_eq_nil {b : UInt8} (hb : b ∈ t) (hwords : ∀ kw ∈ keywords, b ∉ kw) :
    keywords.filter (t.isPrefixOf ·) = [] := by
  rw [List.filter_eq_nil_iff]
  intro kw hkw hbegins
  exact hwords kw hkw ((List.isPrefixOf_iff_prefix.mp hbegins).mem hb)

variable {line before word : Bytes} {n : Nat}

theorem complete?_of_le (hn : n ≤ line.length) :
    complete? line n = match Bytes.cutLast? opening (line.take n) with
      | none => some ⟨line.take n, [], line.drop n⟩
      | some (before, word) =>
        if word.contains closing then some ⟨line.take n, [], line.drop n⟩
        else some ⟨before, keywords.filter (word.isPrefixOf ·), line.drop n⟩ := by
  have hposition : ¬ ((n : Int) < 0 ∨ (line.length : Int) < n) := by omega
  unfold complete?
  exact if_neg hposition

/-- If neither a `>` nor a newline stands behind the last `<`, the scanner is inside a span,
whose text ends with what stands there. -/
theorem Scanner.inside_drained (label u : Bytes) (hclosing : closing ∉ word)
    (hnewline : newline ∉ word) :
    let s := drained label (u ++ [opening] ++ word)
    s.mode = .inside ∧ ∃ earlier, s.text = earlier ++ word ∧
      (earlier = [] ∨ ∃ v, earlier = v ++ [opening]) ∧
      ∀ kw, closing ∉ kw → newline ∉ kw →
        readScript label (u ++ [opening] ++ kw ++ [closing]) =
          readScript label (u ++ [opening] ++ word) ++ [Span.command ⟨earlier ++ kw, s.opened⟩] := by
  intro s
  have hseam : ∀ t, Seam (u ++ [opening]) t := fun t => seam_concat_ascii (by decide) u t
  obtain ⟨p, hp, hends⟩ := Reading.exists_span_of_concat_opening label u
  obtain ⟨hspan, hscript⟩ := Reading.goOn hp hseam hclosing hnewline
  have hmode : s.mode = .inside := by
    cases hmode : s.mode with
    | inside => rfl
    | outside =>
      rw [mode_eq_outside_iff.mp hmode] at hspan
      cases hspan
  have hsame := hspan.symm.trans (span_of_inside hmode)
  simp only [Option.some.injEq, Span.mk.injEq] at hsame
  obtain ⟨htext, hplace⟩ := hsame
  refine ⟨hmode, p.text, htext.symm, hends, ?_⟩
  intro kw hkwclosing hkwnewline
  rw [readScript_finish hp hseam hkwclosing hkwnewline, hscript, hplace]

theorem complete?_outside (hn : n ≤ line.length)
    (hmode : (Scanner.drained label (line.take n)).mode = .outside) :
    ∃ head, complete? line n = some ⟨head, [], line.drop n⟩ := by
  rw [complete?_of_le hn]
  cases hcut : Bytes.cutLast? opening (line.take n) with
  | none => exact ⟨_, rfl⟩
  | some cut =>
    obtain ⟨before, word⟩ := cut
    obtain ⟨u, rfl, hline, -⟩ := Bytes.eq_of_cutLast? hcut
    dsimp only
    by_cases hclosing : closing ∈ word
    · rw [if_pos (List.contains_iff_mem.mpr hclosing)]
      exact ⟨_, rfl⟩
    · have hnewline : newline ∈ word := by
        by_contra hnewline
        have hinside := (Scanner.inside_drained label u hclosing hnewline).1
        rw [List.append_assoc, List.singleton_append, ← hline, hmode] at hinside
        cases hinside
      -- The last `<` is on an earlier line, and no word goes on over a newline.
      have hnone := filter_keywords_eq_nil hnewline fun kw hkw => (not_mem_keyword hkw).2.2
      rw [if_neg (fun h => hclosing (List.contains_iff_mem.mp h)), hnone]
      exact ⟨_, rfl⟩

theorem complete?_inside (hn : n ≤ line.length)
    (hmode : (Scanner.drained label (line.take n)).mode = .inside) :
    ∃ u typed, line.take n = u ++ [opening] ++ typed ∧
      opening ∉ typed ∧ closing ∉ typed ∧ newline ∉ typed ∧
      complete? line n =
        some ⟨u ++ [opening], keywords.filter (typed.isPrefixOf ·), line.drop n⟩ := by
  rw [complete?_of_le hn]
  cases hcut : Bytes.cutLast? opening (line.take n) with
  | none =>
    have houtside := Scanner.mode_drained_of_not_mem label (Bytes.cutLast?_eq_none_iff.mp hcut)
    rw [hmode] at houtside
    cases houtside
  | some cut =>
    obtain ⟨before, typed⟩ := cut
    obtain ⟨u, rfl, hline, htyped⟩ := Bytes.eq_of_cutLast? hcut
    have hline : line.take n = u ++ [opening] ++ typed := by
      rw [hline, List.append_assoc, List.singleton_append]
    have hnoend : ¬ (closing ∈ typed ∨ newline ∈ typed) := by
      intro hend
      have houtside := Scanner.mode_drained_of_end label (u ++ [opening]) htyped hend
      rw [← hline, hmode] at houtside
      cases houtside
    obtain ⟨hclosing, hnewline⟩ := not_or.mp hnoend
    refine ⟨u, typed, hline, htyped, hclosing, hnewline, ?_⟩
    dsimp only
    rw [if_neg fun h => hclosing (List.contains_iff_mem.mp h)]

/-- **Completion goes by the last `<`.** At every position of a line, whatever bytes it holds:
if the scanner is outside every span there, no words are offered. If it is inside a span whose
text has no `<`, exactly the words are offered that begin with the text, in the order of the
rules, and each of them makes a command with this word for its text and with the kind of the
word. If the text of the span has a `<`, no word begins with it; still those are offered that
begin with what stands behind the last `<`, and they only become the end of the text. -/
theorem completion_goes_by_last_opening (label line : Bytes) (n : Nat) (hn : n ≤ line.length) :
    let s := Scanner.drained label (line.take n)
    ∃ c, complete? line n = some c ∧ c.tail = line.drop n ∧
      (s.mode = .outside → c.words = []) ∧
      (s.mode = .inside → opening ∉ s.text →
        c.words = keywords.filter (s.text.isPrefixOf ·) ∧
        ∀ r ∈ rules, r.word ∈ c.words →
          readScript label (c.head ++ r.word ++ [closing]) =
            readScript label (line.take n) ++ [⟨r.kind, r.word, s.opened⟩]) ∧
      (s.mode = .inside → opening ∈ s.text →
        keywords.filter (s.text.isPrefixOf ·) = [] ∧
        ∃ earlier typed, s.text = earlier ++ [opening] ++ typed ∧ opening ∉ typed ∧
          c.words = keywords.filter (typed.isPrefixOf ·) ∧
          ∀ r ∈ rules, r.word ∈ c.words →
            readScript label (c.head ++ r.word ++ [closing]) =
              readScript label (line.take n) ++
                [Span.command ⟨earlier ++ [opening] ++ r.word, s.opened⟩]) := by
  intro s
  have hplain : ∀ r ∈ rules, closing ∉ r.word ∧ newline ∉ r.word := fun r hr =>
    (not_mem_keyword (List.mem_map_of_mem hr)).2
  cases hmode : s.mode with
  | outside =>
    obtain ⟨head, hcomplete⟩ := complete?_outside hn hmode
    exact ⟨_, hcomplete, rfl, fun _ => rfl, nofun, nofun⟩
  | inside =>
    obtain ⟨u, typed, hline, htyped, hclosing, hnewline, hcomplete⟩ := complete?_inside hn hmode
    obtain ⟨-, earlier, htext, hearlier, hcommand⟩ :=
      Scanner.inside_drained label u hclosing hnewline
    rw [← hline] at htext hcommand
    have htext : s.text = earlier ++ typed := htext
    refine ⟨_, hcomplete, rfl, nofun, fun _ hnot => ?_, fun _ hmem => ?_⟩
    · have hnil : earlier = [] := by
        rcases hearlier with hnil | ⟨v, hv⟩
        · exact hnil
        · apply absurd _ hnot
          rw [htext, hv]
          simp
      rw [hnil, List.nil_append] at htext
      rw [htext]
      refine ⟨rfl, fun r hr _ => ?_⟩
      rw [hcommand r.word (hplain r hr).1 (hplain r hr).2, hnil, List.nil_append, Span.command,
        classify_word hr]
    · obtain ⟨v, rfl⟩ : ∃ v, earlier = v ++ [opening] := by
        rcases hearlier with hnil | hv
        · rw [htext, hnil, List.nil_append] at hmem
          exact absurd hmem htyped
        · exact hv
      refine ⟨filter_keywords_eq_nil hmem fun kw hkw => (not_mem_keyword hkw).1, v, typed, htext,
        htyped, rfl, fun r hr _ => ?_⟩
      exact hcommand r.word (hplain r hr).1 (hplain r hr).2

/-- Behind a span that is finished and an open one, of which the first letters of three words
have been typed, the cursor stands in the middle of a line. -/
theorem completion_goes_by_last_opening_of_two :
    let line := utf8 "<LOG()> x <StTail"
    let s := Scanner.drained [] (line.take 13)
    13 ≤ line.length ∧ s.mode = .inside ∧ opening ∉ s.text ∧
      ∃ c, complete? line 13 = some c ∧ c.tail = utf8 "Tail" ∧
        c.words = [utf8 "Start(", utf8 "Stop(", utf8 "Stat"] ∧
        readScript [] (c.head ++ utf8 "Stat" ++ [closing]) =
          readScript [] (line.take 13) ++ [⟨.stat, utf8 "Stat", s.opened⟩] := by
  intro line s
  have hn : 13 ≤ line.length := by decide
  have hmode : s.mode = .inside := by decide +kernel
  have htext : s.text = utf8 "St" := by decide +kernel
  have hnot : opening ∉ s.text := by rw [htext]; decide
  obtain ⟨c, hcomplete, htail, -, hinside, -⟩ := completion_goes_by_last_opening [] line 13 hn
  obtain ⟨hwords, hcommands⟩ := hinside hmode hnot
  have hoffered : c.words = [utf8 "Start(", utf8 "Stop(", utf8 "Stat"] := by
    rw [hwords]
    show keywords.filter (s.text.isPrefixOf ·) = _
    rw [htext]
    decide
  refine ⟨hn, hmode, hnot, c, hcomplete, htail, hoffered, ?_⟩
  exact hcommands ⟨.stat, utf8 "Stat", .atStart⟩ (by decide) (by rw [hoffered]; decide)

/-- Behind two opening brackets the scanner is inside a span with the text `<`, which no word
begins with. All words are offered, and the word that is taken does not become a command. -/
theorem completion_offers_all_behind_second_opening :
    let line := utf8 "<<"
    let s := Scanner.drained [] (line.take 2)
    s.mode = .inside ∧ s.text = utf8 "<" ∧ keywords.filter (s.text.isPrefixOf ·) = [] ∧
      complete? line 2 = some ⟨utf8 "<<", keywords, []⟩ ∧
      readScript [] (utf8 "<<" ++ utf8 "LOG" ++ [closing]) =
        [⟨.unrecognized, utf8 "<LOG", ⟨[], 1, 1⟩⟩] := by
  intro line s
  have hmode : s.mode = .inside := by decide +kernel
  have htext : s.text = utf8 "<" := by decide +kernel
  refine ⟨hmode, htext, ?_, by decide, by decide +kernel⟩
  rw [htext]
  decide

end NodeScript
