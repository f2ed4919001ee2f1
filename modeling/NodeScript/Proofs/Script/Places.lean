/-
  Where the commands of one reader stand.

  A reader that is fed chunk by chunk decodes every chunk on its own. Where a cut goes
  through a character, the parts count as runes of their own, so columns need not be those
  of the whole script. But the reader still goes through one list of runes, those of the
  first chunk, then those of the second, and so on (`commands_readAll`), and every rune
  moves it to the next column or to the next line (`position_lt_read`).

  A span that is finished was open before, or is opened at a place that is still to come
  (`place_of_mem_spans`). With the span that is open never ahead of the reading (`Placed`),
  the places of all commands ascend, whatever the chunks are.
-/
import Mathlib.Data.Prod.Lex
import NodeScript.Proofs.Script.Scanning

namespace NodeScript

/-! ### Positions -/

/-- Line and column of a place, ordered by the line first. -/
def Location.position (l : Location) : ℤ ×ₗ ℤ := toLex (l.line, l.column)

namespace Reading

variable {label : Bytes} {s : Reading} {r : Rune} {p : Span}

/-- The line and the column that a reading has come to. -/
def position (s : Reading) : ℤ ×ₗ ℤ := toLex ((s.line : ℤ), (s.column : ℤ))

/-- Every rune moves a reading on. -/
theorem position_lt_read (label : Bytes) (s : Reading) (r : Rune) :
    s.position < (s.read label r).position := by
  rw [position, position, Prod.Lex.toLex_lt_toLex]
  by_cases hr : r.is '\n' = true
  · left
    simp only [read, hr, if_true]
    omega
  · right
    simp only [read, hr]
    constructor
    · rfl
    · show (s.column : ℤ) < ((s.column + 1 : ℕ) : ℤ)
      omega

/-- A span that is open after one more rune was open before it, or has just been opened
where the reading has come to. -/
theorem place_of_mem_span_read (h : p ∈ (s.read label r).span) :
    (∃ q ∈ s.span, p.place = q.place) ∨
      (s.line = p.place.line ∧ s.column < p.place.column ∧
        p.place.position = (s.read label r).position) := by
  cases hspan : s.span with
  | none =>
    right
    simp only [read, hspan, Option.mem_def, Option.ite_none_right_eq_some] at h
    obtain ⟨hopening, hp⟩ := h
    obtain rfl : r = .char '<' := of_decide_eq_true hopening
    cases hp
    exact ⟨rfl, Int.lt_add_one_of_le (Int.le_refl _), rfl⟩
  | some q =>
    left
    simp only [read, hspan, Option.mem_def, Option.ite_none_left_eq_some] at h
    obtain ⟨-, hp⟩ := h
    cases hp
    exact ⟨q, rfl, rfl⟩

/-! ### Spans in order -/

/-- The span that is open has a place in the script, and the reading is not before it. -/
structure Placed (s : Reading) : Prop where
  line : 1 ≤ s.line
  counted : ∀ p ∈ s.span, 1 ≤ p.place.line ∧ 1 ≤ p.place.column
  reached : ∀ p ∈ s.span, p.place.position ≤ s.position

theorem Placed.read (h : s.Placed) (label : Bytes) (r : Rune) : (s.read label r).Placed := by
  have hline := h.line
  refine ⟨?_, fun p hp => ?_, fun p hp => ?_⟩
  · show 1 ≤ if r.is '\n' then s.line + 1 else s.line
    split
    · exact Nat.le_succ_of_le hline
    · exact hline
  · rcases place_of_mem_span_read hp with ⟨q, hq, hplace⟩ | ⟨hpline, hpcolumn, -⟩
    · rw [hplace]
      exact h.counted q hq
    · omega
  · rcases place_of_mem_span_read hp with ⟨q, hq, hplace⟩ | ⟨-, -, hposition⟩
    · rw [hplace]
      exact (h.reached q hq).trans (position_lt_read label s r).le
    · exact hposition.le

/-- A span that a rune finishes was open, and nothing is open behind it. -/
theorem mem_of_mem_finished (label : Bytes) (h : p ∈ s.finished r) :
    p ∈ s.span ∧ (s.read label r).span = none := by
  unfold finished at h
  split at h
  · next hr =>
    have hp := Option.mem_toList.mp h
    refine ⟨hp, ?_⟩
    simp [read, Option.mem_def.mp hp, hr]
  · cases h

/-- A span that more runes finish is open already, or is opened further on. -/
theorem place_of_mem_spans {rs : List Rune} (h : p ∈ s.spans label rs) :
    (∃ q ∈ s.span, p.place = q.place) ∨ s.position < p.place.position := by
  induction rs generalizing s with
  | nil => cases h
  | cons r rs ih =>
    have hmoved := position_lt_read label s r
    rw [spans, List.mem_append] at h
    rcases h with h | h
    · exact .inl ⟨p, (mem_of_mem_finished label h).1, rfl⟩
    · rcases ih h with ⟨q, hq, hplace⟩ | hlater
      · rcases place_of_mem_span_read hq with ⟨q', hq', hplace'⟩ | ⟨-, -, hposition⟩
        · exact .inl ⟨q', hq', hplace.trans hplace'⟩
        · rw [hplace, hposition]
          exact .inr hmoved
      · exact .inr (hmoved.trans hlater)

/-- The spans that runes finish stand one behind the other. -/
theorem Placed.pairwise_spans (h : s.Placed) (label : Bytes) (rs : List Rune) :
    (s.spans label rs).Pairwise fun p q => p.place.position < q.place.position := by
  induction rs generalizing s with
  | nil => exact .nil
  | cons r rs ih =>
    have hmoved := position_lt_read label s r
    rw [spans, List.pairwise_append]
    refine ⟨?_, ih (h.read label r), fun p hp q hq => ?_⟩
    -- A rune finishes one span at most.
    · unfold finished
      split
      · cases s.span with
        | none => exact .nil
        | some p => exact List.pairwise_singleton _ p
      · exact .nil
    -- What is finished later is opened later, since nothing is open in between.
    · obtain ⟨hopen, hnone⟩ := mem_of_mem_finished label hp
      rcases place_of_mem_spans hq with ⟨q', hq', -⟩ | hlater
      · rw [hnone] at hq'
        cases hq'
      · exact ((h.reached p hopen).trans_lt hmoved).trans hlater

/-- Lines and columns are counted from one. -/
theorem Placed.counted_of_mem_spans (h : s.Placed) {rs : List Rune} (hp : p ∈ s.spans label rs) :
    1 ≤ p.place.line ∧ 1 ≤ p.place.column := by
  induction rs generalizing s with
  | nil => cases hp
  | cons r rs ih =>
    rw [spans, List.mem_append] at hp
    rcases hp with hp | hp
    · exact h.counted p (mem_of_mem_finished label hp).1
    · exact ih (h.read label r) hp

end Reading

/-! ### Chunks -/

/-- Reading chunk by chunk is reading the runes of the chunks, each decoded on its own. -/
theorem Scanner.commands_readAll {s : Scanner} (hs : s.Sound) (ha : s.ahead = [])
    (hp : s.pending = none) (hq : s.queue = []) (chunks : List Bytes) :
    (s.readAll chunks).1.flatten =
      (s.reading.spans s.label (chunks.flatMap runes)).map Span.command := by
  induction chunks generalizing s with
  | nil => rfl
  | cons chunk chunks ih =>
    have hfeed := sound_feed hs chunk
    have hahead : (s.feed chunk).ahead ++ (s.feed chunk).queue.flatten = chunk := by
      show s.ahead ++ (s.queue ++ [chunk]).flatten = chunk
      rw [ha, hq]
      simp
    have hpending : (s.feed chunk).pending = none := hp
    obtain ⟨hspans, hreading⟩ := drain_eq hfeed
    obtain ⟨hfollows, ha', hp', hq'⟩ := follows_drain hfeed
    have hlabel : (s.feed chunk).drain.2.label = s.label := by
      rw [hfollows.label, label_refill]
      rfl
    rw [hahead, hpending, Option.toList_none, List.nil_append] at hspans
    rw [hahead] at hreading
    show (s.feed chunk).drain.1.map Span.command
      ++ ((s.feed chunk).drain.2.readAll chunks).1.flatten = _
    rw [ih hfollows.sound ha' hp' hq', hlabel, hreading, hspans, List.flatMap_cons,
      Reading.spans_append, List.map_append]
    rfl

/-- **The commands of one reader stand in order.** However a text is cut into chunks, also
inside characters, the places of the commands that are handed out for all chunks, one after
another, ascend strictly, by lines first and by columns on the same line. Lines and columns
are counted from one, and no two commands have the same place. -/
theorem commands_stand_in_order (label : Bytes) (chunks : List Bytes) :
    let commands := (({ label } : Scanner).readAll chunks).1.flatten
    (commands.Pairwise fun c c' =>
      c.place.line < c'.place.line ∨
        c.place.line = c'.place.line ∧ c.place.column < c'.place.column) ∧
    (∀ c ∈ commands, 1 ≤ c.place.line ∧ 1 ≤ c.place.column) ∧
    (commands.map Command.place).Nodup := by
  intro commands
  let fresh : Scanner := { label }
  have hcommands : commands = (fresh.reading.spans label (chunks.flatMap runes)).map Span.command :=
    Scanner.commands_readAll (Scanner.sound_new label) rfl rfl rfl chunks
  have hplaced : fresh.reading.Placed := ⟨Nat.le_refl 1, nofun, nofun⟩
  have hordered : commands.Pairwise fun c c' => c.place.position < c'.place.position := by
    rw [hcommands, List.pairwise_map]
    exact hplaced.pairwise_spans label _
  refine ⟨hordered.imp fun h => ?_, fun c hc => ?_, ?_⟩
  · exact Prod.Lex.toLex_lt_toLex.mp h
  · rw [hcommands] at hc
    obtain ⟨p, hp, rfl⟩ := List.mem_map.mp hc
    exact hplaced.counted_of_mem_spans hp
  · rw [List.Nodup, List.pairwise_map]
    refine hordered.imp fun h heq => ?_
    rw [heq] at h
    exact lt_irrefl _ h

-- A character that is cut in two takes two columns, so the second command stands one column
-- further on than in the whole script.
example :
    let chunks := [utf8 "<a>" ++ [0xC3], [0xA9] ++ utf8 "<b>"]
    (({ label := [] } : Scanner).readAll chunks).1.flatten.map (·.place.column) = [1, 6] ∧
      (readScript [] chunks.flatten).map (·.place.column) = [1, 5] := by
  decide +kernel

end NodeScript
