/-
  The marks of a scanner and the span that it has in hand.

  The buffer of a scanner is cut and its two marks are moved whenever chunks are taken in,
  also in the middle of a span. What stays true through all of this is in `Tracks`: the marks
  lie in order within the buffer, outside a span there is nothing between them, and with the
  bytes still to be read the scanner comes to where reading all of the text would come. One
  lemma for each operation, and one for a turn in looking for a span, carry it through every
  course of requests.

  A finished span waits in a slot with room for one. A mode is run only while the slot is
  empty, and of the spans still to come a run puts at most the first into the slot
  (`spans_of_turn`), so none is ever in the way of another.

  The span that a text leaves open can be told from the text alone: a `>` and a newline end
  every span, so it begins behind the first `<` that comes after them (`openText?`).
-/
import Mathlib.Data.List.DropRight
import Mathlib.Logic.Relation
import NodeScript.Proofs.Script.Turns

namespace NodeScript

/-! ### Spans left open -/

/-- The part of a text behind its last `>` and its last newline. -/
def unended (s : Bytes) : Bytes := s.rtakeWhile fun b => b ≠ closing ∧ b ≠ newline

/-- The text of the span that is left open at the end of a text, if one is: what stands
behind the first `<` of the part in which no span is ended. -/
def openText? (s : Bytes) : Option Bytes := ((unended s).dropWhile (· ≠ opening)).tail?

theorem openText?_concat_of_end {b : UInt8} (hb : b = closing ∨ b = newline) (s : Bytes) :
    openText? (s ++ [b]) = none := by
  have hend : unended (s ++ [b]) = [] := by
    refine List.rtakeWhile_concat_neg _ _ _ ?_
    rcases hb with rfl | rfl <;> decide
  rw [openText?, hend]
  rfl

theorem openText?_concat {b : UInt8} (hb : ¬ (b = closing ∨ b = newline)) (s : Bytes) :
    openText? (s ++ [b]) =
      match openText? s with
      | some t => some (t ++ [b])
      | none => if b = opening then some [] else none := by
  have hgoOn : unended (s ++ [b]) = unended s ++ [b] :=
    List.rtakeWhile_concat_pos _ _ _ (by simpa using hb)
  rw [openText?, openText?, hgoOn, List.dropWhile_append]
  cases (unended s).dropWhile (· ≠ opening) with
  | nil =>
    by_cases hopening : b = opening
    · simp [hopening]
    · simp [hopening]
  | cons a t => rfl

/-- Reading byte by byte leaves open what the text leaves open. -/
theorem Outline.span_readAll_new (s : Bytes) :
    (({} : Outline).readAll s).span.map Prod.fst = openText? s := by
  induction s using List.reverseRecOn with
  | nil => rfl
  | append_singleton s b ih =>
    rw [readAll_append]
    show ((({} : Outline).readAll s).read b).span.map Prod.fst = _
    generalize ({} : Outline).readAll s = o at ih
    by_cases hb : b = closing ∨ b = newline
    · rw [openText?_concat_of_end hb]
      have hb' : b ≠ opening := by rcases hb with rfl | rfl <;> decide
      cases hspan : o.span with
      | none => simp [read, hspan, hb']
      | some p => simp [read, hspan, hb]
    · rw [openText?_concat hb, ← ih]
      cases hspan : o.span with
      | none =>
        by_cases hopening : b = opening
        · simp [read, hspan, hopening]
        · simp [read, hspan, hopening]
      | some p => simp [read, hspan, hb]

-- Of two `<` the first one opens the span, and a span that its line did not end is not open.
example :
    openText? (utf8 "<a>b<c<d") = some (utf8 "c<d") ∧ openText? (utf8 "<a\nb") = none := by
  decide

namespace Scanner

variable {s t t' : Scanner} {fed : Bytes}

/-! ### The buffer -/

/-- The marks are in order and within the buffer, and what is in hand is the piece of the
buffer between them. -/
def InRange (s : Scanner) : Prop :=
  s.first ≤ s.cursor.index ∧ s.cursor.index ≤ s.buffer.length ∧
    s.buffer = s.buffer.take s.first ++ s.text ++ s.ahead

theorem Sound.buffer_eq (hs : s.Sound) : s.buffer = s.buffer.take s.first ++ s.text ++ s.ahead := by
  have hbehind : s.buffer.take s.first = (s.buffer.take s.cursor.index).take s.first := by
    rw [List.take_take, Nat.min_eq_left hs.first_le]
  rw [hbehind, text, List.take_append_drop, ahead, List.take_append_drop]

theorem Sound.inRange (hs : s.Sound) : s.InRange := ⟨hs.first_le, hs.index_le, hs.buffer_eq⟩

/-- The text of a span that a run of a mode finishes is what stands in the buffer between the
mark and a `>`. -/
theorem buffer_of_mem_pending_step (hs : s.Sound) (hp : s.pending = none) {p : Span}
    (h : p ∈ s.step.pending) :
    ∃ rest, s.buffer = s.buffer.take s.first ++ p.text ++ closing :: rest := by
  cases hmode : s.mode with
  | outside =>
    have hpending : s.step.pending = none := by
      simp only [step, hmode, runOutside, skip]
      split <;> exact hp
    rw [hpending] at h
    cases h
  | inside =>
    simp only [step, hmode, runInside] at h
    rcases s.cursor.seek_cases (fun r => r.is '>' || r.is '\n') s.ahead with
      ⟨hseek, -⟩ | ⟨rs, r, rs', hr, -, hstop, hseek⟩
    · simp only [hseek, hp] at h
      cases h
    · simp only [hseek] at h
      by_cases hnewline : r.is '\n' = true
      · simp only [hnewline, if_true, skip, hp] at h
        cases h
      · have hclosing : r.is '>' = true := by simpa [hnewline] using hstop
        obtain rfl : r = .char '>' := of_decide_eq_true hclosing
        simp only [hnewline] at h
        obtain rfl := Option.some.inj h
        have htext : (s.buffer.take (rs.foldl Cursor.advance s.cursor).index).drop s.first
            = s.text ++ Rune.concat rs := text_foldl_advance hs hr
        have hahead : s.ahead = Rune.concat rs ++ closing :: Rune.concat rs' :=
          (runes_concat_of_append hr).1
        refine ⟨Rune.concat rs', ?_⟩
        show s.buffer = s.buffer.take s.first
          ++ (s.buffer.take (rs.foldl Cursor.advance s.cursor).index).drop s.first
          ++ closing :: Rune.concat rs'
        rw [htext]
        nth_rewrite 1 [hs.buffer_eq]
        rw [hahead]
        simp only [List.append_assoc]

/-! ### What stays true -/

/-- The marks are in order, outside a span nothing is in hand, and the scanner will come to
where reading the text `fed` comes. -/
structure Tracks (s : Scanner) (fed : Bytes) : Prop where
  sound : s.Sound
  idle : s.mode = .outside → s.first = s.cursor.index
  outline : s.reading.outline.readAll (s.ahead ++ s.queue.flatten) = ({} : Outline).readAll fed

theorem tracks_new (label : Bytes) : ({ label } : Scanner).Tracks [] :=
  ⟨sound_new label, fun _ => rfl, rfl⟩

theorem Tracks.feed (h : s.Tracks fed) (chunk : Bytes) : (s.feed chunk).Tracks (fed ++ chunk) := by
  refine ⟨sound_feed h.sound chunk, h.idle, ?_⟩
  show s.reading.outline.readAll (s.ahead ++ (s.queue ++ [chunk]).flatten) = _
  rw [List.flatten_append, List.flatten_singleton, ← List.append_assoc, Outline.readAll_append,
    h.outline, Outline.readAll_append]

theorem Tracks.refill (h : s.Tracks fed) : s.refill.Tracks fed := by
  refine ⟨sound_refill h.sound, fun hmode => ?_, ?_⟩
  · unfold Scanner.refill at hmode ⊢
    split
    · next hempty =>
      rw [if_pos hempty] at hmode
      exact h.idle hmode
    · next hempty =>
      rw [if_neg hempty] at hmode
      have hidle := h.idle hmode
      show 0 = s.cursor.index - s.first
      omega
  · rw [reading_refill h.sound, queue_refill, List.flatten_nil, List.append_nil,
      ahead_refill h.sound, h.outline]

theorem idle_step (s : Scanner) (h : s.step.mode = .outside) :
    s.step.first = s.step.cursor.index := by
  revert h
  cases hmode : s.mode with
  | outside =>
    simp only [step, hmode, runOutside]
    rcases s.cursor.seek _ s.ahead with ⟨c, _ | r⟩
    · intro _
      rfl
    · intro h
      cases h
  | inside =>
    simp only [step, hmode, runInside]
    rcases s.cursor.seek _ s.ahead with ⟨c, _ | r⟩
    · intro h
      cases h
    · intro _
      dsimp only
      by_cases hr : r.is '\n' = true
      · rw [if_pos hr]
        rfl
      · rw [if_neg hr]
        rfl

/-- What a run of a mode keeps. -/
theorem Tracks.turn (h : t.Tracks fed) (hturn : t.turn = .inr t') : t'.Tracks fed := by
  obtain ⟨hp, -, rfl⟩ := turn_eq_inr_iff.mp hturn
  have hfollows := follows_step h.sound hp
  refine ⟨hfollows.sound, idle_step t, ?_⟩
  have hfinal := congrArg Reading.outline hfollows.final
  rw [final, final, Reading.outline_readAll, Reading.outline_readAll] at hfinal
  rw [hfollows.queue, Outline.readAll_append, ← hfinal, ← Outline.readAll_append, h.outline]

theorem Tracks.hunt (h : s.Tracks fed) : s.hunt.2.Tracks fed := by
  fun_induction Scanner.hunt s with
  | case1 s p hp => exact ⟨⟨h.sound.first_le, h.sound.index_le⟩, h.idle, h.outline⟩
  | case2 s hp ha => exact h
  | case3 s hp ha ih => exact ih (h.turn (turn_eq_inr_iff.mpr ⟨hp, ha, rfl⟩))

theorem Tracks.next (h : s.Tracks fed) : s.next.2.Tracks fed := h.refill.hunt

theorem Tracks.serve (h : s.Tracks fed) (requests : List Request) :
    (s.serve requests).2.Tracks (fed ++ (Request.texts requests).flatten) := by
  fun_induction Scanner.serve s requests generalizing fed with
  | case1 s => rwa [Request.texts, List.flatten_nil, List.append_nil]
  | case2 s text requests ih =>
    rw [Request.texts, List.flatten_cons, ← List.append_assoc]
    exact ih (h.feed text)
  | case3 s requests answer s' hnext answers s'' hserve ih =>
    have h' := h.next
    rw [hnext] at h'
    rw [hserve] at ih
    exact ih h'

/-- With no text left to read, a scanner has in hand what the text leaves open. -/
theorem Tracks.text_eq (h : s.Tracks fed) (ha : s.ahead = []) (hq : s.queue = []) :
    s.text = (openText? fed).getD [] := by
  have houtline := h.outline
  rw [ha, hq] at houtline
  have hopen : s.reading.span.map Span.text = openText? fed := by
    rw [← Outline.span_readAll_new, ← houtline]
    show _ = (s.reading.span.map Span.outline).map Prod.fst
    rw [Option.map_map]
    rfl
  rw [← hopen]
  cases hmode : s.mode with
  | inside =>
    rw [reading_of_inside hmode]
    rfl
  | outside =>
    have hspan : s.reading.span = none := by simp [reading, hmode]
    rw [hspan, text, h.idle hmode]
    exact List.drop_eq_nil_of_le (List.length_take_le ..)

/-! ### In the middle of a request -/

/-- The scanner `t` is one that a request to `s` comes to between two turns. -/
def Passes (s t : Scanner) : Prop :=
  Relation.ReflTransGen (fun a b : Scanner => a.turn = .inr b) s.refill t

/-- What a request comes to is what it comes to from any of its turns on. -/
theorem hunt_of_passes (h : s.Passes t) : t.hunt = s.next := by
  induction h with
  | refl => rfl
  | tail _ hturn ih =>
    rw [hunt_eq_turn, hturn] at ih
    exact ih

theorem Tracks.of_passes (h : s.Tracks fed) (hpasses : s.Passes t) : t.Tracks fed := by
  induction hpasses with
  | refl => exact h.refill
  | tail _ hturn ih => exact ih.turn hturn

/-- Of the spans still to come, a run of a mode puts at most the first into the slot and
leaves the others to come. -/
theorem spans_of_turn (ht : t.Sound) (h : t.turn = .inr t') :
    t.reading.spans t.label (runes t.ahead) =
      t'.pending.toList ++ t'.reading.spans t'.label (runes t'.ahead) := by
  obtain ⟨hp, -, rfl⟩ := turn_eq_inr_iff.mp h
  have hrest := (follows_step ht hp).rest
  rw [rest, rest, hp] at hrest
  exact hrest

end Scanner

/-- **A scanner keeps its marks in order and its slot free.** After any requests, and before
every turn of the next one up to its answer, the marks are in order and within the buffer, so
that what the scanner has in hand is the piece of the buffer between them. Between requests the
slot is empty, and so it is whenever a mode is run; the run puts at most one span into it, the
first of those to come, whose text is a piece of the buffer up to a `>`. And if the next request
finds no span, no chunk is waiting and none is pending, all of the buffer has been read, and the
scanner has in hand exactly the text of the span that all that was fed leaves open, or nothing
if it leaves none open. -/
theorem scanner_keeps_marks_and_slot (label : Bytes) (requests : List Scanner.Request) :
    let s := (({ label } : Scanner).serve requests).2
    let fed := (Scanner.Request.texts requests).flatten
    s.InRange ∧ s.pending = none ∧
    (∀ t, s.Passes t → t.InRange ∧ (∀ answer, t.turn = .inl answer → s.next = answer) ∧
      ∀ t', t.turn = .inr t' →
        t.pending = none ∧
        t.reading.spans t.label (runes t.ahead) =
          t'.pending.toList ++ t'.reading.spans t'.label (runes t'.ahead) ∧
        ∀ p ∈ t'.pending, ∃ rest, t.buffer = t.buffer.take t.first ++ p.text ++ closing :: rest) ∧
    (s.next.1 = none →
      s.next.2.queue = [] ∧ s.next.2.pending = none ∧
      s.next.2.cursor.index = s.next.2.buffer.length ∧
      s.next.2.text = (openText? fed).getD []) := by
  intro s fed
  have hs : s.Tracks fed := (Scanner.tracks_new label).serve requests
  refine ⟨hs.sound.inRange, Scanner.pending_serve rfl requests, fun t hpasses => ?_,
    fun hnone => ?_⟩
  · have ht := hs.of_passes hpasses
    refine ⟨ht.sound.inRange, fun answer hturn => ?_, fun t' hturn => ?_⟩
    · rw [← Scanner.hunt_of_passes hpasses, Scanner.hunt_eq_turn, hturn]
    obtain ⟨hp, -, rfl⟩ := Scanner.turn_eq_inr_iff.mp hturn
    exact ⟨hp, Scanner.spans_of_turn ht.sound hturn,
      fun p => Scanner.buffer_of_mem_pending_step ht.sound hp⟩
  · obtain ⟨hahead, hp⟩ := (Scanner.follows_next hs.sound).2 hnone
    have hqueue := Scanner.queue_next s
    have hend : s.next.2.buffer.length ≤ s.next.2.cursor.index := List.drop_eq_nil_iff.mp hahead
    exact ⟨hqueue, hp, Nat.le_antisymm hs.next.sound.index_le hend,
      hs.next.text_eq hahead hqueue⟩

-- What has been read stays in the buffer until the next chunk is taken in.
example :
    let s := (({ label := [] } : Scanner).feed (utf8 "ab")).next.2
    let s' := (s.feed (utf8 "<c")).next.2
    (s.buffer, s.first, s.cursor.index) = (utf8 "ab", 2, 2) ∧
      (s'.buffer, s'.first, s'.cursor.index) = (utf8 "<c", 1, 2) := by
  decide +kernel

end NodeScript
