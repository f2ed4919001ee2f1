/-
  What a scanner does, without its buffer.

  A scanner stands for a reading (`Scanner.reading`), and the bytes ahead of it
  for spans it will still hand out (`Scanner.rest`). Asking for a span takes the
  first of them and leaves the others, and there is nothing to take only if there
  is none (`follows_next`). New chunks are put behind the bytes
  ahead and change nothing else (`reading_refill`, `ahead_refill`), although the
  buffer is cut and all marks in it are moved.

  One statement carries all of this: `Follows s s' out` says that the scanner `s`
  may hand out `out` and go on as `s'`. A run of a mode follows with nothing
  handed out (`follows_step`), and following is transitive.
-/
import NodeScript.Script.Reader
import NodeScript.Proofs.Script.Reading

namespace NodeScript

/-! ### Seeking -/

namespace Cursor

theorem index_advance (c : Cursor) (r : Rune) :
    (c.advance r).index = c.index + r.bytes.length := by
  unfold advance
  split <;> rfl

theorem index_foldl_advance (c : Cursor) (rs : List Rune) :
    (rs.foldl advance c).index = c.index + (Rune.concat rs).length := by
  induction rs generalizing c with
  | nil => rfl
  | cons r rs ih =>
    rw [List.foldl_cons, ih, index_advance, Rune.concat, Rune.concat, List.flatMap_cons,
      List.length_append, Nat.add_assoc]

/-- Seeking passes over runes at which `stop` does not hold, up to the first at
which it does, or over all there are. -/
theorem seek_cases (stop : Rune → Bool) (c : Cursor) (ahead : Bytes) :
    (seek stop c ahead = ((runes ahead).foldl advance c, none) ∧
      ∀ r ∈ runes ahead, stop r = false) ∨
    ∃ rs r rs', runes ahead = rs ++ r :: rs' ∧ (∀ x ∈ rs, stop x = false) ∧ stop r = true ∧
      seek stop c ahead = (rs.foldl advance c, some r) := by
  fun_induction seek stop c ahead with
  | case1 c ahead h =>
    rw [nextRune?_eq_none_iff.mp h, runes_nil]
    exact Or.inl ⟨rfl, by simp⟩
  | case2 c ahead r rest h hs =>
    exact Or.inr ⟨[], r, runes rest, runes_of_nextRune? h, by simp, hs, rfl⟩
  | case3 c ahead r rest h hs ih =>
    rw [runes_of_nextRune? h]
    have hs : stop r = false := by simpa using hs
    rcases ih with ⟨heq, hall⟩ | ⟨rs, x, rs', hr, hall, hx, heq⟩
    · refine Or.inl ⟨heq, fun y hy => ?_⟩
      rcases List.mem_cons.mp hy with rfl | hy
      · exact hs
      · exact hall y hy
    · refine Or.inr ⟨r :: rs, x, rs', by rw [hr, List.cons_append], fun y hy => ?_, hx, heq⟩
      rcases List.mem_cons.mp hy with rfl | hy
      · exact hs
      · exact hall y hy

/-- Runes without a `<` move a reading outside a span like a cursor. -/
theorem readAll_outside (label : Bytes) (c : Cursor) {rs : List Rune}
    (h : ∀ r ∈ rs, r.is '<' = false) :
    (⟨c.line, c.column, none⟩ : Reading).readAll label rs
      = ⟨(rs.foldl advance c).line, (rs.foldl advance c).column, none⟩ ∧
    (⟨c.line, c.column, none⟩ : Reading).spans label rs = [] := by
  induction rs generalizing c with
  | nil => exact ⟨rfl, rfl⟩
  | cons r rs ih =>
    have hr : r.is '<' = false := h r (List.mem_cons_self ..)
    have hread : (⟨c.line, c.column, none⟩ : Reading).read label r
        = ⟨(c.advance r).line, (c.advance r).column, none⟩ := by
      unfold Reading.read advance
      split <;> simp [hr]
    obtain ⟨hall, hspans⟩ := ih (c.advance r) fun x hx => h x (List.mem_cons_of_mem _ hx)
    constructor
    · show ((⟨c.line, c.column, none⟩ : Reading).read label r).readAll label rs = _
      rw [hread, hall]
      rfl
    · rw [Reading.spans, hread, hspans]
      simp [Reading.finished]

/-- Runes without a `>` or newline move a reading inside a span like a cursor, and
are text of the span. -/
theorem readAll_inside (label : Bytes) (c : Cursor) (p : Span) {rs : List Rune}
    (h : ∀ r ∈ rs, (r.is '>' || r.is '\n') = false) :
    (⟨c.line, c.column, some p⟩ : Reading).readAll label rs
      = ⟨(rs.foldl advance c).line, (rs.foldl advance c).column,
          some ⟨p.text ++ Rune.concat rs, p.place⟩⟩ ∧
    (⟨c.line, c.column, some p⟩ : Reading).spans label rs = [] := by
  induction rs generalizing c p with
  | nil => exact ⟨by simp [Reading.readAll, Rune.concat], rfl⟩
  | cons r rs ih =>
    have hr : (r.is '>' || r.is '\n') = false := h r (List.mem_cons_self ..)
    obtain ⟨hg, hn⟩ := Bool.or_eq_false_iff.mp hr
    have hread : (⟨c.line, c.column, some p⟩ : Reading).read label r
        = ⟨(c.advance r).line, (c.advance r).column, some ⟨p.text ++ r.bytes, p.place⟩⟩ := by
      simp [Reading.read, advance, hg, hn]
    obtain ⟨hall, hspans⟩ := ih (c.advance r) ⟨p.text ++ r.bytes, p.place⟩
      fun x hx => h x (List.mem_cons_of_mem _ hx)
    constructor
    · show ((⟨c.line, c.column, some p⟩ : Reading).read label r).readAll label rs = _
      rw [hread, hall]
      simp [Rune.concat]
    · rw [Reading.spans, hread, hspans]
      simp [Reading.finished, hg]

end Cursor

/-! ### Scanners as readings -/

namespace Scanner

/-- The marks of a scanner lie in order within its buffer. -/
structure Sound (s : Scanner) : Prop where
  first_le : s.first ≤ s.cursor.index
  index_le : s.cursor.index ≤ s.buffer.length

/-- The reading that a scanner stands for. -/
def reading (s : Scanner) : Reading where
  line := s.cursor.line
  column := s.cursor.column
  span := match s.mode with
    | .outside => none
    | .inside => some ⟨s.text, s.opened⟩

/-- The spans that a scanner will hand out without another chunk. -/
def rest (s : Scanner) : List Span :=
  s.pending.toList ++ s.reading.spans s.label (runes s.ahead)

/-- The reading at the end of the buffer. -/
def final (s : Scanner) : Reading := s.reading.readAll s.label (runes s.ahead)

/-- The scanner `s` may hand out `out` and go on as `s'`. -/
structure Follows (s s' : Scanner) (out : List Span) : Prop where
  sound : s'.Sound
  label : s'.label = s.label
  queue : s'.queue = s.queue
  ahead : s'.ahead <:+ s.ahead
  rest : s.rest = out ++ s'.rest
  final : s.final = s'.final

theorem Follows.refl {s : Scanner} (h : s.Sound) : Follows s s [] :=
  ⟨h, rfl, rfl, List.suffix_rfl, rfl, rfl⟩

theorem Follows.trans {s s' s'' : Scanner} {out out' : List Span} (h : Follows s s' out)
    (h' : Follows s' s'' out') : Follows s s'' (out ++ out') where
  sound := h'.sound
  label := h'.label.trans h.label
  queue := h'.queue.trans h.queue
  ahead := h'.ahead.trans h.ahead
  rest := by rw [h.rest, h'.rest, List.append_assoc]
  final := h.final.trans h'.final

/-! ### Runs of a mode -/

theorem suffix_of_runes_eq_append {s t : Bytes} {rs rs' : List Rune} (h : runes s = rs ++ rs')
    (h' : runes t = rs') : t <:+ s := by
  rw [← concat_runes t, h', (runes_concat_of_append h).1]
  exact List.suffix_append _ _

/-- Moving the cursor over the first of the runes ahead leaves the others ahead. -/
theorem runes_drop_foldl_advance {s : Scanner} (hs : s.Sound) {rs rs' : List Rune}
    (h : runes s.ahead = rs ++ rs') :
    (rs.foldl Cursor.advance s.cursor).index ≤ s.buffer.length ∧
    runes (s.buffer.drop (rs.foldl Cursor.advance s.cursor).index) = rs' := by
  obtain ⟨hcut, hrs'⟩ := runes_concat_of_append h
  have hlen := congrArg List.length hcut
  rw [ahead, List.length_drop, List.length_append] at hlen
  have hle := hs.index_le
  rw [Cursor.index_foldl_advance]
  constructor
  · omega
  · rw [← List.drop_drop, ← ahead, hcut, List.drop_left, hrs']

/-- Moving the cursor over the first of the runes ahead adds them to the text. -/
theorem text_foldl_advance {s : Scanner} (hs : s.Sound) {rs rs' : List Rune}
    (h : runes s.ahead = rs ++ rs') :
    (s.buffer.take (rs.foldl Cursor.advance s.cursor).index).drop s.first
      = s.text ++ Rune.concat rs := by
  have hcut := (runes_concat_of_append h).1
  have hlen : s.first ≤ (s.buffer.take s.cursor.index).length := by
    rw [List.length_take, Nat.min_eq_left hs.index_le]
    exact hs.first_le
  rw [Cursor.index_foldl_advance, List.take_add, ← ahead, hcut, List.take_left,
    List.drop_append_of_le_length hlen]
  rfl

/-- Reading on by some of the runes ahead follows, if what they finish is then
pending. -/
theorem follows_of_readAll {s s' : Scanner} {rs rs' : List Rune} (hp : s.pending = none)
    (hsound : s'.Sound) (hlabel : s'.label = s.label) (hqueue : s'.queue = s.queue)
    (h : runes s.ahead = rs ++ rs') (h' : runes s'.ahead = rs')
    (hreading : s'.reading = s.reading.readAll s.label rs)
    (hpending : s'.pending.toList = s.reading.spans s.label rs) : Follows s s' [] where
  sound := hsound
  label := hlabel
  queue := hqueue
  ahead := suffix_of_runes_eq_append h h'
  rest := by
    rw [rest, rest, hp, hlabel, h, h', hreading, hpending, Reading.spans_append]
    rfl
  final := by rw [final, final, hlabel, h, h', hreading, Reading.readAll_append]

/-- Outside a span, nothing that has been read is needed any more. -/
theorem follows_skip {s : Scanner} (hm : s.mode = .outside)
    (hle : s.cursor.index ≤ s.buffer.length) : Follows s s.skip [] := by
  have hreading : s.skip.reading = s.reading := by simp [reading, skip, hm]
  refine ⟨⟨Nat.le_refl _, hle⟩, rfl, rfl, List.suffix_rfl, ?_, ?_⟩
  · show s.rest = [] ++ s.skip.rest
    rw [List.nil_append, rest, rest, hreading]
    rfl
  · rw [final, final, hreading]
    rfl

theorem follows_runOutside {s : Scanner} (hs : s.Sound) (hm : s.mode = .outside)
    (hp : s.pending = none) : Follows s s.runOutside [] := by
  have hreading : s.reading = ⟨s.cursor.line, s.cursor.column, none⟩ := by
    simp [reading, hm]
  have hfirst := hs.first_le
  rcases s.cursor.seek_cases (·.is '<') s.ahead with
    ⟨hseek, hall⟩ | ⟨rs, r, rs', hr, hall, hro, hseek⟩
  -- No `<` ahead: everything is read, and nothing is kept.
  · obtain ⟨hread, hspans⟩ := Cursor.readAll_outside s.label s.cursor hall
    have hsplit := (List.append_nil (runes s.ahead)).symm
    obtain ⟨hle, hrest⟩ := runes_drop_foldl_advance hs hsplit
    have hindex := Cursor.index_foldl_advance s.cursor (runes s.ahead)
    rw [runOutside, hseek]
    generalize (runes s.ahead).foldl Cursor.advance s.cursor = c at hread hle hrest hindex ⊢
    have hmove : Follows s { s with cursor := c } [] := by
      refine follows_of_readAll hp ⟨?_, hle⟩ rfl rfl hsplit hrest ?_ ?_
      · show s.first ≤ c.index
        omega
      · rw [hreading, hread]; simp [reading, hm]
      · rw [hreading, hspans]; simp [hp]
    exact hmove.trans (follows_skip hm hle)
  -- A `<` opens a span, whose text is empty so far.
  · obtain ⟨hread, hspans⟩ := Cursor.readAll_outside s.label s.cursor hall
    have hsplit : runes s.ahead = (rs ++ [r]) ++ rs' := by rw [hr]; simp
    obtain ⟨hle, hrest⟩ := runes_drop_foldl_advance hs hsplit
    rw [List.foldl_append, List.foldl_cons, List.foldl_nil] at hle hrest
    rw [runOutside, hseek]
    generalize rs.foldl Cursor.advance s.cursor = c at hread hle hrest ⊢
    refine follows_of_readAll hp ⟨Nat.le_refl _, hle⟩ rfl rfl hsplit hrest ?_ ?_
    · obtain rfl : r = .char '<' := of_decide_eq_true hro
      have hrn : (Rune.char '<').is '\n' = false := by decide
      rw [hreading, Reading.readAll_append, hread]
      simp [reading, Reading.readAll, Reading.read, Cursor.advance, hro, hrn, text, skip]
    · rw [hreading, Reading.spans_append, hspans, hread]
      simp [Reading.spans, Reading.finished, hp, skip]

theorem reading_of_inside {s : Scanner} (hm : s.mode = .inside) :
    s.reading = ⟨s.cursor.line, s.cursor.column, some ⟨s.text, s.opened⟩⟩ := by
  simp [reading, hm]

/-- Inside a span, everything up to the end of the buffer belongs to it. -/
theorem follows_goOn {s : Scanner} (hs : s.Sound) (hm : s.mode = .inside) (hp : s.pending = none)
    (hall : ∀ x ∈ runes s.ahead, (x.is '>' || x.is '\n') = false) :
    Follows s { s with cursor := (runes s.ahead).foldl Cursor.advance s.cursor } [] := by
  obtain ⟨hread, hspans⟩ := Cursor.readAll_inside s.label s.cursor ⟨s.text, s.opened⟩ hall
  have hsplit := (List.append_nil (runes s.ahead)).symm
  obtain ⟨hle, hrest⟩ := runes_drop_foldl_advance hs hsplit
  have htext := text_foldl_advance hs hsplit
  have hindex := Cursor.index_foldl_advance s.cursor (runes s.ahead)
  have hfirst := hs.first_le
  generalize (runes s.ahead).foldl Cursor.advance s.cursor = c at hread hle hrest htext hindex ⊢
  refine follows_of_readAll hp ⟨?_, hle⟩ rfl rfl hsplit hrest ?_ ?_
  · show s.first ≤ c.index
    omega
  · rw [reading_of_inside hm, hread, ← htext]
    simp [reading, hm, text]
  · rw [reading_of_inside hm, hspans]
    simp [hp]

/-- Inside a span, a newline gives it up. The newline stays ahead, to be read
outside. -/
theorem follows_giveUp {s : Scanner} (hs : s.Sound) (hm : s.mode = .inside) {rs rs' : List Rune}
    (hr : runes s.ahead = rs ++ .char '\n' :: rs')
    (hall : ∀ x ∈ rs, (x.is '>' || x.is '\n') = false) :
    Follows s { s with cursor := rs.foldl Cursor.advance s.cursor, mode := .outside } [] := by
  obtain ⟨hread, hspans⟩ := Cursor.readAll_inside s.label s.cursor ⟨s.text, s.opened⟩ hall
  obtain ⟨hle, hrest⟩ := runes_drop_foldl_advance hs hr
  have hindex := Cursor.index_foldl_advance s.cursor rs
  have hfirst := hs.first_le
  generalize rs.foldl Cursor.advance s.cursor = c at hread hle hrest hindex ⊢
  refine ⟨⟨?_, hle⟩, rfl, rfl, suffix_of_runes_eq_append hr hrest, ?_, ?_⟩
  · show s.first ≤ c.index
    omega
  -- The reading is still inside, the scanner is not; at the newline they meet again.
  · rw [rest, rest, reading_of_inside hm, hr, Reading.spans_append, hspans, hread]
    simp only [ahead, hrest]
    rfl
  · rw [final, final, reading_of_inside hm, hr, Reading.readAll_append, hread]
    simp only [ahead, hrest]
    rfl

/-- Inside a span, a `>` finishes it. -/
theorem follows_finish {s : Scanner} (hs : s.Sound) (hm : s.mode = .inside) (hp : s.pending = none)
    {rs rs' : List Rune} (hr : runes s.ahead = rs ++ .char '>' :: rs')
    (hall : ∀ x ∈ rs, (x.is '>' || x.is '\n') = false) :
    Follows s { s with
      cursor := (rs.foldl Cursor.advance s.cursor).advance (.char '>')
      mode := .outside
      pending := some ⟨s.text ++ Rune.concat rs, s.opened⟩ } [] := by
  obtain ⟨hread, hspans⟩ := Cursor.readAll_inside s.label s.cursor ⟨s.text, s.opened⟩ hall
  have hsplit : runes s.ahead = (rs ++ [.char '>']) ++ rs' := by rw [hr]; simp
  obtain ⟨hle, hrest⟩ := runes_drop_foldl_advance hs hsplit
  rw [List.foldl_append, List.foldl_cons, List.foldl_nil] at hle hrest
  have hindex := Cursor.index_foldl_advance s.cursor rs
  have hfirst := hs.first_le
  generalize rs.foldl Cursor.advance s.cursor = c at hread hle hrest hindex ⊢
  refine follows_of_readAll hp ⟨?_, hle⟩ rfl rfl hsplit hrest ?_ ?_
  · show s.first ≤ (c.advance (.char '>')).index
    rw [Cursor.index_advance]
    omega
  · rw [reading_of_inside hm, Reading.readAll_append, hread]
    rfl
  · rw [reading_of_inside hm, Reading.spans_append, hread, hspans]
    rfl

theorem follows_runInside {s : Scanner} (hs : s.Sound) (hm : s.mode = .inside)
    (hp : s.pending = none) : Follows s s.runInside [] := by
  rcases s.cursor.seek_cases (fun r => r.is '>' || r.is '\n') s.ahead with
    ⟨hseek, hall⟩ | ⟨rs, r, rs', hr, hall, hro, hseek⟩
  · rw [runInside, hseek]
    exact follows_goOn hs hm hp hall
  · rw [runInside, hseek]
    by_cases hrn : r.is '\n' = true
    · obtain rfl : r = .char '\n' := of_decide_eq_true hrn
      simp only [hrn, if_true]
      have hfollows := follows_giveUp hs hm hr hall
      exact hfollows.trans (follows_skip rfl hfollows.sound.index_le)
    · have hrg : r.is '>' = true := by simpa [hrn] using hro
      obtain rfl : r = .char '>' := of_decide_eq_true hrg
      have htext : ({ s with
            cursor := rs.foldl Cursor.advance s.cursor
            mode := .outside } : Scanner).text = s.text ++ Rune.concat rs :=
        text_foldl_advance hs hr
      simp only [hrn]
      rw [htext]
      have hfollows := follows_finish hs hm hp hr hall
      exact hfollows.trans (follows_skip rfl hfollows.sound.index_le)

/-- **A run of the current mode changes nothing but how far the buffer is read.** -/
theorem follows_step {s : Scanner} (hs : s.Sound) (hp : s.pending = none) :
    Follows s s.step [] := by
  unfold step
  split
  · next hm => exact follows_runOutside hs hm hp
  · next hm => exact follows_runInside hs hm hp

/-! ### Asking for spans -/

/-- Handing out what is pending. -/
theorem follows_pending {s : Scanner} {p : Span} (hs : s.Sound) (hp : s.pending = some p) :
    Follows s { s with pending := none } [p] := by
  refine ⟨⟨hs.first_le, hs.index_le⟩, rfl, rfl, List.suffix_rfl, ?_, rfl⟩
  rw [rest, rest, hp]
  rfl

/-- What hunting for a span comes to: one is handed out, or the buffer is used up
with nothing pending. -/
theorem follows_hunt {s : Scanner} (hs : s.Sound) :
    Follows s s.hunt.2 s.hunt.1.toList ∧
    (s.hunt.1 = none → s.hunt.2.ahead = [] ∧ s.hunt.2.pending = none) := by
  fun_induction hunt s with
  | case1 s p hp => exact ⟨follows_pending hs hp, fun h => by cases h⟩
  | case2 s hp ha => exact ⟨Follows.refl hs, fun _ => ⟨ha, hp⟩⟩
  | case3 s hp ha ih =>
    have hstep := follows_step hs hp
    obtain ⟨hfollows, hnone⟩ := ih hstep.sound
    exact ⟨hstep.trans hfollows, hnone⟩

/-- Taking in the waiting chunks leaves the marks in order. -/
theorem sound_refill {s : Scanner} (hs : s.Sound) : s.refill.Sound := by
  have hfirst := hs.first_le
  have hindex := hs.index_le
  unfold refill
  split
  · exact hs
  · refine ⟨Nat.zero_le _, ?_⟩
    simp only [List.length_append, List.length_drop]
    omega

@[simp]
theorem label_refill (s : Scanner) : s.refill.label = s.label := by
  unfold refill
  split <;> rfl

@[simp]
theorem pending_refill (s : Scanner) : s.refill.pending = s.pending := by
  unfold refill
  split <;> rfl

/-- The waiting chunks come behind the bytes ahead. -/
theorem ahead_refill {s : Scanner} (hs : s.Sound) :
    s.refill.ahead = s.ahead ++ s.queue.flatten := by
  have hfirst := hs.first_le
  have hindex := hs.index_le
  unfold refill
  split
  · next hq => rw [List.isEmpty_iff.mp hq, List.flatten_nil, List.append_nil]
  · show (s.buffer.drop s.first ++ s.queue.flatten).drop (s.cursor.index - s.first) = _
    rw [List.drop_append_of_le_length (by rw [List.length_drop]; omega), List.drop_drop,
      Nat.add_sub_cancel' hfirst]
    rfl

/-- The waiting chunks do not change where the scanner stands. -/
theorem reading_refill {s : Scanner} (hs : s.Sound) : s.refill.reading = s.reading := by
  have hfirst := hs.first_le
  have hindex := hs.index_le
  have htext : s.refill.text = s.text := by
    unfold refill
    split
    · rfl
    · show ((s.buffer.drop s.first ++ s.queue.flatten).take (s.cursor.index - s.first)).drop 0 = _
      rw [List.drop_zero, List.take_append_of_le_length (by rw [List.length_drop]; omega),
        List.take_drop, Nat.add_sub_cancel' hfirst]
      rfl
  unfold reading
  rw [htext]
  unfold refill
  split <;> rfl

theorem rest_refill {s : Scanner} (hs : s.Sound) : s.refill.rest
    = s.pending.toList ++ s.reading.spans s.label (runes (s.ahead ++ s.queue.flatten)) := by
  rw [rest, pending_refill, label_refill, reading_refill hs, ahead_refill hs]

theorem final_refill {s : Scanner} (hs : s.Sound) :
    s.refill.final = s.reading.readAll s.label (runes (s.ahead ++ s.queue.flatten)) := by
  rw [final, label_refill, reading_refill hs, ahead_refill hs]

/-- Asking for a span hands out the first that the text fed so far finishes, and
hands out none only if there is none left. -/
theorem follows_next {s : Scanner} (hs : s.Sound) :
    Follows s.refill s.next.2 s.next.1.toList ∧
    (s.next.1 = none → s.next.2.ahead = [] ∧ s.next.2.pending = none) :=
  follows_hunt (sound_refill hs)

theorem queue_next (s : Scanner) : s.next.2.queue = [] := by
  rw [next, queue_hunt, queue_refill]

/-- Draining hands out everything that the text fed so far finishes. -/
theorem follows_drain {s : Scanner} (hs : s.Sound) :
    Follows s.refill s.drain.2 s.drain.1 ∧ s.drain.2.ahead = [] ∧ s.drain.2.pending = none ∧
    s.drain.2.queue = [] := by
  fun_induction drain s with
  | case1 s s' h =>
    obtain ⟨hfollows, hnone⟩ := follows_next hs
    have hqueue := queue_next s
    rw [h] at hfollows hnone hqueue
    obtain ⟨hahead, hpending⟩ := hnone rfl
    exact ⟨hfollows, hahead, hpending, hqueue⟩
  | case2 s p s' h ps s'' hdrain ih =>
    obtain ⟨hfollows, -⟩ := follows_next hs
    have hqueue := queue_next s
    rw [h] at hfollows hqueue
    obtain ⟨hfollows', hahead, hpending, hqueue'⟩ := ih hfollows.sound
    rw [hdrain] at hfollows' hahead hpending hqueue'
    rw [refill_of_queue_eq_nil hqueue] at hfollows'
    exact ⟨hfollows.trans hfollows', hahead, hpending, hqueue'⟩

/-- What is handed out by draining, and where the scanner then stands. -/
theorem drain_eq {s : Scanner} (hs : s.Sound) :
    s.drain.1 = s.pending.toList
        ++ s.reading.spans s.label (runes (s.ahead ++ s.queue.flatten)) ∧
    s.drain.2.reading = s.reading.readAll s.label (runes (s.ahead ++ s.queue.flatten)) := by
  obtain ⟨hfollows, hahead, hpending, -⟩ := follows_drain hs
  have hrest := hfollows.rest
  have hfinal := hfollows.final
  rw [rest_refill hs, rest, hahead, hpending, runes_nil] at hrest
  rw [final_refill hs, final, hahead, runes_nil] at hfinal
  constructor
  · rw [hrest]
    simp [Reading.spans]
  · exact hfinal.symm

theorem sound_new (label : Bytes) : ({ label } : Scanner).Sound :=
  ⟨Nat.le_refl _, Nat.le_refl _⟩

theorem sound_feed {s : Scanner} (hs : s.Sound) (chunk : Bytes) : (s.feed chunk).Sound :=
  ⟨hs.first_le, hs.index_le⟩

end Scanner

end NodeScript
