/-
  Looking for spans, turn by turn.

  Three loops take a scanner through its text. Looking for a span goes on until one is
  pending or nothing is ahead, with a run of the current mode in every other turn
  (`Scanner.turn`). A run of a mode looks at one rune after another until one ends the mode
  (`Cursor.look`). And draining asks for one span after another until there is none
  (`Scanner.collect`).

  That the loops end is not in their bodies. The relation `Ends` counts turns, and each of
  the three loops is shown to end within a number of turns that is known from the text, with
  the result that `seek`, `next` and `drain` have. A run of a mode may leave all bytes where
  they are, but then it leaves a span, and the run behind it reads at least one byte
  (`length_ahead_of_turn`): both follow from the one measure `work`.
-/
import NodeScript.Proofs.Script.Streaming

namespace NodeScript

/-! ### Loops -/

/-- The loop with the given body, started in `s`, ends with the answer `a` after at most `n`
turns. In a turn the body answers, which ends the loop, or says where to go on. -/
inductive Ends {σ α : Type} (body : σ → α ⊕ σ) : Nat → σ → α → Prop
  | answer {n : Nat} {s : σ} {a : α} (h : body s = .inl a) : Ends body (n + 1) s a
  | goOn {n : Nat} {s s' : σ} {a : α} (h : body s = .inr s') (rest : Ends body n s' a) :
    Ends body (n + 1) s a

theorem Ends.mono {σ α : Type} {body : σ → α ⊕ σ} {n m : Nat} {s : σ} {a : α}
    (h : Ends body n s a) (hle : n ≤ m) : Ends body m s a := by
  induction h generalizing m with
  | answer h =>
    obtain ⟨k, rfl⟩ := Nat.exists_eq_add_of_le' hle
    exact .answer h
  | goOn h rest ih =>
    obtain ⟨k, rfl⟩ := Nat.exists_eq_add_of_le' hle
    exact .goOn h (ih (Nat.le_add_left ..))

/-! ### Looking at runes -/

namespace Cursor

/-- One look at what is ahead: it ends at a rune at which `stop` holds, which is not read,
and at the end of the text. -/
def look (stop : Rune → Bool) : Cursor × Bytes → (Cursor × Option Rune) ⊕ (Cursor × Bytes)
  | (c, ahead) =>
    match nextRune? ahead with
    | none => .inl (c, none)
    | some (r, rest) => if stop r then .inl (c, some r) else .inr (c.advance r, rest)

/-- There are at most as many looks as bytes, and one at the end. -/
theorem ends_look (stop : Rune → Bool) (c : Cursor) (ahead : Bytes) :
    Ends (look stop) (ahead.length + 1) (c, ahead) (seek stop c ahead) := by
  fun_induction seek stop c ahead with
  | case1 c ahead h => exact .answer (by simp only [look, h])
  | case2 c ahead r rest h hs => exact .answer (by simp only [look, h, hs, if_true])
  | case3 c ahead r rest h hs ih =>
    have hgoOn : look stop (c, ahead) = .inr (c.advance r, rest) := by
      simp only [look, h, hs]
      rfl
    exact .goOn hgoOn (ih.mono (length_lt_of_nextRune? h))

end Cursor

/-! ### Looking for a span -/

namespace Scanner

variable {s t t' t'' : Scanner}

/-- One turn in looking for a span: what is pending is handed out; with nothing pending and
nothing ahead there is no span; otherwise the current mode is run. -/
def turn (s : Scanner) : (Option Span × Scanner) ⊕ Scanner :=
  match s.pending with
  | some p => .inl (some p, { s with pending := none })
  | none => if s.ahead = [] then .inl (none, s) else .inr s.step

theorem turn_eq_inr_iff :
    t.turn = .inr t' ↔ t.pending = none ∧ t.ahead ≠ [] ∧ t.step = t' := by
  unfold turn
  split
  · next p hp => simp [hp]
  · next hp =>
    split
    · next ha => simp [ha]
    · next ha => simp [hp, ha]

theorem hunt_eq_turn (t : Scanner) :
    t.hunt = match t.turn with
      | .inl answer => answer
      | .inr t' => t'.hunt := by
  rw [hunt, turn]
  cases t.pending with
  | some p => rfl
  | none =>
    by_cases ha : t.ahead = []
    · simp only [ha, if_true]
    · simp only [ha, if_false]

theorem ends_turn (s : Scanner) : Ends turn (s.work + 1) s s.hunt := by
  fun_induction hunt s with
  | case1 s p hp => exact .answer (by simp only [turn, hp])
  | case2 s hp ha => exact .answer (by simp only [turn, hp, ha, if_true])
  | case3 s hp ha ih =>
    have hgoOn : s.turn = .inr s.step := turn_eq_inr_iff.mpr ⟨hp, ha, rfl⟩
    exact .goOn hgoOn (ih.mono (work_step_lt ha))

theorem work_of_outside (h : s.mode = .outside) : s.work = 2 * s.ahead.length := by
  rw [work, ahead, List.length_drop, h]
  rfl

theorem work_of_inside (h : s.mode = .inside) : s.work = 2 * s.ahead.length + 1 := by
  rw [work, ahead, List.length_drop, h]
  rfl

/-- There is work for every byte ahead, and for little more. -/
theorem work_bounds (s : Scanner) :
    2 * s.ahead.length ≤ s.work ∧ s.work ≤ 2 * s.ahead.length + 1 := by
  cases h : s.mode with
  | outside => rw [work_of_outside h]; omega
  | inside => rw [work_of_inside h]; omega

theorem work_lt_of_turn (h : t.turn = .inr t') : t'.work < t.work := by
  obtain ⟨-, hahead, rfl⟩ := turn_eq_inr_iff.mp h
  exact work_step_lt hahead

/-- A run of a mode reads a byte or leaves a span, and two runs read a byte in any case. -/
theorem length_ahead_of_turn (h : t.turn = .inr t') :
    (t'.ahead.length < t.ahead.length ∨
      t'.ahead.length = t.ahead.length ∧ t.mode = .inside ∧ t'.mode = .outside) ∧
    ∀ t'', t'.turn = .inr t'' → t''.ahead.length < t.ahead.length := by
  have hwork := work_lt_of_turn h
  have hbounds := work_bounds t
  have hbounds' := work_bounds t'
  refine ⟨?_, fun t'' h' => ?_⟩
  · rcases Nat.lt_or_ge t'.ahead.length t.ahead.length with hlt | hge
    · exact .inl hlt
    -- With as many bytes ahead as before, only the mode can have made the work less.
    · right
      refine ⟨by omega, ?_, ?_⟩
      · cases hmode : t.mode with
        | inside => rfl
        | outside => rw [work_of_outside hmode] at hwork; omega
      · cases hmode : t'.mode with
        | outside => rfl
        | inside => rw [work_of_inside hmode] at hwork; omega
  · have hwork' := work_lt_of_turn h'
    have hbounds'' := work_bounds t''
    omega

/-! ### Draining -/

/-- One turn in draining: the next span is put behind those collected so far, or there is no
next span. -/
def collect : List Span × Scanner → (List Span × Scanner) ⊕ (List Span × Scanner)
  | (spans, s) =>
    match s.next with
    | (none, s') => .inl (spans, s')
    | (some p, s') => .inr (spans ++ [p], s')

/-- There is a turn for each span, and one at the end. -/
theorem ends_collect (spans : List Span) (s : Scanner) :
    Ends collect (s.drain.1.length + 1) (spans, s) (spans ++ s.drain.1, s.drain.2) := by
  fun_induction drain s generalizing spans with
  | case1 s s' h =>
    rw [List.append_nil]
    exact .answer (by simp only [collect, h])
  | case2 s p s' h ps s'' hdrain ih =>
    have hgoOn : collect (spans, s) = .inr (spans ++ [p], s') := by simp only [collect, h]
    have hrest := ih (spans ++ [p])
    rw [hdrain, List.append_assoc, List.singleton_append] at hrest
    exact .goOn hgoOn hrest

theorem pending_hunt (s : Scanner) : s.hunt.2.pending = none := by
  fun_induction hunt s with
  | case1 s p hp => rfl
  | case2 s hp ha => exact hp
  | case3 s hp ha ih => exact ih

/-- Between requests nothing is pending. -/
theorem pending_serve (hp : s.pending = none) (requests : List Request) :
    (s.serve requests).2.pending = none := by
  fun_induction serve s requests with
  | case1 s => exact hp
  | case2 s text requests ih => exact ih hp
  | case3 s requests answer s' hnext answers s'' hserve ih =>
    have hp' : s.next.2.pending = none := pending_hunt s.refill
    rw [hnext] at hp'
    rw [hserve] at ih
    exact ih hp'

end Scanner

/-- Each span takes a `>`. -/
theorem Outline.length_spans_le (o : Outline) (s : Bytes) :
    (o.spans s).length ≤ s.count closing := by
  induction s generalizing o with
  | nil => exact Nat.le_refl _
  | cons b s ih =>
    have hone : (o.finished b).length ≤ if b = closing then 1 else 0 := by
      unfold finished
      split
      · cases o.span with
        | none => exact Nat.zero_le _
        | some p => exact Nat.le_refl _
      · exact Nat.le_refl _
    have hrest := ih (o.read b)
    rw [spans, List.length_append, List.count_cons]
    simp only [beq_iff_eq]
    omega

/-- From a scanner with nothing pending, as many spans can be drained as there are `>` in
what it has not read. -/
theorem Scanner.length_drain_le {s : Scanner} (hs : s.Sound) (hp : s.pending = none) :
    s.drain.1.length ≤ (s.ahead ++ s.queue.flatten).count closing := by
  rw [(drain_eq hs).1, hp, Option.toList_none, List.nil_append,
    ← List.length_map Span.outline, Reading.outline_spans]
  exact Outline.length_spans_le ..

/-- **Scanning ends.** After any requests, let `text` be what the scanner has not read yet.
The next request is met, or found not to be, within two turns for each byte of `text` and two
more, and a run of a mode takes a look for each byte and one more. Draining the scanner hands
out a span for each `>` of `text` at most, and takes a turn for each of them and one more. In
no state can two turns follow one another, let alone more of them, without reading a byte: one
that reads none leaves a span, and the turn behind it is not of that kind. -/
theorem scanning_ends (label : Bytes) (requests : List Scanner.Request) :
    let s := (({ label } : Scanner).serve requests).2
    let text := s.ahead ++ s.queue.flatten
    Ends Scanner.turn (2 * text.length + 2) s.refill s.next ∧
    (∀ stop c ahead, Ends (Cursor.look stop) (ahead.length + 1) (c, ahead) (c.seek stop ahead)) ∧
    s.drain.1.length ≤ text.count closing ∧
    Ends Scanner.collect (text.count closing + 1) ([], s) s.drain ∧
    ∀ t t' : Scanner, t.turn = .inr t' →
      (t'.ahead.length < t.ahead.length ∨
        t'.ahead.length = t.ahead.length ∧ t.mode = .inside ∧ t'.mode = .outside) ∧
      ∀ t'', t'.turn = .inr t'' → t''.ahead.length < t.ahead.length := by
  intro s text
  have hs : s.Sound := Scanner.sound_serve (Scanner.sound_new label) requests
  have hp : s.pending = none := Scanner.pending_serve rfl requests
  have hlength : s.drain.1.length ≤ text.count closing := Scanner.length_drain_le hs hp
  refine ⟨?_, fun stop c ahead => Cursor.ends_look stop c ahead, hlength, ?_,
    fun t t' => Scanner.length_ahead_of_turn⟩
  · have hahead : s.refill.ahead = text := Scanner.ahead_refill hs
    have hwork := (Scanner.work_bounds s.refill).2
    rw [hahead] at hwork
    exact (Scanner.ends_turn s.refill).mono (Nat.add_le_add_right hwork 1)
  · exact (Scanner.ends_collect [] s).mono (Nat.add_le_add_right hlength 1)

end NodeScript
