/-
  Scripts that arrive in pieces.

  A scanner may be fed and asked in any order. Let `Scanner.outlook s t` be all
  that it would hand out from now on if the text `t` were fed to it: feeding moves
  text into the scanner, asking takes the first span off, and neither changes the
  rest. So what has been handed out so far is always a beginning of what the whole
  text would have given at once, and it is all of it whenever there was nothing
  left to hand out.

  Texts and lines of spans do not depend on where the pieces are cut. Columns do,
  but only where a cut goes through a character: there the two parts are counted
  apart. So the outlook is studied twice, once without columns
  (`outline_outlook_next`) and once in full for cuts that are seams
  (`outlook_next`).
-/
import NodeScript.Proofs.Script.Brackets

namespace NodeScript

/-! ### Requests -/

namespace Scanner

/-- What can be asked of a scanner: to take in a text, or to hand out a span. -/
inductive Request where
  | feed (text : Bytes)
  | next

/-- The texts among requests. -/
def Request.texts : List Request → List Bytes
  | [] => []
  | .feed text :: requests => text :: texts requests
  | .next :: requests => texts requests

/-- Carries out requests one after another and collects the answers. -/
def serve (s : Scanner) : List Request → List (Option Span) × Scanner
  | [] => ([], s)
  | .feed text :: requests => (s.feed text).serve requests
  | .next :: requests =>
    let (answer, s) := s.next
    let (answers, s) := s.serve requests
    (answer :: answers, s)

/-! ### The outlook -/

/-- What a scanner will hand out if one more text is fed to it. -/
def outlook (s : Scanner) (t : Bytes) : List Span :=
  s.pending.toList ++ s.reading.spans s.label (runes (s.ahead ++ s.queue.flatten ++ t))

theorem outlook_feed (s : Scanner) (x t : Bytes) : (s.feed x).outlook t = s.outlook (x ++ t) := by
  show s.pending.toList ++ s.reading.spans s.label
    (runes (s.ahead ++ (s.queue ++ [x]).flatten ++ t)) = _
  rw [List.flatten_append, List.flatten_cons, List.flatten_nil, List.append_nil, outlook]
  simp only [List.append_assoc]

/-- A scanner at the end of its text has nothing left to hand out. -/
theorem outlook_nil {s : Scanner} (ha : s.ahead = []) (hp : s.pending = none)
    (hq : s.queue = []) : s.outlook [] = [] := by
  rw [outlook, ha, hp, hq, List.flatten_nil, List.append_nil, List.append_nil, runes_nil]
  rfl

theorem label_next {s : Scanner} (hs : s.Sound) : s.next.2.label = s.label := by
  rw [(follows_next hs).1.label, label_refill]

/-- Where no character is cut, asking takes the first span off the outlook. -/
theorem outlook_next {s : Scanner} (hs : s.Sound) {t : Bytes}
    (hseam : Seam (s.ahead ++ s.queue.flatten) t) :
    s.outlook t = s.next.1.toList ++ s.next.2.outlook t := by
  obtain ⟨hfollows, -⟩ := follows_next hs
  have hrest := hfollows.rest
  have hfinal := hfollows.final
  have hseam' : Seam s.next.2.ahead t :=
    hseam.mono (ahead_refill hs ▸ hfollows.ahead) List.prefix_rfl
  rw [rest_refill hs, rest, label_next hs] at hrest
  rw [final_refill hs, final, label_next hs] at hfinal
  rw [outlook, outlook, label_next hs, queue_next, List.flatten_nil, List.append_nil,
    runes_append hseam, runes_append hseam', Reading.spans_append, Reading.spans_append, hfinal,
    ← List.append_assoc, hrest]
  simp only [List.append_assoc]

/-- The outlook without columns can be told from the bytes. -/
theorem outline_outlook (s : Scanner) (t : Bytes) : (s.outlook t).map Span.outline
    = s.pending.toList.map Span.outline
      ++ s.reading.outline.spans (s.ahead ++ s.queue.flatten ++ t) := by
  rw [outlook, List.map_append, Reading.outline_spans]

/-- Without columns, asking always takes the first span off the outlook. -/
theorem outline_outlook_next {s : Scanner} (hs : s.Sound) (t : Bytes) :
    (s.outlook t).map Span.outline
      = s.next.1.toList.map Span.outline ++ (s.next.2.outlook t).map Span.outline := by
  obtain ⟨hfollows, -⟩ := follows_next hs
  have hrest := congrArg (List.map Span.outline) hfollows.rest
  have hfinal := congrArg Reading.outline hfollows.final
  rw [rest_refill hs, rest, List.map_append, List.map_append, List.map_append,
    Reading.outline_spans, Reading.outline_spans] at hrest
  rw [final_refill hs, final, Reading.outline_readAll, Reading.outline_readAll] at hfinal
  rw [outline_outlook, outline_outlook, queue_next, List.flatten_nil, List.append_nil,
    Outline.spans_append _ (s.ahead ++ s.queue.flatten), Outline.spans_append _ s.next.2.ahead,
    hfinal, ← List.append_assoc, hrest]
  simp only [List.append_assoc]

/-! ### Serving requests -/

theorem outline_outlook_serve {s : Scanner} (hs : s.Sound) (requests : List Request) :
    (s.outlook (Request.texts requests).flatten).map Span.outline
      = ((s.serve requests).1.filterMap id).map Span.outline
        ++ ((s.serve requests).2.outlook []).map Span.outline := by
  fun_induction serve s requests with
  | case1 s => rfl
  | case2 s text requests ih =>
    rw [← ih (sound_feed hs text), outlook_feed, Request.texts, List.flatten_cons]
  | case3 s requests answer s' hnext answers s'' hserve ih =>
    have hstep := outline_outlook_next hs (Request.texts requests).flatten
    have hs' := (follows_next hs).1.sound
    rw [hnext] at hstep hs'
    rw [Request.texts, hstep, ih hs', hserve, ← List.append_assoc, ← List.map_append]
    cases answer <;> rfl

theorem outlook_serve {s : Scanner} (hs : s.Sound) (requests : List Request)
    (hseam : ∀ before after, Request.texts requests = before ++ after →
      Seam (s.ahead ++ s.queue.flatten ++ before.flatten) after.flatten) :
    s.outlook (Request.texts requests).flatten
      = (s.serve requests).1.filterMap id ++ (s.serve requests).2.outlook [] := by
  fun_induction serve s requests with
  | case1 s => rfl
  | case2 s text requests ih =>
    have hseam' : ∀ before after, Request.texts requests = before ++ after →
        Seam ((s.feed text).ahead ++ (s.feed text).queue.flatten ++ before.flatten)
          after.flatten := by
      intro before after h
      have := hseam (text :: before) after (by rw [Request.texts, h]; rfl)
      simpa [feed, ahead] using this
    rw [← ih (sound_feed hs text) hseam', outlook_feed, Request.texts, List.flatten_cons]
  | case3 s requests answer s' hnext answers s'' hserve ih =>
    have hnow : Seam (s.ahead ++ s.queue.flatten) (Request.texts requests).flatten := by
      simpa using hseam [] (Request.texts requests) rfl
    have hstep := outlook_next hs hnow
    obtain ⟨hfollows, -⟩ := follows_next hs
    have hqueue := queue_next s
    rw [hnext] at hstep hfollows hqueue
    -- What is ahead after the answer is an end of what was ahead before it, so the cuts
    -- still to come are seams as they were.
    have hseam' : ∀ before after, Request.texts requests = before ++ after →
        Seam (s'.ahead ++ s'.queue.flatten ++ before.flatten) after.flatten := by
      intro before after h
      refine (hseam before after h).mono ?_ List.prefix_rfl
      obtain ⟨z, hz⟩ := hfollows.ahead
      rw [ahead_refill hs] at hz
      rw [hqueue, List.flatten_nil, List.append_nil, ← hz]
      exact ⟨z, (List.append_assoc ..).symm⟩
    rw [Request.texts, hstep, ih hfollows.sound hseam', hserve, ← List.append_assoc]
    cases answer <;> rfl

theorem serve_concat_next (s : Scanner) (requests : List Request) :
    s.serve (requests ++ [.next])
      = ((s.serve requests).1 ++ [(s.serve requests).2.next.1], (s.serve requests).2.next.2) := by
  fun_induction serve s requests with
  | case1 s => rfl
  | case2 s text requests ih => exact ih
  | case3 s requests answer s' hnext answers s'' hserve ih =>
    rw [hserve] at ih
    rw [List.cons_append, serve, hnext]
    simp only [ih, List.cons_append]

theorem sound_serve {s : Scanner} (hs : s.Sound) (requests : List Request) :
    (s.serve requests).2.Sound := by
  fun_induction serve s requests with
  | case1 s => exact hs
  | case2 s text requests ih => exact ih (sound_feed hs text)
  | case3 s requests answer s' hnext answers s'' hserve ih =>
    have hs' := (follows_next hs).1.sound
    rw [hnext] at hs'
    rw [hserve] at ih
    exact ih hs'

/-- After a request for a span that could not be met, nothing is left to hand
out. -/
theorem outlook_serve_of_none {s : Scanner} (hs : s.Sound) {requests : List Request}
    (hlast : requests.getLast? = some .next) (h : (s.serve requests).1.getLast? = some none) :
    (s.serve requests).2.outlook [] = [] := by
  obtain ⟨earlier, rfl⟩ := List.getLast?_eq_some_iff.mp hlast
  rw [serve_concat_next] at h ⊢
  have hnone : (s.serve earlier).2.next.1 = none := by simpa using h
  obtain ⟨hahead, hpending⟩ := (follows_next (sound_serve hs earlier)).2 hnone
  exact outlook_nil hahead hpending (queue_next _)

/-! ### Reading chunk by chunk -/

/-- Reading chunk by chunk gives the kinds and texts of the whole, one after
another. -/
theorem kinds_readAll {s : Scanner} (hs : s.Sound) (ha : s.ahead = []) (hp : s.pending = none)
    (hq : s.queue = []) (chunks : List Bytes) :
    (s.readAll chunks).1.flatten.map (fun c => (c.kind, c.text))
      = (s.reading.outline.spans chunks.flatten).map fun p => (classify p.1, p.1) := by
  induction chunks generalizing s with
  | nil => rfl
  | cons chunk chunks ih =>
    have hfeed := sound_feed hs chunk
    have hahead : (s.feed chunk).ahead ++ (s.feed chunk).queue.flatten = chunk := by
      show s.ahead ++ (s.queue ++ [chunk]).flatten = chunk
      rw [ha, hq]
      simp
    obtain ⟨hspans, hreading⟩ := drain_eq hfeed
    obtain ⟨hfollows, ha', hp', hq'⟩ := follows_drain hfeed
    rw [hahead, show (s.feed chunk).pending = none from hp, Option.toList_none,
      List.nil_append] at hspans
    rw [hahead] at hreading
    show ((s.feed chunk).drain.1.map Span.command
      ++ ((s.feed chunk).drain.2.readAll chunks).1.flatten).map _ = _
    rw [List.map_append, ih hfollows.sound ha' hp' hq', hreading, hspans,
      Reading.outline_readAll, List.flatten_cons, Outline.spans_append, List.map_append]
    congr 1
    show _ = ((s.feed chunk).reading.outline.spans chunk).map _
    rw [← Reading.outline_spans (s.feed chunk).label, List.map_map, List.map_map]
    rfl

/-- Draining after a text was fed hands out the outlook on it. -/
theorem drain_feed {s : Scanner} (hs : s.Sound) (t : Bytes) :
    (s.feed t).drain.1 = s.outlook t := by
  rw [(drain_eq (sound_feed hs t)).1, ← List.append_nil ((s.feed t).ahead ++ _), ← outlook,
    outlook_feed, List.append_nil]

end Scanner

/-- **Streaming is batch reading.** However feeding a scanner and asking it for spans
are mixed, the texts and lines of the spans handed out so far are those of a
beginning of what the whole text gives at once, and of all of it as soon as a
request could not be met. Where no cut between two texts goes through a character,
the same holds of the spans with their full locations. And reading chunk by chunk
gives the kinds and texts of the commands of the whole. -/
theorem serve_prefix_batch (label : Bytes) (requests : List Scanner.Request) :
    let fresh : Scanner := { label }
    let texts := Scanner.Request.texts requests
    let batch := (fresh.feed texts.flatten).drain.1
    let answers := (fresh.serve requests).1
    let given := answers.filterMap id
    let done := requests.getLast? = some .next ∧ answers.getLast? = some none
    (given.map Span.outline <+: batch.map Span.outline ∧
      (done → given.map Span.outline = batch.map Span.outline)) ∧
    ((∀ before after, texts = before ++ after → Seam before.flatten after.flatten) →
      given <+: batch ∧ (done → given = batch)) ∧
    ∀ chunks, (fresh.readAll chunks).1.flatten.map (fun c => (c.kind, c.text))
      = (readScript label chunks.flatten).map fun c => (c.kind, c.text) := by
  intro fresh texts batch answers given done
  have hs : fresh.Sound := Scanner.sound_new label
  have hbatch : batch = fresh.outlook texts.flatten := Scanner.drain_feed hs texts.flatten
  have hdone (h : done) : (fresh.serve requests).2.outlook [] = [] :=
    Scanner.outlook_serve_of_none hs h.1 h.2
  rw [hbatch]
  -- What was given and the outlook that is left make up the batch; with nothing left,
  -- what was given is all of it.
  refine ⟨?_, fun hseam => ?_, fun chunks => ?_⟩
  · have hserve := Scanner.outline_outlook_serve hs requests
    refine ⟨⟨_, hserve.symm⟩, fun h => ?_⟩
    rw [hserve, hdone h, List.map_nil, List.append_nil]
  · have hserve := Scanner.outlook_serve hs requests hseam
    refine ⟨⟨_, hserve.symm⟩, fun h => ?_⟩
    rw [hserve, hdone h, List.append_nil]
  · have hone : (fresh.readAll [chunks.flatten]).1.flatten = readScript label chunks.flatten :=
      List.append_nil _
    rw [← hone, Scanner.kinds_readAll hs rfl rfl rfl, Scanner.kinds_readAll hs rfl rfl rfl,
      List.flatten_singleton]

end NodeScript
