/-
  Scripts that arrive line by line.

  A newline gives up the span that is open and begins a new column count. So a scanner
  that is fed whole lines has nothing left over between two of them: all that matters of
  the lines before is how many they are (`Between`). The spans of a line are then those
  that it has when it is read alone, further down (`Between.profiles_read`), and the
  commands of all lines, one after another, are those of the script that the lines make up
  (`Between.commandsBehind_cons`).
-/
import NodeScript.Proofs.Script.Brackets

namespace NodeScript

/-! ### Whole lines -/

/-- No character goes on from one line to the next. -/
theorem seam_lines (ls : List Bytes) (t : Bytes) : Seam (Bytes.lines ls) t := by
  rcases List.eq_nil_or_concat ls with rfl | ⟨ls, l, rfl⟩
  · exact seam_nil_left t
  · rw [List.concat_eq_append, Bytes.lines_concat, ← List.append_assoc]
    exact seam_concat_ascii (by decide) _ t

theorem lastLine_append_newline_cons (s t : Bytes) :
    lastLine (s ++ newline :: t) = lastLine t := by
  unfold lastLine
  have hstop : (newline :: s.reverse).takeWhile (· ≠ newline) = [] := by simp
  rw [List.reverse_append, List.reverse_cons, List.append_assoc, List.singleton_append,
    List.takeWhile_append, hstop]
  split
  · next hall =>
    have hwhole := (List.takeWhile_prefix (· ≠ newline) (l := t.reverse)).eq_of_length hall
    rw [List.append_nil, hwhole]
  · rfl

/-- Columns are counted anew behind whole lines. -/
theorem columnAfter_lines_append (ls : List Bytes) (t : Bytes) :
    columnAfter (Bytes.lines ls ++ t) = columnAfter t := by
  unfold columnAfter
  rcases List.eq_nil_or_concat ls with rfl | ⟨ls, l, rfl⟩
  · rfl
  · rw [List.concat_eq_append, Bytes.lines_concat, List.append_assoc, List.append_assoc,
      List.singleton_append, ← List.append_assoc, lastLine_append_newline_cons]

/-! ### One more line -/

/-- The same spans are found behind any text, which then stands before each of them. -/
theorem brackets_append_left (x y s : Bytes) :
    brackets (x ++ y) s = (brackets y s).map fun b => { b with before := x ++ b.before } := by
  fun_induction brackets y s with
  | case1 y => rw [brackets_nil, List.map_nil]
  | case2 y s text rest henclosed ih =>
    obtain ⟨rfl, hclosing, hline⟩ := enclosed?_eq_some_iff.mp henclosed
    rw [brackets_opening hclosing hline, List.map_cons, ← ih]
    simp only [List.append_assoc]
  | case3 y s henclosed ih =>
    rw [brackets_opening_of_none henclosed, ← ih, List.append_assoc]
  | case4 y b s hb ih => rw [brackets_cons_of_ne hb, ← ih, List.append_assoc]

namespace Reading

/-- A newline closes whatever is open. -/
theorem readAll_line (label : Bytes) (ls : List Bytes) (l : Bytes) :
    (after (Bytes.lines ls) none).readAll label (runes (l ++ [newline])) =
      after (Bytes.lines (ls ++ [l])) none := by
  have hspan : ((after (Bytes.lines ls) none).readAll label (runes (l ++ [newline]))).span
      = none := by
    rw [runes_concat_ascii (by decide), readAll_append]
    obtain ⟨line, column, _ | p⟩ := (after (Bytes.lines ls) none).readAll label (runes l)
    · rfl
    · rfl
  rw [readAll_after label (seam_lines ls _), hspan, Bytes.lines_concat]

/-- The spans of lines are those of the first line and those of the others behind it. -/
theorem spans_lines_cons (label : Bytes) (ls : List Bytes) (l : Bytes) (ls' : List Bytes) :
    (after (Bytes.lines ls) none).spans label (runes (Bytes.lines (l :: ls'))) =
      (after (Bytes.lines ls) none).spans label (runes (l ++ [newline])) ++
        (after (Bytes.lines (ls ++ [l])) none).spans label (runes (Bytes.lines ls')) := by
  have hcut : Seam (l ++ [newline]) (Bytes.lines ls') := seam_concat_ascii (by decide) l _
  rw [Bytes.lines_cons, runes_append hcut, spans_append, readAll_line]

end Reading

/-! ### Scanners between lines -/

/-- The commands of lines that come behind others in a script. -/
def commandsBehind (label : Bytes) (earlier lines : List Bytes) : List Command :=
  ((Reading.after (Bytes.lines earlier) none).spans label (runes (Bytes.lines lines))).map
    Span.command

theorem commandsBehind_nil (label : Bytes) (earlier : List Bytes) :
    commandsBehind label earlier [] = [] := by
  rw [commandsBehind, Bytes.lines_nil, runes_nil]
  rfl

/-- What can be told of a command on its own line: all but the line and the label. -/
def Command.profile (c : Command) : Kind × Bytes × Int := (c.kind, c.text, c.place.column)

namespace Scanner

variable {s : Scanner} {label : Bytes} {earlier : List Bytes}

/-- The scanner has read whole lines and stands at the beginning of the next. -/
structure Between (s : Scanner) (label : Bytes) (earlier : List Bytes) : Prop where
  sound : s.Sound
  label : s.label = label
  ahead : s.ahead = []
  pending : s.pending = none
  queue : s.queue = []
  reading : s.reading = Reading.after (Bytes.lines earlier) none

theorem between_new (label : Bytes) : ({ label } : Scanner).Between label [] :=
  ⟨sound_new label, rfl, rfl, rfl, rfl, reading_new label⟩

namespace Between

theorem ahead_feed (h : s.Between label earlier) (chunk : Bytes) :
    (s.feed chunk).ahead ++ (s.feed chunk).queue.flatten = chunk := by
  show s.ahead ++ (s.queue ++ [chunk]).flatten = chunk
  rw [h.ahead, h.queue]
  simp

theorem spans_read (h : s.Between label earlier) (chunk : Bytes) :
    (s.feed chunk).drain.1 =
      (Reading.after (Bytes.lines earlier) none).spans label (runes chunk) := by
  have hspans := (drain_eq (sound_feed h.sound chunk)).1
  have hpending : (s.feed chunk).pending = none := h.pending
  have hreading : (s.feed chunk).reading = _ := h.reading
  have hlabel : (s.feed chunk).label = label := h.label
  rw [hspans, hpending, hreading, hlabel, h.ahead_feed]
  rfl

/-- Reading one more line leaves the scanner between that line and the next. -/
theorem read (h : s.Between label earlier) (line : Bytes) :
    (s.read (line ++ [newline])).2.Between label (earlier ++ [line]) := by
  have hfeed := sound_feed h.sound (line ++ [newline])
  obtain ⟨hfollows, hahead, hpending, hqueue⟩ := follows_drain hfeed
  have hreading := (drain_eq hfeed).2
  have hlabel : (s.feed (line ++ [newline])).label = label := h.label
  have hbefore : (s.feed (line ++ [newline])).reading = _ := h.reading
  rw [h.ahead_feed, hbefore, hlabel, Reading.readAll_line] at hreading
  refine ⟨hfollows.sound, ?_, hahead, hpending, hqueue, hreading⟩
  show (s.feed (line ++ [newline])).drain.2.label = label
  rw [hfollows.label, label_refill, hlabel]

theorem commandsBehind_cons (h : s.Between label earlier) (line : Bytes) (lines : List Bytes) :
    commandsBehind label earlier (line :: lines) =
      (s.read (line ++ [newline])).1 ++ commandsBehind label (earlier ++ [line]) lines := by
  have hread : (s.read (line ++ [newline])).1 =
      (s.feed (line ++ [newline])).drain.1.map Span.command := rfl
  unfold commandsBehind
  rw [hread, h.spans_read, Reading.spans_lines_cons, List.map_append]

/-- The commands of a line are those of the line alone, on a line further down. -/
theorem profiles_read (h : s.Between label earlier) (line label' : Bytes) :
    (s.read (line ++ [newline])).1.map Command.profile =
      (readScript label' (line ++ [newline])).map Command.profile := by
  have hread : (s.read (line ++ [newline])).1 =
      (s.feed (line ++ [newline])).drain.1.map Span.command := rfl
  have hbehind := brackets_append_left (Bytes.lines earlier) [] (line ++ [newline])
  rw [List.append_nil] at hbehind
  rw [hread, h.spans_read, spans_eq_brackets label (seam_lines earlier _), hbehind,
    readScript_eq_map_command]
  simp only [List.map_map]
  refine List.map_congr_left fun b _ => ?_
  show (classify b.text, b.text, ((columnAfter (Bytes.lines earlier ++ b.before) : Nat) : Int)) =
    (classify b.text, b.text, ((columnAfter b.before : Nat) : Int))
  rw [columnAfter_lines_append]

end Between

end Scanner

theorem readScript_lines (label : Bytes) (lines : List Bytes) :
    readScript label (Bytes.lines lines) = commandsBehind label [] lines := by
  have hspans := (Scanner.between_new label).spans_read (Bytes.lines lines)
  unfold commandsBehind
  rw [← hspans]
  rfl

end NodeScript
