/-
  The scanner: spans from text that arrives in chunks.

  A scanner is fed chunks of a script and asked for spans, in any order. It
  keeps a buffer with two marks, `first` at the start of the span in progress
  and `index` at the next byte to read. What is in front of `first` is not
  needed any more, and is cut off when chunks are moved into the buffer. The
  scanner moves between two modes: outside a span it looks for `<`, inside one
  it looks for `>`, giving the span up at a newline. The newline itself is left
  for the other mode to read, so that lines are counted in one place.

  Reading is rune by rune. Every run of a mode either reads at least one byte or
  leaves the inside mode, which is why asking for a span always ends.
-/
import NodeScript.Script.Command

namespace NodeScript

/-! ### Cursors -/

/-- How far the scanner has read: the buffer index, the line, counted from one,
and the number of runes read on that line. -/
structure Cursor where
  index : Nat := 0
  line : Nat := 1
  column : Nat := 0
  deriving DecidableEq

namespace Cursor

/-- The cursor after one more rune: a newline starts a new line, anything else
is one column. -/
def advance (c : Cursor) (r : Rune) : Cursor :=
  if r.is '\n' then ⟨c.index + r.bytes.length, c.line + 1, 0⟩
  else ⟨c.index + r.bytes.length, c.line, c.column + 1⟩

/-- Reads on to the first rune at which `stop` holds, which is found but not
read, or to the end of the text ahead. -/
def seek (stop : Rune → Bool) (c : Cursor) (ahead : Bytes) : Cursor × Option Rune :=
  match _h : nextRune? ahead with
  | none => (c, none)
  | some (r, rest) => if stop r then (c, some r) else seek stop (c.advance r) rest
termination_by ahead.length
decreasing_by exact length_lt_of_nextRune? _h

/-- Every rune moves the cursor forward. -/
theorem index_lt_advance (c : Cursor) (r : Rune) : c.index < (c.advance r).index := by
  have : 0 < r.bytes.length := by
    cases r with
    | char d => simpa [Rune.bytes] using d.utf8Size_pos
    | stray b => simp [Rune.bytes]
  rw [advance]
  split <;> simp only <;> omega

/-- Seeking never moves the cursor back. -/
theorem index_le_seek (stop : Rune → Bool) (c : Cursor) (ahead : Bytes) :
    c.index ≤ (seek stop c ahead).1.index := by
  fun_induction seek stop c ahead with
  | case1 => simp
  | case2 => simp
  | case3 c ahead r rest h hs ih =>
    have := index_lt_advance c r
    omega

/-- Seeking with something ahead moves the cursor, unless it stops at once. -/
theorem index_lt_seek_of_none (stop : Rune → Bool) (c : Cursor) (ahead : Bytes)
    (ha : ahead ≠ []) (hn : (seek stop c ahead).2 = none) :
    c.index < (seek stop c ahead).1.index := by
  rw [seek] at hn ⊢
  split at hn
  · next h =>
    cases ahead with
    | nil => exact absurd rfl ha
    | cons b t => rw [nextRune?] at h; split at h <;> simp at h
  · next r rest h =>
    split at hn
    · simp at hn
    · next hs =>
      rw [ite_cond_eq_false _ _ (eq_false hs)]
      have h₁ := index_lt_advance c r
      have h₂ := index_le_seek stop (c.advance r) rest
      omega

end Cursor

/-! ### Scanners -/

/-- What the scanner is looking for: a `<` outside a span, or the end of the
span it is inside. -/
inductive Mode where
  | outside
  | inside
  deriving DecidableEq

/-- The state of a scanner. -/
structure Scanner where
  /-- The label of the script, for locations. -/
  label : Bytes
  /-- The text being read. -/
  buffer : Bytes := []
  /-- Where in the buffer the span in progress starts. -/
  first : Nat := 0
  /-- Where in the buffer, and at which line and column, reading goes on. -/
  cursor : Cursor := {}
  /-- Chunks that have arrived since the buffer was last filled. -/
  queue : List Bytes := []
  /-- Outside or inside a span. -/
  mode : Mode := .outside
  /-- The place of the last `<` that opened a span. -/
  opened : Location := {}
  /-- A finished span that has not been handed out yet. -/
  pending : Option Span := none
  deriving DecidableEq

namespace Scanner

/-- Takes in a chunk. Nothing is read before a span is asked for. -/
def feed (s : Scanner) (chunk : Bytes) : Scanner := { s with queue := s.queue ++ [chunk] }

/-- The bytes of the span in progress. -/
def text (s : Scanner) : Bytes := (s.buffer.take s.cursor.index).drop s.first

/-- The bytes of the buffer that are still to be read. -/
def ahead (s : Scanner) : Bytes := s.buffer.drop s.cursor.index

/-- Moves the waiting chunks into the buffer, behind what the span in progress
still needs of it. -/
def refill (s : Scanner) : Scanner :=
  if s.queue.isEmpty then s
  else { s with
    buffer := s.buffer.drop s.first ++ s.queue.flatten
    cursor := { s.cursor with index := s.cursor.index - s.first }
    first := 0
    queue := [] }

/-- Passes over the bytes read so far: no span in progress needs them. -/
def skip (s : Scanner) : Scanner := { s with first := s.cursor.index }

/-- Outside a span: reads past the next `<`, which opens a span, or to the end
of the buffer, of which nothing is needed any more. -/
def runOutside (s : Scanner) : Scanner :=
  match s.cursor.seek (·.is '<') s.ahead with
  | (c, none) => { s with cursor := c }.skip
  | (c, some r) =>
    let c := c.advance r
    { s with
      cursor := c
      opened := ⟨s.label, c.line, c.column⟩
      mode := .inside }.skip

/-- Inside a span: reads past the next `>`, which finishes the span, or up to
the next newline, which gives it up, or to the end of the buffer, after which
the span goes on in the next chunk. -/
def runInside (s : Scanner) : Scanner :=
  match s.cursor.seek (fun r => r.is '>' || r.is '\n') s.ahead with
  | (c, none) => { s with cursor := c }
  | (c, some r) =>
    let s := { s with cursor := c, mode := .outside }
    if r.is '\n' then s.skip
    else { s with
      pending := some ⟨s.text, s.opened⟩
      cursor := c.advance r }.skip

/-- One run of the current mode. -/
def step (s : Scanner) : Scanner :=
  match s.mode with
  | .outside => s.runOutside
  | .inside => s.runInside

/-- What is left to do before a span is found or the buffer is used up: two for
each byte ahead, one for having to leave the inside of a span. -/
def work (s : Scanner) : Nat :=
  2 * (s.buffer.length - s.cursor.index) + (if s.mode = .inside then 1 else 0)

/-- If bytes are ahead, the cursor is not at the end of the buffer. -/
theorem index_lt_length {s : Scanner} (h : s.ahead ≠ []) : s.cursor.index < s.buffer.length := by
  have : 0 < s.ahead.length := List.length_pos_iff.2 h
  rw [ahead, List.length_drop] at this
  omega

/-- A run with bytes ahead leaves less to do: outside a span it reads at least
one byte, inside one it reads a byte or leaves the mode. -/
theorem work_step_lt {s : Scanner} (ha : s.ahead ≠ []) : s.step.work < s.work := by
  have h := index_lt_length ha
  rw [step]
  split
  · next hm =>
    rw [runOutside]
    have hle := Cursor.index_le_seek (·.is '<') s.cursor s.ahead
    have hlt := Cursor.index_lt_seek_of_none (·.is '<') s.cursor s.ahead ha
    split
    · next c hc =>
      rw [hc] at hlt
      have : s.cursor.index < c.index := hlt rfl
      simp only [skip, work, hm]
      simp only [reduceCtorEq, if_false]
      omega
    · next c r hc =>
      rw [hc] at hle
      have := Cursor.index_lt_advance c r
      simp only [skip, work, hm]
      simp only [reduceCtorEq, if_false, if_true]
      have : s.cursor.index ≤ c.index := hle
      omega
  · next hm =>
    rw [runInside]
    have hle := Cursor.index_le_seek (fun r => r.is '>' || r.is '\n') s.cursor s.ahead
    have hlt := Cursor.index_lt_seek_of_none (fun r => r.is '>' || r.is '\n') s.cursor s.ahead ha
    split
    · next c hc =>
      rw [hc] at hlt
      have : s.cursor.index < c.index := hlt rfl
      simp only [work, hm]
      simp only [if_true]
      omega
    · next c r hc =>
      rw [hc] at hle
      have := Cursor.index_lt_advance c r
      have : s.cursor.index ≤ c.index := hle
      split
      · simp only [skip, work, hm]
        simp only [reduceCtorEq, if_false, if_true]
        omega
      · simp only [skip, work, hm]
        simp only [reduceCtorEq, if_false, if_true]
        omega

/-- Runs the scanner until a span is finished, which is handed out, or the
buffer is used up. -/
def hunt (s : Scanner) : Option Span × Scanner :=
  match s.pending with
  | some p => (some p, { s with pending := none })
  | none => if s.ahead = [] then (none, s) else s.step.hunt
termination_by s.work
decreasing_by exact work_step_lt ‹_›

/-- The next span of the text fed so far, if there is one. -/
def next (s : Scanner) : Option Span × Scanner := s.refill.hunt

end Scanner

end NodeScript
