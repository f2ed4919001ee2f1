/-
  Reading a script without a buffer.

  A `Reading` is what has to be known of the text read so far: the line, the
  column, and the span that is open, if one is. It changes by one rune at a time,
  so what it makes of a text is a fold over its runes, and what it makes of two
  texts one after the other is known from each (`spans_append`).

  Columns are the only thing that depends on where characters begin and end. All
  else can be told from single bytes: an `Outline` is a reading without columns,
  and it changes by one byte at a time (`outline_readAll`, `outline_spans`).
-/
import NodeScript.Script.Command
import NodeScript.Proofs.Text.Runes

namespace NodeScript

/-! ### Readings -/

/-- Where a reader stands: the line, counted from one, the number of runes read
on that line, and the span that is open, with its text so far. -/
structure Reading where
  line : Nat := 1
  column : Nat := 0
  span : Option Span := none
  deriving DecidableEq

namespace Reading

/-- The reading after one more rune. Outside a span only `<` matters; inside one
`>` and the newline end it, and everything else is its text, `<` too. -/
def read (label : Bytes) (s : Reading) (r : Rune) : Reading :=
  let line := if r.is '\n' then s.line + 1 else s.line
  let column := if r.is '\n' then 0 else s.column + 1
  { line, column
    span := match s.span with
      | none => if r.is '<' then some ⟨[], ⟨label, line, column⟩⟩ else none
      | some p => if r.is '>' || r.is '\n' then none else some ⟨p.text ++ r.bytes, p.place⟩ }

/-- The span that a rune finishes, if it finishes one. -/
def finished (s : Reading) (r : Rune) : List Span := if r.is '>' then s.span.toList else []

/-- The reading after more runes. -/
def readAll (label : Bytes) (s : Reading) (rs : List Rune) : Reading := rs.foldl (read label) s

/-- The spans that more runes finish. -/
def spans (label : Bytes) (s : Reading) : List Rune → List Span
  | [] => []
  | r :: rs => s.finished r ++ (s.read label r).spans label rs

theorem readAll_append (label : Bytes) (s : Reading) (rs rs' : List Rune) :
    s.readAll label (rs ++ rs') = (s.readAll label rs).readAll label rs' :=
  List.foldl_append ..

theorem spans_append (label : Bytes) (s : Reading) (rs rs' : List Rune) :
    s.spans label (rs ++ rs') = s.spans label rs ++ (s.readAll label rs).spans label rs' := by
  induction rs generalizing s with
  | nil => rfl
  | cons r rs ih =>
    rw [List.cons_append, spans, spans, ih, List.append_assoc]
    rfl

end Reading

/-! ### Outlines -/

/-- What a span is without its column: its text and the line of its `<`. -/
def Span.outline (p : Span) : Bytes × Int := (p.text, p.place.line)

/-- A reading without its columns. -/
structure Outline where
  line : Nat := 1
  span : Option (Bytes × Int) := none
  deriving DecidableEq

namespace Outline

/-- The outline after one more byte. -/
def read (o : Outline) (b : UInt8) : Outline where
  line := if b = newline then o.line + 1 else o.line
  span := match o.span with
    | none => if b = opening then some ([], o.line) else none
    | some (text, line) => if b = closing ∨ b = newline then none else some (text ++ [b], line)

/-- The span that a byte finishes, if it finishes one. -/
def finished (o : Outline) (b : UInt8) : List (Bytes × Int) :=
  if b = closing then o.span.toList else []

/-- The outline after more bytes. -/
def readAll (o : Outline) (s : Bytes) : Outline := s.foldl read o

/-- The spans that more bytes finish. -/
def spans (o : Outline) : Bytes → List (Bytes × Int)
  | [] => []
  | b :: s => o.finished b ++ (o.read b).spans s

theorem readAll_append (o : Outline) (s t : Bytes) :
    o.readAll (s ++ t) = (o.readAll s).readAll t :=
  List.foldl_append ..

theorem spans_append (o : Outline) (s t : Bytes) :
    o.spans (s ++ t) = o.spans s ++ (o.readAll s).spans t := by
  induction s generalizing o with
  | nil => rfl
  | cons b s ih =>
    rw [List.cons_append, spans, spans, ih, List.append_assoc]
    rfl

/-- Bytes at or above `0x80` are only ever text. -/
theorem readAll_of_high (o : Outline) {s : Bytes} (h : ∀ b ∈ s, 0x80 ≤ b.toNat) :
    o.readAll s = { o with span := o.span.map fun p => (p.1 ++ s, p.2) } ∧ o.spans s = [] := by
  induction s generalizing o with
  | nil => obtain ⟨line, _ | ⟨text, l⟩⟩ := o <;> simp [readAll, spans]
  | cons b s ih =>
    have hb : 0x80 ≤ b.toNat := h b (List.mem_cons_self ..)
    -- None of the three delimiters is that high.
    have hne (d : UInt8) (hd : d.toNat < 0x80) : b ≠ d := by
      rintro rfl; omega
    have hn := hne newline (by decide)
    have ho := hne opening (by decide)
    have hc := hne closing (by decide)
    obtain ⟨hall, hspans⟩ := ih (o.read b) fun x hx => h x (List.mem_cons_of_mem _ hx)
    constructor
    · show (o.read b).readAll s = _
      rw [hall]
      obtain ⟨line, _ | ⟨text, l⟩⟩ := o <;> simp [read, hn, ho, hc]
    · rw [spans, hspans]
      simp [finished, hc]

end Outline

/-- The outline of a reading. -/
def Reading.outline (s : Reading) : Outline := ⟨s.line, s.span.map Span.outline⟩

/-! ### A reading and its outline -/

/-- How the delimiters show in a rune: it has one byte, and is the delimiter that
this byte is, or it has only bytes at or above `0x80`, and is none. -/
theorem Rune.IsRead.delimiters {r : Rune} (h : r.IsRead) :
    (∃ b, r.bytes = [b] ∧ r.is '\n' = decide (b = newline) ∧ r.is '<' = decide (b = opening) ∧
      r.is '>' = decide (b = closing)) ∨
    ((∀ b ∈ r.bytes, 0x80 ≤ b.toNat) ∧ r.is '\n' = false ∧ r.is '<' = false ∧
      r.is '>' = false) := by
  rcases h.ascii_or_high with ⟨c, -, -, hb⟩ | hhigh
  · have his (d : Char) (hd : d.toNat < 0x80) :
        r.is d = decide (UInt8.ofNat c.toNat = UInt8.ofNat d.toNat) := by
      rw [Bool.eq_iff_iff, h.is_iff hd, hb, decide_eq_true_eq, List.singleton_inj]
    exact Or.inl ⟨_, hb, his _ (by decide), his _ (by decide), his _ (by decide)⟩
  · have hnot (d : Char) (hd : d.toNat < 0x80) : r.is d = false := by
      rw [Bool.eq_false_iff, Ne, ← h.mem_bytes_iff hd]
      intro hmem
      have := hhigh _ hmem
      rw [UInt8.toNat_ofNat'] at this
      omega
    exact Or.inr ⟨hhigh, hnot _ (by decide), hnot _ (by decide), hnot _ (by decide)⟩

namespace Reading

theorem outline_read (label : Bytes) (s : Reading) {r : Rune} (h : r.IsRead) :
    (s.read label r).outline = s.outline.readAll r.bytes := by
  rcases h.delimiters with ⟨b, hb, hn, ho, hg⟩ | ⟨hhigh, hn, ho, hg⟩
  · rw [hb]
    show _ = s.outline.read b
    obtain ⟨line, column, _ | ⟨text, place⟩⟩ := s
    · by_cases hbo : b = opening
      · subst hbo
        simp [read, outline, Span.outline, Outline.read, hn, ho, show opening ≠ newline by decide]
      · simp [read, outline, Outline.read, hn, ho, hbo]
    · by_cases hbc : b = closing ∨ b = newline
      · simp [read, outline, Span.outline, Outline.read, hn, hg, hbc]
      · simp [read, outline, Span.outline, Outline.read, hn, hg, hbc, hb]
  · rw [(s.outline.readAll_of_high hhigh).1]
    obtain ⟨line, column, _ | ⟨text, place⟩⟩ := s <;>
      simp [read, outline, Span.outline, hn, ho, hg]

theorem outline_finished (s : Reading) {r : Rune} (h : r.IsRead) :
    (s.finished r).map Span.outline = s.outline.spans r.bytes := by
  rcases h.delimiters with ⟨b, hb, -, -, hg⟩ | ⟨hhigh, -, -, hg⟩
  · rw [hb, Outline.spans, Outline.spans, List.append_nil]
    unfold finished Outline.finished
    rw [hg]
    by_cases hbc : b = closing
    · obtain ⟨line, column, _ | p⟩ := s <;> simp [outline, hbc]
    · simp [hbc]
  · rw [(s.outline.readAll_of_high hhigh).2]
    simp [finished, hg]

theorem outline_readAll (label : Bytes) (s : Reading) (t : Bytes) :
    (s.readAll label (runes t)).outline = s.outline.readAll t := by
  induction t using rune_induction generalizing s with
  | nil => rw [runes_nil]; rfl
  | read r t rest h ih =>
    have hr := isRead_of_nextRune? h
    rw [runes_of_nextRune? h, eq_append_of_nextRune? h, Outline.readAll_append,
      ← outline_read label s hr, ← ih]
    rfl

theorem outline_spans (label : Bytes) (s : Reading) (t : Bytes) :
    (s.spans label (runes t)).map Span.outline = s.outline.spans t := by
  induction t using rune_induction generalizing s with
  | nil => rw [runes_nil]; rfl
  | read r t rest h ih =>
    have hr := isRead_of_nextRune? h
    rw [runes_of_nextRune? h, eq_append_of_nextRune? h, Outline.spans_append, spans,
      List.map_append, ih, outline_read label s hr, outline_finished s hr]

end Reading

end NodeScript
