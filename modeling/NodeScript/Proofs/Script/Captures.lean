/-
  Captures, said without a search.

  A pattern fits a text around an argument if the text is some bytes, then the words of
  the pattern in order with any separators between two of them, then the argument, then
  the closing byte, then anything (`Pattern.Fits`). The search gives the argument of the
  fit with the least in front of it, and nothing if there is no fit
  (`leftmost_find?`). It tries one place after another, and at each place it takes the
  separators greedily and the argument up to the first byte that cannot be in it. Nothing
  is lost that way, because no word begins with a separator and no argument can hold the
  closing byte (`Definite`).
-/
import NodeScript.Proofs.Script.Arguments

namespace NodeScript

/-- `found` is the argument of the fit with the least in front of it, or nothing if there
is no fit. -/
def Leftmost (fits : Bytes → Bytes → Prop) (found : Option Bytes) : Prop :=
  (∀ v, found = some v ↔
    ∃ front, fits front v ∧ ∀ front' v', fits front' v' → front.length ≤ front'.length) ∧
  (found = none ↔ ∀ front v, ¬ fits front v)

namespace Leftmost

variable {fits fits' : Bytes → Bytes → Prop} {found : Option Bytes}

theorem congr (h : Leftmost fits found) (heq : ∀ front v, fits front v ↔ fits' front v) :
    Leftmost fits' found := by
  have hfits : fits = fits' := by
    funext front v
    exact propext (heq front v)
  rwa [← hfits]

theorem unique {found' : Option Bytes} (h : Leftmost fits found) (h' : Leftmost fits found') :
    found = found' := by
  apply Option.ext
  intro v
  rw [h.1 v, h'.1 v]

/-- A fit with nothing in front of it is the leftmost. -/
theorem here {u : Bytes} (h : ∀ v, fits [] v ↔ v = u) : Leftmost fits (some u) := by
  have hu : fits [] u := (h u).mpr rfl
  refine ⟨fun v => ⟨?_, ?_⟩, ?_⟩
  · intro hv
    obtain rfl := Option.some.inj hv
    exact ⟨[], hu, fun _ _ _ => Nat.zero_le _⟩
  · rintro ⟨front, hv, hleast⟩
    have hlength := hleast [] u hu
    obtain rfl := List.eq_nil_of_length_eq_zero (Nat.le_zero.mp hlength)
    rw [(h v).mp hv]
  · constructor
    · intro hnone
      cases hnone
    · intro hnone
      exact absurd hu (hnone [] u)

/-- If there is none, the leftmost fit is that of the text behind the first byte. -/
theorem there {b : UInt8} (hnil : ∀ v, ¬ fits [] v)
    (hcons : ∀ a front v, fits (a :: front) v ↔ a = b ∧ fits' front v)
    (h : Leftmost fits' found) : Leftmost fits found := by
  have hinv : ∀ front v, fits front v → ∃ front', front = b :: front' ∧ fits' front' v := by
    intro front v hv
    cases front with
    | nil => exact absurd hv (hnil v)
    | cons a front =>
      obtain ⟨rfl, hv⟩ := (hcons a front v).mp hv
      exact ⟨front, rfl, hv⟩
  refine ⟨fun v => ?_, ?_⟩
  · rw [h.1 v]
    constructor
    · rintro ⟨front, hv, hleast⟩
      refine ⟨b :: front, (hcons ..).mpr ⟨rfl, hv⟩, fun front' v' hv' => ?_⟩
      obtain ⟨front'', rfl, hv''⟩ := hinv front' v' hv'
      exact Nat.succ_le_succ (hleast front'' v' hv'')
    · rintro ⟨front, hv, hleast⟩
      obtain ⟨front', rfl, hv'⟩ := hinv front v hv
      refine ⟨front', hv', fun front'' v'' hv'' => ?_⟩
      have hlength := hleast (b :: front'') v'' ((hcons ..).mpr ⟨rfl, hv''⟩)
      exact Nat.le_of_succ_le_succ hlength
  · rw [h.2]
    constructor
    · intro hnone front v hv
      obtain ⟨front', -, hv'⟩ := hinv front v hv
      exact hnone front' v hv'
    · intro hnone front v hv
      exact hnone (b :: front) v ((hcons ..).mpr ⟨rfl, hv⟩)

end Leftmost

theorem Bytes.stripStart?_eq_some_iff {w s rest : Bytes} :
    stripStart? w s = some rest ↔ s = w ++ rest := by
  constructor
  · exact eq_append_of_stripStart?
  · rintro rfl
    induction w with
    | nil => rfl
    | cons a w ih =>
      rw [List.cons_append, stripStart?, if_pos rfl]
      exact ih

namespace Pattern

variable {p : Pattern} {s v rest front : Bytes} {ws : List Bytes}

/-! ### What leads up to an argument -/

/-- The words in order, with any separators between two of them. -/
def Leads : List Bytes → Bytes → Prop
  | [], lead => lead = []
  | [w], lead => lead = w
  | w :: ws, lead => ∃ gap lead', lead = w ++ (gap ++ lead') ∧
      (∀ b ∈ gap, isSeparator b = true) ∧ Leads ws lead'

/-- A word that separators in front of it cannot be confused with. -/
def IsWord (w : Bytes) : Prop := w.head?.any (fun b => !isSeparator b) = true

instance : DecidablePred IsWord := fun _ => inferInstanceAs (Decidable (_ = _))

theorem IsWord.exists_head? {w : Bytes} (h : IsWord w) :
    ∃ b, w.head? = some b ∧ isSeparator b = false := by
  obtain ⟨b, hb, hsolid⟩ := (Option.any_eq_true ..).mp h
  exact ⟨b, hb, by simpa using hsolid⟩

theorem Leads.head? {w lead : Bytes} {b : UInt8} (h : Leads (w :: ws) lead)
    (hw : w.head? = some b) : lead.head? = some b := by
  cases ws with
  | nil =>
    obtain rfl : lead = w := h
    exact hw
  | cons w' ws =>
    obtain ⟨gap, lead', rfl, -, -⟩ := h
    rw [List.head?_append, hw]
    rfl

/-- Taking separators greedily takes those that stand between two words. -/
theorem dropWhile_gap {gap lead : Bytes} {b : UInt8} (hgap : ∀ a ∈ gap, isSeparator a = true)
    (hlead : lead.head? = some b) (hb : isSeparator b = false) (rest : Bytes) :
    (gap ++ (lead ++ rest)).dropWhile isSeparator = lead ++ rest := by
  obtain ⟨t, rfl⟩ := List.head?_eq_some_iff.mp hlead
  rw [List.dropWhile_append_of_pos hgap, List.cons_append,
    List.dropWhile_cons_of_neg (by simp [hb])]

theorem afterWords?_eq_some_iff (hws : ∀ w ∈ ws.tail, IsWord w) :
    afterWords? ws s = some rest ↔ ∃ lead, Leads ws lead ∧ s = lead ++ rest := by
  fun_induction afterWords? ws s with
  | case1 s => simp [Leads]
  | case2 s w => simp [Leads, Bytes.stripStart?_eq_some_iff]
  | case3 w ws s hne ih =>
    -- Behind the first word, there is at least one more.
    obtain ⟨w', ws, rfl⟩ := List.exists_cons_of_ne_nil hne
    obtain ⟨hw', htail⟩ := List.forall_mem_cons.mp hws
    obtain ⟨b, hhead, hb⟩ := hw'.exists_head?
    constructor
    · intro h
      obtain ⟨t, ht, hrest⟩ := Option.bind_eq_some_iff.mp h
      have hs := Bytes.eq_append_of_stripStart? ht
      obtain ⟨lead, hlead, hdrop⟩ := (ih t htail).mp hrest
      have hsplit := List.takeWhile_append_dropWhile (p := isSeparator) (l := t)
      refine ⟨w ++ (t.takeWhile isSeparator ++ lead), ⟨_, lead, rfl, ?_, hlead⟩, ?_⟩
      · exact List.all_eq_true.mp List.all_takeWhile
      · rw [hs, List.append_assoc, List.append_assoc, ← hdrop, hsplit]
    · rintro ⟨-, ⟨gap, lead, rfl, hgap, hlead⟩, rfl⟩
      have hdrop := dropWhile_gap hgap (hlead.head? hhead) hb rest
      have hstrip : Bytes.stripStart? w (w ++ (gap ++ lead) ++ rest) =
          some (gap ++ (lead ++ rest)) := by
        rw [Bytes.stripStart?_eq_some_iff, List.append_assoc, List.append_assoc]
      rw [hstrip, Option.bind_eq_bind, Option.bind_some]
      refine (ih _ htail).mpr ⟨lead, hlead, ?_⟩
      exact hdrop

/-! ### One place -/

/-- What makes the fit at a place unique: no word behind the first begins with a separator,
and the closing byte is none that an argument may hold. -/
structure Definite (p : Pattern) : Prop where
  words : ∀ w ∈ p.words.tail, IsWord w
  close : p.inner p.close = false

/-- The pattern fits the text around the argument `v`, behind the bytes `front`. -/
def Fits (p : Pattern) (s front v : Bytes) : Prop :=
  ∃ lead rest, s = front ++ (lead ++ (v ++ p.close :: rest)) ∧ Leads p.words lead ∧
    (∀ b ∈ v, p.inner b = true) ∧ p.least ≤ v.length

theorem matchHere?_eq_some_iff (hp : p.Definite) : p.matchHere? s = some v ↔ p.Fits s [] v := by
  constructor
  · intro h
    have hinner : ∀ b ∈ v, p.inner b = true := fun b hb => inner_of_mem_matchHere? h hb
    unfold matchHere? at h
    obtain ⟨t, ht, hv⟩ := Option.bind_eq_some_iff.mp h
    obtain ⟨lead, hlead, rfl⟩ := (afterWords?_eq_some_iff hp.words).mp ht
    dsimp only at hv
    split at hv
    · next hfits =>
      obtain ⟨hleast, hafter⟩ := hfits
      obtain rfl := Option.some.inj hv
      obtain ⟨rest, hrest⟩ := List.head?_eq_some_iff.mp hafter
      refine ⟨lead, rest, ?_, hlead, hinner, hleast⟩
      rw [List.nil_append, ← hrest, List.takeWhile_append_dropWhile]
    · cases hv
  · rintro ⟨lead, rest, rfl, hlead, hinner, hleast⟩
    have hwords : afterWords? p.words (lead ++ (v ++ p.close :: rest)) =
        some (v ++ p.close :: rest) :=
      (afterWords?_eq_some_iff hp.words).mpr ⟨lead, hlead, rfl⟩
    exact matchHere?_eq_some hwords hinner hp.close hleast

/-! ### All places -/

theorem not_fits_nil : ¬ p.Fits [] front v := by
  rintro ⟨lead, rest, h, -⟩
  simp at h

theorem fits_cons_iff {a b : UInt8} :
    p.Fits (b :: s) (a :: front) v ↔ a = b ∧ p.Fits s front v := by
  constructor
  · rintro ⟨lead, rest, h, hfits⟩
    obtain ⟨hab, hs⟩ := List.cons.inj h
    exact ⟨hab.symm, lead, rest, hs, hfits⟩
  · rintro ⟨rfl, lead, rest, rfl, hfits⟩
    exact ⟨lead, rest, rfl, hfits⟩

/-- **The search finds the leftmost fit.** -/
theorem leftmost_find? (hp : p.Definite) (s : Bytes) : Leftmost (p.Fits s) (p.find? s) := by
  induction s with
  | nil =>
    have hnone : p.find? [] = none := by
      rw [find?, Option.eq_none_iff_forall_ne_some]
      intro v hv
      exact not_fits_nil ((matchHere?_eq_some_iff hp).mp hv)
    rw [hnone]
    refine ⟨fun v => ?_, ?_⟩
    · simp [not_fits_nil]
    · simp [not_fits_nil]
  | cons b s ih =>
    cases hhere : p.matchHere? (b :: s) with
    | some u =>
      rw [find?_of_matchHere? hhere]
      apply Leftmost.here
      intro v
      rw [← matchHere?_eq_some_iff hp, hhere, Option.some.injEq, eq_comm]
    | none =>
      have hfind : p.find? (b :: s) = p.find? s := by
        rw [find?, hhere]
        rfl
      have hnil : ∀ v, ¬ p.Fits (b :: s) [] v := by
        intro v hv
        rw [← matchHere?_eq_some_iff hp, hhere] at hv
        cases hv
      rw [hfind]
      exact ih.there hnil fun a front v => fits_cons_iff

/-- Behind a text, bytes without the closing byte make no difference to what fits. -/
theorem fits_append_iff {y : Bytes} (hy : p.close ∉ y) :
    p.Fits (s ++ y) front v ↔ p.Fits s front v := by
  constructor
  · rintro ⟨lead, rest, h, hfits⟩
    have hsplit : s ++ y = (front ++ (lead ++ v)) ++ p.close :: rest := by
      rw [h]
      simp only [List.append_assoc]
    rcases List.append_eq_append_iff.mp hsplit with ⟨u, -, hu⟩ | ⟨u, hs, hu⟩
    · refine absurd ?_ hy
      rw [hu]
      exact List.mem_append_right _ (List.mem_cons_self ..)
    -- The closing byte stands in `s`, since it does not stand in `y`.
    · cases u with
      | nil =>
        refine absurd ?_ hy
        rw [List.nil_append] at hu
        rw [← hu]
        exact List.mem_cons_self ..
      | cons b u =>
        obtain ⟨rfl, -⟩ := List.cons.inj hu
        refine ⟨lead, u, ?_, hfits⟩
        rw [hs]
        simp only [List.append_assoc]
  · rintro ⟨lead, rest, rfl, hfits⟩
    refine ⟨lead, rest ++ y, ?_, hfits⟩
    simp only [List.append_assoc, List.cons_append]

theorem find?_append_of_close_not_mem {y : Bytes} (hp : p.Definite) (hy : p.close ∉ y)
    (s : Bytes) : p.find? (s ++ y) = p.find? s := by
  have hboth : Leftmost (p.Fits s) (p.find? (s ++ y)) :=
    (leftmost_find? hp (s ++ y)).congr fun _ _ => fits_append_iff hy
  exact hboth.unique (leftmost_find? hp s)

end Pattern

/-! ### The patterns of the language -/

/-- The argument `v` stands in quotes behind two words. -/
def Quotes (word sep s front v : Bytes) : Prop :=
  ∃ gap gap' rest,
    s = front ++ word ++ gap ++ sep ++ gap' ++ utf8 "\"" ++ v ++ utf8 "\"" ++ rest ∧
    (∀ b ∈ gap, b ∈ utf8 "\t\n\x0c\r ") ∧ (∀ b ∈ gap', b ∈ utf8 "\t\n\x0c\r ") ∧
    ∀ b ∈ v, b ∉ utf8 "\"\n"

/-- The argument `v` stands in the parentheses of a `send`. -/
def Sends (s front v : Bytes) : Prop :=
  ∃ gap rest, s = front ++ utf8 "send" ++ gap ++ utf8 "(" ++ v ++ utf8 ")" ++ rest ∧
    (∀ b ∈ gap, b ∈ utf8 "\t\n\x0c\r ") ∧ ∀ b ∈ v, b ∉ utf8 ")\n"

/-- The digits `v` stand in the brackets of a `node`. -/
def Numbers (s front v : Bytes) : Prop :=
  ∃ rest, s = front ++ utf8 "node[" ++ v ++ utf8 "]" ++ rest ∧
    v ≠ [] ∧ ∀ b ∈ v, b ∈ utf8 "0123456789"

theorem isSeparator_iff {b : UInt8} : isSeparator b = true ↔ b ∈ utf8 "\t\n\x0c\r " := by
  show _ ↔ b ∈ [9, 10, 12, 13, 32]
  simp [isSeparator, or_assoc]

theorem Bytes.isDigit_iff {b : UInt8} : isDigit b = true ↔ b ∈ utf8 "0123456789" := by
  show _ ↔ b ∈ [48, 49, 50, 51, 52, 53, 54, 55, 56, 57]
  simp only [isDigit, Bool.and_eq_true, decide_eq_true_eq, UInt8.le_iff_toNat_le, List.mem_cons,
    List.not_mem_nil, or_false, ← UInt8.toNat_inj]
  simp
  omega

namespace Pattern

variable {s front v : Bytes}

theorem inner_upTo_iff {words : List Bytes} {close b : UInt8} :
    (upTo words close).inner b = true ↔ b ∉ [close, newline] := by
  simp [upTo]

theorem definite_upTo {w : Bytes} {ws : List Bytes} (hws : ∀ w ∈ ws, IsWord w) (close : UInt8) :
    (upTo (w :: ws) close).Definite where
  words := hws
  close := by simp [upTo]

theorem fits_quotes_iff {word sep : Bytes} :
    (upTo [word, sep, utf8 "\""] doubleQuote).Fits s front v ↔ Quotes word sep s front v := by
  have hsplit : ∀ gap gap' rest : Bytes,
      front ++ (word ++ (gap ++ (sep ++ (gap' ++ utf8 "\""))) ++ (v ++ doubleQuote :: rest)) =
        front ++ word ++ gap ++ sep ++ gap' ++ utf8 "\"" ++ v ++ utf8 "\"" ++ rest := by
    intro gap gap' rest
    simp only [List.append_assoc]
    rfl
  constructor
  · rintro ⟨-, rest, hs, ⟨gap, -, rfl, hgap, gap', -, rfl, hgap', rfl⟩, hv, -⟩
    refine ⟨gap, gap', rest, hs.trans (hsplit gap gap' rest), ?_, ?_, ?_⟩
    · exact fun b hb => isSeparator_iff.mp (hgap b hb)
    · exact fun b hb => isSeparator_iff.mp (hgap' b hb)
    · exact fun b hb => inner_upTo_iff.mp (hv b hb)
  · rintro ⟨gap, gap', rest, hs, hgap, hgap', hv⟩
    refine ⟨_, rest, hs.trans (hsplit gap gap' rest).symm, ?_, ?_, Nat.zero_le _⟩
    · refine ⟨gap, _, rfl, fun b hb => ?_, gap', _, rfl, fun b hb => ?_, rfl⟩
      · exact isSeparator_iff.mpr (hgap b hb)
      · exact isSeparator_iff.mpr (hgap' b hb)
    · exact fun b hb => inner_upTo_iff.mpr (hv b hb)

theorem fits_sends_iff : sendArgument.Fits s front v ↔ Sends s front v := by
  have hsplit : ∀ gap rest : Bytes,
      front ++ (utf8 "send" ++ (gap ++ utf8 "(") ++ (v ++ closingParenthesis :: rest)) =
        front ++ utf8 "send" ++ gap ++ utf8 "(" ++ v ++ utf8 ")" ++ rest := by
    intro gap rest
    simp only [List.append_assoc]
    rfl
  constructor
  · rintro ⟨-, rest, hs, ⟨gap, -, rfl, hgap, rfl⟩, hv, -⟩
    refine ⟨gap, rest, hs.trans (hsplit gap rest), ?_, ?_⟩
    · exact fun b hb => isSeparator_iff.mp (hgap b hb)
    · exact fun b hb => inner_upTo_iff.mp (hv b hb)
  · rintro ⟨gap, rest, hs, hgap, hv⟩
    refine ⟨_, rest, hs.trans (hsplit gap rest).symm, ?_, ?_, Nat.zero_le _⟩
    · exact ⟨gap, _, rfl, fun b hb => isSeparator_iff.mpr (hgap b hb), rfl⟩
    · exact fun b hb => inner_upTo_iff.mpr (hv b hb)

theorem fits_numbers_iff : nodeId.Fits s front v ↔ Numbers s front v := by
  have hsplit : ∀ rest : Bytes, front ++ (utf8 "node[" ++ (v ++ closingBracket :: rest)) =
      front ++ utf8 "node[" ++ v ++ utf8 "]" ++ rest := by
    intro rest
    simp only [List.append_assoc]
    rfl
  constructor
  · rintro ⟨-, rest, hs, rfl, hv, hleast⟩
    refine ⟨rest, hs.trans (hsplit rest), List.length_pos_iff.mp hleast, ?_⟩
    exact fun b hb => Bytes.isDigit_iff.mp (hv b hb)
  · rintro ⟨rest, hs, hne, hv⟩
    refine ⟨_, rest, hs.trans (hsplit rest).symm, rfl, ?_, List.length_pos_iff.mpr hne⟩
    exact fun b hb => Bytes.isDigit_iff.mpr (hv b hb)

/-! ### Searches -/

theorem definite_nodeApi : nodeApi.Definite := definite_upTo (by decide) doubleQuote

theorem definite_exportPath : exportPath.Definite := definite_upTo (by decide) doubleQuote

theorem definite_sendArgument : sendArgument.Definite := definite_upTo (by decide) closingParenthesis

theorem definite_nodeId : nodeId.Definite where
  words := nofun
  close := rfl

theorem leftmost_nodeApi (s : Bytes) :
    Leftmost (Quotes (utf8 "NodeAPI") (utf8 "=") s) (nodeApi.find? s) :=
  (leftmost_find? definite_nodeApi s).congr fun _ _ => fits_quotes_iff

theorem leftmost_exportPath (s : Bytes) :
    Leftmost (Quotes (utf8 "out") (utf8 "=>") s) (exportPath.find? s) :=
  (leftmost_find? definite_exportPath s).congr fun _ _ => fits_quotes_iff

theorem leftmost_sendArgument (s : Bytes) : Leftmost (Sends s) (sendArgument.find? s) :=
  (leftmost_find? definite_sendArgument s).congr fun _ _ => fits_sends_iff

theorem leftmost_nodeId (s : Bytes) : Leftmost (Numbers s) (nodeId.find? s) :=
  (leftmost_find? definite_nodeId s).congr fun _ _ => fits_numbers_iff

end Pattern

/-- **What the patterns capture.** Each search gives the argument of the leftmost place where
the words of its pattern stand in order, with nothing but tabs, newlines, form feeds, carriage
returns and spaces between two of them, and an argument and its closing byte behind them: in
quotes behind `NodeAPI` and `=` or behind `out` and `=>`, in parentheses behind `send`, or in
the brackets of a `node`. If there is no such place it gives nothing. -/
theorem find?_is_leftmost (s : Bytes) :
    Leftmost (Quotes (utf8 "NodeAPI") (utf8 "=") s) (Pattern.nodeApi.find? s) ∧
    Leftmost (Quotes (utf8 "out") (utf8 "=>") s) (Pattern.exportPath.find? s) ∧
    Leftmost (Sends s) (Pattern.sendArgument.find? s) ∧
    Leftmost (Numbers s) (Pattern.nodeId.find? s) :=
  ⟨Pattern.leftmost_nodeApi s, Pattern.leftmost_exportPath s, Pattern.leftmost_sendArgument s,
    Pattern.leftmost_nodeId s⟩

/-- An early quote that a newline leaves open, and one inside it that is closed. -/
example :
    Pattern.nodeApi.find? (utf8 "NodeAPI=\"NodeAPI \t=\n\"\x0bé\"\"") = some (utf8 "\x0bé") := by
  decide

end NodeScript
