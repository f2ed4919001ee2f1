/-
  Starting nodes by number.

  A start command names its node by the digits of the leftmost `node[…]` in its text, as a
  decimal number with any number of leading zeros. If the number fits in 64 bits, the node
  is started, and a line with its numeral without superfluous zeros is added to the output
  log. If not, the command is malformed, whatever follows in its text.
-/
import Mathlib.Data.Nat.Digits.Defs
import NodeScript.Interpreter.Run
import NodeScript.Proofs.Script.Captures
import NodeScript.Proofs.Simulation.Nodes
import NodeScript.Proofs.Text.Words

namespace NodeScript

namespace Bytes

/-! ### Decimal numbers -/

/-- The number that digits spell in base ten, the last one least. -/
def decimal (ds : Bytes) : Nat := Nat.ofDigits 10 (ds.reverse.map fun d => d.toNat - 48)

theorem digitsValue_eq_decimal (ds : Bytes) : digitsValue ds = decimal ds := by
  induction ds using List.reverseRecOn with
  | nil => rfl
  | append_singleton ds d ih =>
    have hleft : digitsValue (ds ++ [d]) = 10 * digitsValue ds + (d.toNat - 48) := by
      rw [digitsValue, List.foldl_append]
      rfl
    have hright : decimal (ds ++ [d]) = (d.toNat - 48) + 10 * decimal ds := by
      rw [decimal, List.reverse_append, List.reverse_singleton, List.singleton_append,
        List.map_cons, Nat.ofDigits_cons]
      rfl
    rw [hleft, hright, ih, Nat.add_comm]

/-- The digits `m` spell the number `n` without superfluous zeros. -/
structure IsNumeral (m : Bytes) (n : Nat) : Prop where
  ne_nil : m ≠ []
  digits : ∀ b ∈ m, b ∈ utf8 "0123456789"
  zero : m.head? = some 48 → m = [48]
  value : decimal m = n

theorem ofNat_of_lt {n : Nat} (h : n < 10) : ofNat n = [(48 + n).toUInt8] := by
  rw [ofNat, Nat.toDigits_of_lt_base h, List.map_singleton, Nat.toNat_digitChar_of_lt_ten h]

theorem ofNat_of_le {n : Nat} (h : 10 ≤ n) :
    ofNat n = ofNat (n / 10) ++ [(48 + n % 10).toUInt8] := by
  have hlt : n % 10 < 10 := Nat.mod_lt _ (by decide)
  rw [ofNat, Nat.toDigits_of_base_le (by decide) h, List.map_append, List.map_singleton,
    Nat.toNat_digitChar_of_lt_ten hlt]
  rfl

/-- Only zero has a numeral that begins with a zero. -/
theorem eq_zero_of_head?_ofNat {n : Nat} (h : (ofNat n).head? = some 48) : n = 0 := by
  induction n using Nat.strongRecOn with
  | ind n ih =>
    by_cases hn : n < 10
    · rw [ofNat_of_lt hn] at h
      have hbyte := congrArg UInt8.toNat (Option.some.inj h)
      have hmod : (48 + n).toUInt8.toNat = 48 + n := Nat.mod_eq_of_lt (by omega)
      rw [hmod] at hbyte
      have h48 : (48 : UInt8).toNat = 48 := rfl
      omega
    · rw [ofNat_of_le (by omega), List.head?_append_of_ne_nil _ (ofNat_ne_nil _)] at h
      have hzero := ih (n / 10) (by omega) h
      omega

theorem isNumeral_ofNat (n : Nat) : IsNumeral (ofNat n) n where
  ne_nil := ofNat_ne_nil n
  digits b hb := isDigit_iff.mp (isDigit_of_mem_ofNat hb)
  zero h := by
    rw [eq_zero_of_head?_ofNat h]
    rfl
  value := by rw [← digitsValue_eq_decimal, digitsValue_ofNat]

end Bytes

/-! ### The action -/

/-- `j` is `i` after the node `n` was started, with a line about it and no other change. -/
structure StartedOnly {σ : Type} (i j : Interpreter σ) (n : Nat) : Prop where
  host : j.host = i.host
  sink : j.sink = i.sink
  id : j.simulation.id = i.simulation.id
  nodes : ∀ m : Int, j.simulation.nodes.get? m =
    if m = n then some .started else i.simulation.nodes.get? m
  api : j.simulation.api = i.simulation.api
  output : ∃ numeral, Bytes.IsNumeral numeral n ∧ j.simulation.output =
    i.simulation.output ++ [utf8 "Engine started for node " ++ numeral ++ utf8 "."]

namespace Action

variable {σ : Type} {text text' d d' : Bytes}

theorem find?_of_leftmost (h : Leftmost (Numbers text) (some d)) :
    Pattern.nodeId.find? text = some d :=
  (Pattern.leftmost_nodeId text).unique h

theorem start_of_lt (h : Pattern.nodeId.find? text = some d) (hd : d.decimal < 2 ^ 63)
    (i : Interpreter σ) :
    start i text = change i fun s => (s.start d.decimal).append
      (utf8 "Engine started for node " ++ Bytes.ofNat d.decimal ++ utf8 ".") := by
  have hle : d.decimal ≤ Bytes.maxInt64 := Nat.le_pred_of_lt hd
  unfold start
  rw [h]
  dsimp only
  rw [Bytes.digitsValue_eq_decimal, if_pos hle]

theorem start_of_le (h : Pattern.nodeId.find? text = some d) (hd : 2 ^ 63 ≤ d.decimal)
    (i : Interpreter σ) : start i text = malformed i := by
  have hlt : ¬ d.decimal ≤ Bytes.maxInt64 := Nat.not_le.mpr (Nat.lt_of_lt_of_le (by decide) hd)
  unfold start
  rw [h]
  dsimp only
  rw [Bytes.digitsValue_eq_decimal, if_neg hlt]

theorem start_of_none (h : Pattern.nodeId.find? text = none) (i : Interpreter σ) :
    start i text = malformed i := by
  unfold start
  rw [h]

theorem startedOnly_start (h : Pattern.nodeId.find? text = some d) (hd : d.decimal < 2 ^ 63)
    (i : Interpreter σ) : StartedOnly i (start i text).1 d.decimal := by
  rw [start_of_lt h hd]
  refine ⟨rfl, rfl, rfl, ?_, rfl, _, Bytes.isNumeral_ofNat d.decimal, rfl⟩
  exact NodeTable.get?_start i.simulation.nodes d.decimal

/-- A start does nothing, unless the leftmost number is one of 64 bits. -/
theorem start_cases (i : Interpreter σ) (text : Bytes) :
    start i text = malformed i ∨
      ∃ d, Pattern.nodeId.find? text = some d ∧ d.decimal < 2 ^ 63 := by
  cases hfind : Pattern.nodeId.find? text with
  | none => exact .inl (start_of_none hfind i)
  | some d =>
    by_cases hd : d.decimal < 2 ^ 63
    · exact .inr ⟨d, rfl, hd⟩
    -- The search has found its leftmost place and is not taken up again.
    · exact .inl (start_of_le hfind (Nat.not_lt.mp hd) i)

/-- Where no node was known, the one that is known now tells its number. -/
theorem nodes_start_reset_iff (h : Pattern.nodeId.find? text = some d)
    (hd : d.decimal < 2 ^ 63) (h' : Pattern.nodeId.find? text' = some d')
    (hd' : d'.decimal < 2 ^ 63) (i : Interpreter σ) :
    (start i.reset text).1.simulation.nodes = (start i.reset text').1.simulation.nodes ↔
      d.decimal = d'.decimal := by
  have hget := (startedOnly_start h hd i.reset).nodes d.decimal
  have hget' := (startedOnly_start h' hd' i.reset).nodes d.decimal
  constructor
  · intro heq
    rw [heq, hget', if_pos rfl] at hget
    split at hget
    · next hnumber => exact Int.ofNat_inj.mp hnumber
    · cases hget
  · intro heq
    rw [start_of_lt h hd, start_of_lt h' hd', heq]

/-- The line about a start tells the number of the node. -/
theorem start_eq_start_iff (h : Pattern.nodeId.find? text = some d) (hd : d.decimal < 2 ^ 63)
    (h' : Pattern.nodeId.find? text' = some d') (hd' : d'.decimal < 2 ^ 63)
    (i : Interpreter σ) : start i text = start i text' ↔ d.decimal = d'.decimal := by
  rw [start_of_lt h hd, start_of_lt h' hd']
  constructor
  · intro heq
    have houtput := congrArg (fun r => r.1.simulation.output) heq
    have hline := List.append_cancel_left houtput
    have hnumeral := List.append_cancel_left (List.append_cancel_right (List.singleton_inj.mp hline))
    exact Bytes.ofNat_injective hnumeral
  · intro heq
    rw [heq]

end Action

/-- **Starts are exact on every string of digits.** Let `d` be the digits of the leftmost
`node[d]` in a text. Starting succeeds exactly if there are such digits and their number `n` is
below `2 ^ 63`. It then makes the node `n` known and running, leaves all else as it is but for a
line with the numeral of `n`. Two texts that start a node have the same outcome, and start the
same node where none was known, exactly if their digits spell the same number. If starting does
not succeed, the command is malformed and nothing is changed, whatever follows in the text. -/
theorem start_is_exact {σ : Type} (i : Interpreter σ) (text : Bytes) :
    ((Action.start i text).2 = none ↔
      ∃ d, Leftmost (Numbers text) (some d) ∧ d.decimal < 2 ^ 63) ∧
    ((Action.start i text).2 ≠ none → Action.start i text = (i, some .malformed)) ∧
    ∀ d, Leftmost (Numbers text) (some d) → d.decimal < 2 ^ 63 →
      StartedOnly i (Action.start i text).1 d.decimal ∧
      ∀ text' d', Leftmost (Numbers text') (some d') → d'.decimal < 2 ^ 63 →
        (Action.start i text = Action.start i text' ↔ d.decimal = d'.decimal) ∧
        ((Action.start i.reset text).1.simulation.nodes =
            (Action.start i.reset text').1.simulation.nodes ↔ d.decimal = d'.decimal) := by
  have hsucceeds : ∀ d, Pattern.nodeId.find? text = some d → d.decimal < 2 ^ 63 →
      (Action.start i text).2 = none := by
    intro d hfind hd
    rw [Action.start_of_lt hfind hd]
    rfl
  refine ⟨⟨fun hsuccess => ?_, ?_⟩, fun hfails => ?_, ?_⟩
  · rcases Action.start_cases i text with hmalformed | ⟨d, hfind, hd⟩
    · rw [hmalformed] at hsuccess
      cases hsuccess
    · have hleftmost := Pattern.leftmost_nodeId text
      rw [hfind] at hleftmost
      exact ⟨d, hleftmost, hd⟩
  · rintro ⟨d, hleftmost, hd⟩
    exact hsucceeds d (Action.find?_of_leftmost hleftmost) hd
  · rcases Action.start_cases i text with hmalformed | ⟨d, hfind, hd⟩
    · exact hmalformed
    · exact absurd (hsucceeds d hfind hd) hfails
  · intro d hleftmost hd
    have hfind := Action.find?_of_leftmost hleftmost
    refine ⟨Action.startedOnly_start hfind hd i, fun text' d' hleftmost' hd' => ?_⟩
    have hfind' := Action.find?_of_leftmost hleftmost'
    refine ⟨?_, ?_⟩
    · exact Action.start_eq_start_iff hfind hd hfind' hd' i
    · exact Action.nodes_start_reset_iff hfind hd hfind' hd' i

/-- The greatest number of 64 bits, behind an unclosed bracket and with leading zeros, and one
more than it in front of a number that would do. -/
theorem start_is_exact_at_greatest :
    let i := Interpreter.new ({} : Bench) [] []
    let text := utf8 "Start(node[9 node[0009223372036854775807] node[1]"
    let d := utf8 "0009223372036854775807"
    let text' := utf8 "node[9223372036854775807]"
    let d' := utf8 "9223372036854775807"
    let beyond := utf8 "node[9223372036854775808] node[1]"
    Leftmost (Numbers text) (some d) ∧ d.decimal < 2 ^ 63 ∧
      Leftmost (Numbers text') (some d') ∧ d'.decimal < 2 ^ 63 ∧
      StartedOnly i (Action.start i text).1 d.decimal ∧
      Action.start i text = Action.start i text' ∧
      (Action.start i beyond).2 ≠ none ∧ Action.start i beyond = (i, some .malformed) := by
  intro i text d text' d' beyond
  have hleftmost : Leftmost (Numbers text) (some d) := Pattern.leftmost_nodeId text
  have hleftmost' : Leftmost (Numbers text') (some d') := Pattern.leftmost_nodeId text'
  have hvalue : d.decimal = 9223372036854775807 := by
    rw [← Bytes.digitsValue_eq_decimal]
    rfl
  have hvalue' : d'.decimal = 9223372036854775807 := by
    rw [← Bytes.digitsValue_eq_decimal]
    rfl
  have hd : d.decimal < 2 ^ 63 := by
    rw [hvalue]
    decide
  have hd' : d'.decimal < 2 ^ 63 := by
    rw [hvalue']
    decide
  have hbeyond : (Action.start i beyond).2 ≠ none := by
    have hmalformed : (Action.start i beyond).2 = some .malformed := rfl
    rw [hmalformed]
    exact Option.some_ne_none _
  obtain ⟨-, -, hexact⟩ := start_is_exact i text
  obtain ⟨hstarted, hsame⟩ := hexact d hleftmost hd
  refine ⟨hleftmost, hd, hleftmost', hd', hstarted, ?_, hbeyond, ?_⟩
  · exact (hsame text' d' hleftmost' hd').1.mpr (hvalue.trans hvalue'.symm)
  · exact (start_is_exact i beyond).2.1 hbeyond

end NodeScript
