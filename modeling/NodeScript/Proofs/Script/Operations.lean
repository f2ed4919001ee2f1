/-
  Operations, and the scripts that ask for them.

  An operation is what a well-formed command means, without its spelling. Each has
  a text of its own (`Operation.text`), and a script is a list of such texts
  between brackets, with any filler around them (`spell`). However hostile the
  arguments and the filler are, a script is read as the operations that it spells
  (`readScript_spell`): no filler opens a bracket, no argument closes one, trimming
  does not touch a text that begins and ends with solid bytes, and the words of the
  language that an argument may hold do not change the kind of its command.
-/
import Mathlib.Algebra.Group.Nat.Defs
import NodeScript.Proofs.Script.Arguments
import NodeScript.Proofs.Script.Brackets
import NodeScript.Proofs.Text.Words

namespace NodeScript

/-- What may stand around the commands of a script: any text without a `<`. -/
abbrev Filler := { s : Bytes // opening ∉ s }

/-- What a command can ask for. Values and arguments carry the proof that they can
be spelled. -/
inductive Operation where
  | start (n : Nat) (hn : n < 2 ^ 63)
  | stopAll
  | setApi (v : Bytes) (hquote : doubleQuote ∉ v) (hclosing : closing ∉ v) (hline : newline ∉ v)
  | connect
  | stat
  | log
  | compress
  | standalone
  | send (a : Bytes) (hparen : closingParenthesis ∉ a) (hclosing : closing ∉ a)
      (hline : newline ∉ a) (hword : ¬ utf8 "NodeAPI" <:+: a)

namespace Operation

/-- The text of the command that asks for an operation. -/
def text : Operation → Bytes
  | .start n _ => utf8 "Start(node[" ++ Bytes.ofNat n ++ utf8 "])"
  | .stopAll => utf8 "Stop(node [*])"
  | .setApi v _ _ _ => utf8 "NodeAPI = \"" ++ v ++ utf8 "\""
  | .connect => utf8 "Conect"
  | .stat => utf8 "Stat(Node[*])"
  | .log => utf8 "LOG()"
  | .compress => utf8 "short()"
  | .standalone => utf8 "alone()"
  | .send a _ _ _ _ => utf8 "send(" ++ a ++ utf8 ")"

/-- The kind of the command that asks for an operation. -/
def kind : Operation → Kind
  | .start _ _ => .start
  | .stopAll => .stop
  | .setApi _ _ _ _ => .setApi
  | .connect => .connect
  | .stat => .stat
  | .log => .log
  | .compress => .compress
  | .standalone => .standalone
  | .send _ _ _ _ _ => .send

end Operation

/-- The script with the given operations, each with the filler in front of it, and
with filler behind the last. -/
def spell : List (Filler × Operation) → Filler → Bytes
  | [], last => last.1
  | (filler, o) :: rest, last =>
    filler.1 ++ opening :: (o.text ++ closing :: spell rest last)

/-! ### Texts -/

namespace Operation

/-- No text of an operation closes the brackets or ends the line. -/
theorem closing_newline_not_mem_text (o : Operation) : closing ∉ o.text ∧ newline ∉ o.text := by
  cases o with
  | start n hn =>
    have h62 := Bytes.not_mem_ofNat (b := closing) (by decide) n
    have h10 := Bytes.not_mem_ofNat (b := newline) (by decide) n
    simp only [text, List.mem_append, not_or]
    exact ⟨⟨⟨by decide, h62⟩, by decide⟩, ⟨by decide, h10⟩, by decide⟩
  | setApi v hquote hclosing hline =>
    simp only [text, List.mem_append, not_or]
    exact ⟨⟨⟨by decide, hclosing⟩, by decide⟩, ⟨by decide, hline⟩, by decide⟩
  | send a hparen hclosing hline hword =>
    simp only [text, List.mem_append, not_or]
    exact ⟨⟨⟨by decide, hclosing⟩, by decide⟩, ⟨by decide, hline⟩, by decide⟩
  | _ => exact ⟨by decide, by decide⟩

/-- Texts of operations begin and end with solid bytes. -/
theorem trim_text (o : Operation) : trim o.text = o.text := by
  have hends : ∃ b e, o.text.head? = some b ∧ o.text.getLast? = some e ∧ isSolid b ∧ isSolid e := by
    cases o with
    | start n hn =>
      refine ⟨83, closingParenthesis, rfl, ?_, by decide, by decide⟩
      rw [text, List.getLast?_append]
      rfl
    | setApi v hquote hclosing hline =>
      refine ⟨78, doubleQuote, rfl, ?_, by decide, by decide⟩
      rw [text, List.getLast?_append]
      rfl
    | send a hparen hclosing hline hword =>
      refine ⟨115, closingParenthesis, rfl, ?_, by decide, by decide⟩
      rw [text, List.getLast?_append]
      rfl
    | _ => exact ⟨_, _, rfl, rfl, by decide, by decide⟩
  obtain ⟨b, e, hhead, hlast, hb, he⟩ := hends
  exact trim_eq_self hhead hlast hb he

/-- The argument of a `send` does not make its text one that sets the API. -/
theorem containsWord_send {a : Bytes} (ha : ¬ utf8 "NodeAPI" <:+: a) :
    Bytes.containsWord (utf8 "NodeAPI") (utf8 "send(" ++ a ++ utf8 ")") = false := by
  -- The word has no parentheses, so it would have to stand inside `send` or inside `a`.
  have hsend : utf8 "send(" = utf8 "send" ++ [openingParenthesis] := rfl
  have hend : utf8 ")" = [closingParenthesis] := rfl
  have hsplit : utf8 "send(" ++ a ++ utf8 ")" =
      utf8 "send" ++ openingParenthesis :: (a ++ closingParenthesis :: []) := by
    simp [hsend, hend]
  have hword : Bytes.containsWord (utf8 "NodeAPI") a = false := by
    rw [Bool.eq_false_iff]
    exact fun h => ha (Bytes.containsWord_iff.mp h)
  rw [hsplit, Bytes.containsWord_append_cons (by decide), Bytes.containsWord_append_cons (by decide),
    hword]
  decide

/-- Texts of operations are classified as they are meant. -/
theorem classify_text (o : Operation) : classify o.text = o.kind := by
  have htrim := o.trim_text
  cases o with
  | start n hn => exact classify_eq htrim [] rfl (List.forall_mem_nil _) rfl
  | setApi v hquote hclosing hline =>
    refine classify_eq htrim (rules.take 2) rfl ?_ rfl
    simp only [rules, List.take_succ_cons, List.take_zero, List.forall_mem_cons]
    exact ⟨rfl, rfl, List.forall_mem_nil _⟩
  | send a hparen hclosing hline hword =>
    refine classify_eq htrim (rules.take 9) rfl ?_ rfl
    simp only [rules, List.take_succ_cons, List.take_zero, List.forall_mem_cons]
    exact ⟨rfl, rfl, containsWord_send hword, rfl, rfl, rfl, rfl, rfl, rfl, List.forall_mem_nil _⟩
  | _ =>
    unfold classify classifyBy
    rw [htrim]
    rfl

/-! ### Arguments -/

theorem find?_start (n : Nat) (hn : n < 2 ^ 63) :
    Pattern.nodeId.find? (text (.start n hn)) = some (Bytes.ofNat n) := by
  -- In `Start(` there is no `n` at which the pattern could begin too early.
  have hskip : text (.start n hn) = utf8 "Start(" ++ (utf8 "node[" ++ Bytes.ofNat n ++ utf8 "])") :=
    rfl
  have hlength : 1 ≤ (Bytes.ofNat n).length := List.length_pos_iff.mpr (Bytes.ofNat_ne_nil n)
  rw [hskip, Pattern.find?_append_of_not_mem (a := 110) rfl (by decide)]
  apply Pattern.find?_of_matchHere?
  exact Pattern.matchHere?_eq_some rfl (fun _ => Bytes.isDigit_of_mem_ofNat) rfl hlength

theorem find?_setApi (v : Bytes) (hquote : doubleQuote ∉ v) (hclosing : closing ∉ v)
    (hline : newline ∉ v) :
    Pattern.nodeApi.find? (text (.setApi v hquote hclosing hline)) = some v := by
  apply Pattern.find?_of_matchHere?
  exact Pattern.matchHere?_eq_some rfl (fun _ => Pattern.inner_upTo hquote hline) rfl (Nat.zero_le _)

theorem find?_send (a : Bytes) (hparen : closingParenthesis ∉ a) (hclosing : closing ∉ a)
    (hline : newline ∉ a) (hword : ¬ utf8 "NodeAPI" <:+: a) :
    Pattern.sendArgument.find? (text (.send a hparen hclosing hline hword)) = some a := by
  apply Pattern.find?_of_matchHere?
  exact Pattern.matchHere?_eq_some rfl (fun _ => Pattern.inner_upTo hparen hline) rfl (Nat.zero_le _)

end Operation

/-! ### Scripts -/

/-- Behind any text, a script has the brackets that it spells. -/
theorem texts_brackets_spell (clauses : List (Filler × Operation)) (last : Filler) (x : Bytes) :
    (brackets x (spell clauses last)).map Bracket.text = clauses.map (·.2.text) := by
  induction clauses generalizing x with
  | nil =>
    have h := brackets_append_of_not_mem last.2 x []
    rw [List.append_nil, brackets_nil] at h
    rw [spell, h]
    rfl
  | cons clause clauses ih =>
    obtain ⟨filler, o⟩ := clause
    obtain ⟨hclosing, hline⟩ := o.closing_newline_not_mem_text
    rw [spell, brackets_append_of_not_mem filler.2, brackets_opening hclosing hline, List.map_cons,
      ih, List.map_cons]

/-- A script is read as the operations that it spells. -/
theorem readScript_spell (label : Bytes) (clauses : List (Filler × Operation)) (last : Filler) :
    (readScript label (spell clauses last)).map (fun c => (c.kind, c.text)) =
      clauses.map fun clause => (clause.2.kind, clause.2.text) := by
  have htexts := texts_brackets_spell clauses last []
  have hread : (readScript label (spell clauses last)).map (fun c => (c.kind, c.text)) =
      ((brackets [] (spell clauses last)).map Bracket.text).map fun t => (classify t, t) := by
    show (((({ label } : Scanner).feed _).drain).1.map Span.command).map _ = _
    rw [drain_feed_new, List.map_map, List.map_map, List.map_map]
    rfl
  rw [hread, htexts, List.map_map]
  exact List.map_congr_left fun clause _ => congrArg (·, clause.2.text) clause.2.classify_text

end NodeScript
