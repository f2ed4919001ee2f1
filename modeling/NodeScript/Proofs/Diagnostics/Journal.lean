/-
  Lines of a journal.

  In the JSON form an event is one line, whatever its fields hold (`json_eq_line`,
  `newline_not_mem_line`), and its message is what the line ends with (`tail_suffix_line`), so
  lines can be counted by message without taking them apart. A journal writes the lines of those
  events that it admits (`flatMap_entry`); of events at the levels `debug` and `error` these are
  all, the errors, or none (`filter_admits`).
-/
import NodeScript.Diagnostics.Journal
import NodeScript.Proofs.Text.Escapes
import NodeScript.Proofs.Text.Joining

namespace NodeScript

namespace Event

variable {time : Option Bytes} {e : Event}

/-- The line of an event in the JSON form, without its newline. -/
def line (time : Option Bytes) (e : Event) : Bytes :=
  [openingBrace] ++ Bytes.join [comma] ((e.members time).map jsonMember) ++ [closingBrace]

theorem json_eq_line (time : Option Bytes) (e : Event) :
    e.json time = e.line time ++ [newline] := by
  simp [json, line]

theorem newline_not_mem_line (time : Option Bytes) (e : Event) : newline ∉ e.line time := by
  have hmember : ∀ l ∈ (e.members time).map jsonMember, newline ∉ l := by
    intro l hl
    obtain ⟨⟨name, value⟩, -, rfl⟩ := List.mem_map.mp hl
    unfold jsonMember
    rw [List.mem_append, List.mem_append, not_or, not_or]
    exact ⟨⟨newline_not_mem_jsonString name, by decide⟩, newline_not_mem_jsonString value⟩
  have hcomma : newline ∉ ([comma] : Bytes) := by decide
  have hmembers := Bytes.not_mem_join hcomma hmember
  unfold line
  rw [List.mem_append, List.mem_append, not_or, not_or]
  exact ⟨⟨by decide, hmembers⟩, by decide⟩

/-! ### Messages -/

/-- How the line of an event with the given message ends. -/
def tail (message : Bytes) : Bytes := utf8 "\"message\":\"" ++ message ++ utf8 "\"\x7d"

theorem jsonMember_message {message : Bytes} (h : message.all isPlain) :
    jsonMember (utf8 "message", message) ++ [closingBrace] = tail message := by
  have hfront : utf8 "\"message\":\"" =
      [doubleQuote] ++ utf8 "message" ++ [doubleQuote] ++ [colon] ++ [doubleQuote] := by decide
  have hback : utf8 "\"\x7d" = [doubleQuote] ++ [closingBrace] := by decide
  unfold jsonMember tail
  dsimp only
  rw [jsonString_plain h, jsonString_plain (by decide), hfront, hback]
  simp only [List.append_assoc]

theorem tail_suffix_line (time : Option Bytes) (h : e.message ≠ [])
    (hplain : e.message.all isPlain) : tail e.message <:+ e.line time := by
  have hempty : ¬ e.message.isEmpty = true := by simpa using h
  have hmembers : ∃ before, e.members time = before ++ [(utf8 "message", e.message)] := by
    unfold members
    dsimp only
    rw [if_neg hempty]
    exact ⟨_, rfl⟩
  obtain ⟨before, hbefore⟩ := hmembers
  obtain ⟨front, hfront⟩ := Bytes.suffix_join_concat [comma] (before.map jsonMember)
    (jsonMember (utf8 "message", e.message))
  refine ⟨[openingBrace] ++ front, ?_⟩
  unfold line
  rw [hbefore, List.map_append, List.map_singleton, ← hfront, ← jsonMember_message hplain]
  simp only [List.append_assoc]

end Event

namespace Journal

/-- What a journal in the JSON form writes: a line for each event that it admits. -/
theorem flatMap_entry (threshold : Level) (time : Option Bytes) (es : List Event) :
    es.flatMap (entry { threshold, format := .json, time }) =
      Bytes.lines ((es.filter fun e => admits { threshold, format := .json, time } e.level).map
        (Event.line time)) := by
  induction es with
  | nil => rfl
  | cons e es ih =>
    rw [List.flatMap_cons, ih, List.filter_cons]
    unfold entry
    split
    · rw [List.map_cons, Bytes.lines_cons, ← Event.json_eq_line]
    · rfl

theorem admits_debug (j : Journal) : j.admits .debug = decide (j.threshold.value ≤ 0) := by
  have htrace : Level.trace.value ≤ Level.debug.value := by decide
  have hdisabled : (Level.debug != .disabled) = true := by decide
  simp only [admits, htrace, hdisabled, decide_true, Bool.and_true]
  rfl

theorem admits_error (j : Journal) : j.admits .error = decide (j.threshold.value ≤ 3) := by
  have htrace : Level.trace.value ≤ Level.error.value := by decide
  have hdisabled : (Level.error != .disabled) = true := by decide
  simp only [admits, htrace, hdisabled, decide_true, Bool.and_true]
  rfl

theorem filter_admits (j : Journal) {es : List Event}
    (h : ∀ e ∈ es, e.level = .debug ∨ e.level = .error) :
    es.filter (j.admits ·.level) =
      if j.threshold.value ≤ 0 then es
      else if j.threshold.value ≤ 3 then es.filter (·.level = .error)
      else [] := by
  split
  · next hdebug =>
    rw [List.filter_eq_self]
    intro e he
    rcases h e he with hlevel | hlevel
    · rw [hlevel, admits_debug, decide_eq_true_eq]
      exact hdebug
    · rw [hlevel, admits_error, decide_eq_true_eq]
      omega
  · next hdebug =>
    split
    · next herror =>
      apply List.filter_congr
      intro e he
      rcases h e he with hlevel | hlevel
      · rw [hlevel, admits_debug, decide_eq_false hdebug]
        rfl
      · rw [hlevel, admits_error, decide_eq_true herror]
        rfl
    · next herror =>
      rw [List.filter_eq_nil_iff]
      intro e he
      rcases h e he with hlevel | hlevel
      · rw [hlevel, admits_debug, decide_eq_true_eq]
        exact hdebug
      · rw [hlevel, admits_error, decide_eq_true_eq]
        exact herror

end Journal

end NodeScript
