/-
  What a session prints of the output log.

  Each exchange prints the lines that the output log has gained. Later exchanges can trim
  these lines in the log, but neither drop nor move nor repeat them: `settled` says what
  has become of the lines of all exchanges by the end of a session, and the final log is
  the first one, carried over, followed by them (`output_enterAll`).
-/
import NodeScript.Proofs.Shell.Session

namespace NodeScript

open Interpreter (carryAll)

/-- What has become of the lines that exchanges gained once all of them are over. -/
def settled : List Exchange → List Bytes
  | [] => []
  | e :: es => carryAll (es.flatMap Exchange.commands) e.gained ++ settled es

theorem length_settled (es : List Exchange) :
    (settled es).length = (es.flatMap Exchange.gained).length := by
  induction es with
  | nil => rfl
  | cons e es ih =>
    rw [settled, List.length_append, Interpreter.length_carryAll, ih, List.flatMap_cons,
      List.length_append]

theorem map_trim_settled (es : List Exchange) :
    (settled es).map trim = (es.flatMap Exchange.gained).map trim := by
  induction es with
  | nil => rfl
  | cons e es ih =>
    rw [settled, List.map_append, Interpreter.map_trim_carryAll, ih, List.flatMap_cons,
      List.map_append]

/-- Lines that nothing trims later on stay where they are as they are. -/
theorem settled_append_cons (before : List Exchange) (e : Exchange) {after : List Exchange}
    (h : ∀ later ∈ after, ∀ c ∈ later.commands, c.kind ≠ .compress) :
    ∃ front, front.length = (before.flatMap Exchange.gained).length ∧
      settled (before ++ e :: after) = front ++ (e.gained ++ settled after) := by
  induction before with
  | nil =>
    have hcommands : ∀ c ∈ after.flatMap Exchange.commands, c.kind ≠ .compress := by
      intro c hc
      obtain ⟨later, hlater, hmem⟩ := List.mem_flatMap.mp hc
      exact h later hlater c hmem
    refine ⟨[], rfl, ?_⟩
    rw [List.nil_append, settled, Interpreter.carryAll_of_ne _ hcommands, List.nil_append]
  | cons d before ih =>
    obtain ⟨front, hlength, hfront⟩ := ih
    refine ⟨carryAll ((before ++ e :: after).flatMap Exchange.commands) d.gained ++ front, ?_, ?_⟩
    · rw [List.length_append, Interpreter.length_carryAll, hlength, List.flatMap_cons,
        List.length_append]
    · rw [List.cons_append, settled, hfront, List.append_assoc]

namespace Shell

variable {σ φ : Type} [PrintHost σ φ]

theorem output_enter (s : Shell σ) (line : Bytes) :
    (s.enter line).interpreter.simulation.output =
      carryAll (s.exchange line).commands s.interpreter.simulation.output ++
        (s.exchange line).gained := by
  rw [gained_exchange, (s.alike_enter line).simulation]
  exact s.interpreter.output_evaluateAll _

theorem output_enterAll (s : Shell σ) (lines : List Bytes) :
    (s.enterAll lines).interpreter.simulation.output =
      carryAll ((s.exchanges lines).flatMap Exchange.commands) s.interpreter.simulation.output ++
        settled (s.exchanges lines) := by
  induction lines generalizing s with
  | nil => simp [exchanges, settled, enterAll]
  | cons line lines ih =>
    show ((s.enter line).enterAll lines).interpreter.simulation.output = _
    rw [ih, output_enter, exchanges, settled, List.flatMap_cons,
      Interpreter.carryAll_append_commands, Interpreter.carryAll_append, List.append_assoc]

end Shell

/-- **Nothing is lost or repeated in what a session prints.** From whatever state a line is
entered, first a line is printed for each fault, in order, and then the lines that the
output log has gained, which are all that stands behind the lines that were there. Over
all lines that are entered, as many lines of the output log are printed as it grows by;
they are the new lines of the final log but for white space at their ends, and those of an
exchange are the same bytes if no later command trims the log. -/
theorem session_prints_growth {σ φ : Type} [PrintHost σ φ] (s : Shell σ) :
    (∀ line,
      let e := s.exchange line
      let before := s.interpreter.simulation.output
      let after := (s.enter line).interpreter.simulation.output
      (s.enter line).interpreter.printed =
        s.interpreter.printed ++ Bytes.lines (e.faults.map Fault.notice) ++
          Bytes.lines e.gained ∧
      before.length ≤ after.length ∧
      after = carryAll e.commands before ++ e.gained) ∧
    ∀ lines,
      let exchanges := s.exchanges lines
      let shown := exchanges.flatMap Exchange.gained
      let final := (s.enterAll lines).interpreter.simulation.output
      let new := final.drop s.interpreter.simulation.output.length
      (s.enterAll lines).interpreter.printed =
        s.interpreter.printed ++ exchanges.flatMap Exchange.text ∧
      final.length = s.interpreter.simulation.output.length + shown.length ∧
      new.map trim = shown.map trim ∧
      ∀ before e after, exchanges = before ++ e :: after →
        (∀ later ∈ after, ∀ c ∈ later.commands, c.kind ≠ .compress) →
        (new.drop (before.flatMap Exchange.gained).length).take e.gained.length = e.gained := by
  refine ⟨fun line => ?_, fun lines => ?_⟩
  · intro e before after
    have houtput : after = carryAll e.commands before ++ e.gained := s.output_enter line
    refine ⟨?_, ?_, houtput⟩
    · rw [s.printed_enter line, Exchange.text, Bytes.lines_append, List.append_assoc]
    · rw [houtput, List.length_append, Interpreter.length_carryAll]
      omega
  · intro exchanges shown final new
    have hfinal : final = _ ++ settled exchanges := s.output_enterAll lines
    have hnew : new = settled exchanges := by
      show final.drop _ = _
      rw [hfinal, ← Interpreter.length_carryAll (exchanges.flatMap Exchange.commands),
        List.drop_left]
    refine ⟨s.printed_enterAll lines, ?_, ?_, ?_⟩
    · rw [hfinal, List.length_append, Interpreter.length_carryAll, length_settled]
    · rw [hnew, map_trim_settled]
    · intro before e after hsplit hafter
      obtain ⟨front, hlength, hfront⟩ := settled_append_cons before e hafter
      rw [hnew, hsplit, hfront, ← hlength, List.drop_left, List.take_left]

end NodeScript
