/-
  Two ways to export the output log.

  The caller of an interpreter can have the output log exported to a path, and a command
  can ask for it by spelling the path in quotes. Both write the same file before anything
  else is done, so both succeed or both are refused for the same reason, and they differ in
  nothing but the full stop behind the line that confirms the export.
-/
import NodeScript.Proofs.Interpreter.Failures
import NodeScript.Proofs.Text.Joining

namespace NodeScript

namespace Interpreter

variable {i : Interpreter Bench} {path : Bytes} {why : Refusal} {c : Command}

/-- What an export writes. -/
def exportedContent (i : Interpreter Bench) : Bytes :=
  List.intercalate [newline] i.simulation.output

theorem save_bench (i : Interpreter Bench) (path : Bytes) :
    i.save path =
      match i.host.files.refusal? path with
      | none => (i.withFile path i.exportedContent, none)
      | some why => (i, some ⟨path, why⟩) := by
  rw [save, Bytes.join_eq_intercalate, write_bench]
  rfl

/-! ### By the caller -/

theorem exportOutput_of_none (h : i.host.files.refusal? path = none) :
    i.exportOutput path = ((i.withFile path i.exportedContent).update
      (·.append (utf8 "Output exported to " ++ path)), none) := by
  rw [exportOutput, save_bench, h]

theorem exportOutput_of_some (h : i.host.files.refusal? path = some why) :
    (i.exportOutput path).2 = some ⟨path, why⟩ ∧ Alike (i.exportOutput path).1 i := by
  rw [exportOutput, save_bench, h]
  exact ⟨rfl, .report ..⟩

/-! ### By a command -/

theorem find?_export (hquote : doubleQuote ∉ path) (hline : newline ∉ path) :
    Pattern.exportPath.find? (utf8 "out => \"" ++ path ++ utf8 "\"") = some path := by
  apply Pattern.find?_of_matchHere?
  exact Pattern.matchHere?_eq_some rfl (fun _ => Pattern.inner_upTo hquote hline) rfl
    (Nat.zero_le _)

/-- The command saves the log where its text says, and then adds its line. -/
theorem evaluate_export (hkind : c.kind = .exportOutput)
    (hfind : Pattern.exportPath.find? c.text = some path) (i : Interpreter Bench) :
    let outcome := Action.confirm ((i.announce c).save path)
      (utf8 "Output exported to " ++ path ++ utf8 ".")
    i.ending c = .ofFailure outcome.2 ∧ i.evaluate c = conclude c outcome := by
  have haction : Action.ofKind? (σ := Bench) c.kind = some Action.exportOutput := by
    rw [hkind]
    rfl
  rw [ending_of_some haction, evaluate_of_some haction, Action.exportOutput, hfind]
  exact ⟨rfl, rfl⟩

theorem evaluate_export_of_none (hkind : c.kind = .exportOutput)
    (hfind : Pattern.exportPath.find? c.text = some path)
    (h : i.host.files.refusal? path = none) :
    i.ending c = .success ∧
      i.evaluate c = (((i.announce c).withFile path i.exportedContent).update
        (·.append (utf8 "Output exported to " ++ path ++ utf8 ".")), none) := by
  have hannounce : (i.announce c).host.files.refusal? path = none := h
  obtain ⟨hending, hevaluate⟩ := evaluate_export hkind hfind i
  rw [hending, hevaluate, save_bench, hannounce]
  exact ⟨rfl, rfl⟩

theorem evaluate_export_of_some (hkind : c.kind = .exportOutput)
    (hfind : Pattern.exportPath.find? c.text = some path)
    (h : i.host.files.refusal? path = some why) :
    i.ending c = .refused ⟨path, why⟩ ∧ (i.evaluate c).2 = some ⟨c, path, why⟩ ∧
      Alike (i.evaluate c).1 i := by
  have hannounce : (i.announce c).host.files.refusal? path = some why := h
  have hending : i.ending c = .refused ⟨path, why⟩ := by
    rw [(evaluate_export hkind hfind i).1, save_bench, hannounce]
    rfl
  refine ⟨hending, ?_, ?_⟩
  · rw [fault_evaluate, hending]
  -- A refused write leaves no trace, so the whole command does not.
  · apply alike_evaluate_of_ne_success
    rw [hending]
    exact Ending.noConfusion

end Interpreter

/-- **Both ways to export agree.** Take any path without quotes and newlines. The caller's
export to it succeeds exactly if it is not denied and leads to a place, inside of the root,
where no directory stands, and the command that spells the path succeeds exactly then. On
success both leave the same files: under every name that leads to the same place, the lines of
the log before the export are read, with newlines between them; nothing else has changed, but
that missing directories on the way have come into being. Both add the same line to the log,
but for the full stop of the command. On failure both change nothing, and the fault of the
command has the caller's error in it. -/
theorem exports_agree {path : Bytes} (hquote : doubleQuote ∉ path) (hline : newline ∉ path)
    (i : Interpreter Bench) (place : Location) :
    let c : Command := ⟨.exportOutput, utf8 "out => \"" ++ path ++ utf8 "\"", place⟩
    let called := i.exportOutput path
    let evaluated := i.evaluate c
    let line := utf8 "Output exported to " ++ path
    (called.2 = none ↔ i.host.files.denies path = false ∧
      ∃ p, Memory.resolve? path = some p ∧ i.host.files.get? p ≠ some .directory) ∧
    (i.ending c = .success ↔ called.2 = none) ∧
    (called.2 = none →
      evaluated.2 = none ∧
      evaluated.1.host.files = called.1.host.files ∧
      (∀ name, Memory.resolve? name = Memory.resolve? path →
        called.1.host.files.read name =
          .ok (List.intercalate [newline] i.simulation.output)) ∧
      Memory.Confined (Memory.place path) i.host.files called.1.host.files ∧
      called.1.simulation = i.simulation.append line ∧
      evaluated.1.simulation = i.simulation.append (line ++ utf8 ".")) ∧
    ∀ failure, called.2 = some failure →
      evaluated.2.map Fault.problem = some (.fault (some c) failure.problem) ∧
      called.1.simulation = i.simulation ∧ called.1.host.files = i.host.files ∧
      evaluated.1.simulation = i.simulation ∧ evaluated.1.host.files = i.host.files := by
  intro c called evaluated line
  have hfind : Pattern.exportPath.find? c.text = some path :=
    Interpreter.find?_export hquote hline
  rw [← Memory.refusal?_eq_none_iff]
  cases hrefusal : i.host.files.refusal? path with
  | none =>
    have hcalled : called = _ := Interpreter.exportOutput_of_none hrefusal
    obtain ⟨hending, hevaluated⟩ := Interpreter.evaluate_export_of_none rfl hfind hrefusal
    have hevaluated : evaluated = _ := hevaluated
    rw [hcalled, hevaluated, hending]
    refine ⟨by simp, by simp, fun _ => ⟨rfl, rfl, fun name hname => ?_, .put .., rfl, rfl⟩, nofun⟩
    exact Memory.read_put_of_resolve? hrefusal hname _
  | some why =>
    obtain ⟨hcalled, hcalledAlike⟩ := Interpreter.exportOutput_of_some hrefusal
    obtain ⟨hending, hfault, hevaluatedAlike⟩ :=
      Interpreter.evaluate_export_of_some rfl hfind hrefusal
    have hcalled : called.2 = _ := hcalled
    have hfault : evaluated.2 = _ := hfault
    rw [hcalled, hfault, hending]
    refine ⟨by simp, by simp, nofun, fun failure hfailure => ?_⟩
    obtain rfl := Option.some.inj hfailure
    exact ⟨rfl, hcalledAlike.simulation, hcalledAlike.files, hevaluatedAlike.simulation,
      hevaluatedAlike.files⟩

/-- A path that goes down and up again, read under a shorter one, and a path that climbs out. -/
theorem exports_agree_on_spellings :
    let i : Interpreter Bench :=
      ⟨{}, utf8 "log.txt", { id := [], output := [utf8 "one", utf8 "two"] }⟩
    let path := utf8 "sub/../a//./b.txt"
    let outside := utf8 "../b.txt"
    doubleQuote ∉ path ∧ newline ∉ path ∧ doubleQuote ∉ outside ∧ newline ∉ outside ∧
      (i.exportOutput path).2 = none ∧
      Memory.resolve? (utf8 "/a/b.txt") = Memory.resolve? path ∧
      (i.exportOutput path).1.host.files.read (utf8 "/a/b.txt") = .ok (utf8 "one\ntwo") ∧
      (i.exportOutput outside).2 = some ⟨outside, .outside⟩ ∧
      (i.exportOutput outside).1.simulation = i.simulation := by
  intro i path outside
  have hquote : doubleQuote ∉ path := by decide
  have hline : newline ∉ path := by decide
  have hquote' : doubleQuote ∉ outside := by decide
  have hline' : newline ∉ outside := by decide
  have hsuccess : (i.exportOutput path).2 = none := by rfl
  have hresolve : Memory.resolve? (utf8 "/a/b.txt") = Memory.resolve? path := by decide
  have hfailure : (i.exportOutput outside).2 = some ⟨outside, .outside⟩ := by rfl
  obtain ⟨-, -, hexported, -⟩ := exports_agree hquote hline i ⟨[], 1, 1⟩
  obtain ⟨-, -, -, hrefused⟩ := exports_agree hquote' hline' i ⟨[], 1, 1⟩
  obtain ⟨-, -, hread, -⟩ := hexported hsuccess
  refine ⟨hquote, hline, hquote', hline', hsuccess, hresolve, ?_, hfailure, ?_⟩
  · exact hread _ hresolve
  · exact (hrefused _ hfailure).2.1

end NodeScript
