/-
  White space around commands.

  The kind of a command is that of its trimmed text, while its action sees the text as it
  was written. The two never disagree about white space at the ends: padding changes neither
  the kind (`classify_padded`) nor anything that an action does (`Action.padded`), because
  what actions look for begins and ends with solid bytes and cannot reach into the padding.
-/
import NodeScript.Proofs.Interpreter.Failures
import NodeScript.Proofs.Script.Captures
import NodeScript.Proofs.Text.Padding

namespace NodeScript

variable (w w' : Padding) (t : Bytes)

theorem classify_padded : classify (w.bytes ++ t ++ w'.bytes) = classify t := by
  unfold classify classifyBy
  rw [trim_padded]

namespace Pattern

/-- An argument between solid bytes is found as if the padding were not there. -/
theorem find?_padded {p : Pattern} {a : UInt8} {word : Bytes} {ws : List Bytes}
    (hp : p.Definite) (hwords : p.words = (a :: word) :: ws) (ha : isSolid a = true)
    (hclose : isSolid p.close = true) :
    p.find? (w.bytes ++ t ++ w'.bytes) = p.find? t := by
  rw [find?_append_of_close_not_mem hp (w'.not_mem_bytes hclose),
    find?_append_of_not_mem hwords (w.not_mem_bytes ha)]

end Pattern

namespace Action

variable {σ : Type} [Host σ]

/-- No action sees the padding around a text. -/
theorem padded {kind : Kind} {action : Action σ} (haction : ofKind? kind = some action)
    (i : Interpreter σ) : action i (w.bytes ++ t ++ w'.bytes) = action i t := by
  cases kind <;> cases haction
  case start =>
    have hfind := Pattern.find?_padded w w' t Pattern.definite_nodeId rfl rfl rfl
    unfold start
    rw [hfind]
  case stop =>
    have hword := containsWord_padded (utf8 "node [*]") rfl rfl rfl rfl w w' t
    unfold stop
    rw [hword]
  case setApi =>
    have hfind := Pattern.find?_padded w w' t Pattern.definite_nodeApi rfl rfl rfl
    unfold setApi
    rw [hfind]
  case connect => rfl
  case stat =>
    have hword := containsWord_padded (utf8 "Node[*]") rfl rfl rfl rfl w w' t
    unfold stat
    rw [hword]
  case log => rfl
  case exportOutput =>
    have hfind := Pattern.find?_padded w w' t Pattern.definite_exportPath rfl rfl rfl
    unfold exportOutput
    rw [hfind]
  case compress => rfl
  case standalone => rfl
  case send =>
    have hfind := Pattern.find?_padded w w' t Pattern.definite_sendArgument rfl rfl rfl
    unfold send
    rw [hfind]

theorem trimmed {kind : Kind} {action : Action σ} (haction : ofKind? kind = some action)
    (i : Interpreter σ) : action i (trim t) = action i t := by
  obtain ⟨w, w', ht⟩ := exists_padded_trim t
  have hpadded := padded w w' (trim t) haction i
  rw [← ht] at hpadded
  exact hpadded.symm

end Action

namespace Interpreter

/-! ### Evaluation -/

variable {σ φ : Type} [FileHost σ φ]

/-- Commands whose actions fail alike are at fault with the same failed write. -/
theorem map_failure_fault? (c c' : Command) (failure : Option Failure) :
    (failure.bind (fault? c)).map Fault.failure = (failure.bind (fault? c')).map Fault.failure := by
  obtain _ | _ | failure := failure
  · rfl
  · rfl
  · rfl

/-- A command and the command with the trimmed text differ in nothing but what is
reported. -/
theorem alike_evaluate_trim (i : Interpreter σ) (c : Command) :
    let trimmed : Command := { c with text := trim c.text }
    i.ending trimmed = i.ending c ∧ Alike (i.evaluate trimmed).1 (i.evaluate c).1 ∧
      (i.evaluate trimmed).2.map Fault.failure = (i.evaluate c).2.map Fault.failure := by
  intro trimmed
  cases haction : Action.ofKind? (σ := σ) c.kind with
  | none =>
    have htrimmed : Action.ofKind? (σ := σ) trimmed.kind = none := haction
    rw [evaluate_of_none haction, evaluate_of_none htrimmed, ending, ending, haction]
    exact ⟨rfl, (Alike.report ..).trans (Alike.report ..).symm, rfl⟩
  | some action =>
    have htrimmed : Action.ofKind? trimmed.kind = some action := haction
    have hannounce : Alike (i.announce trimmed) (i.announce c) :=
      (Alike.report ..).trans (Alike.report ..).symm
    obtain ⟨halike, hfailure⟩ := hannounce.action haction
    have htext : action (i.announce trimmed) trimmed.text = action (i.announce trimmed) c.text :=
      Action.trimmed c.text haction _
    rw [evaluate_of_some haction, evaluate_of_some htrimmed, ending_of_some haction,
      ending_of_some htrimmed, fault_conclude, fault_conclude, htext, hfailure]
    refine ⟨rfl, ?_, map_failure_fault? ..⟩
    exact (Alike.conclude ..).trans (halike.trans (Alike.conclude ..).symm)

end Interpreter

/-- **White space around a text does not matter.** With white space characters in front of it
and behind it, a text has the same kind, and every action does the same with it, in any
surroundings. So a command with the trimmed text ends in the same way as the command itself,
with the same simulation and files, and is at fault with the same failed write. -/
theorem padding_does_not_matter (w w' : Padding) (t : Bytes) :
    classify (w.bytes ++ t ++ w'.bytes) = classify t ∧
    (∀ (σ : Type) [Host σ] (kind : Kind) (i : Interpreter σ),
      (Action.ofKind? kind).map (· i (w.bytes ++ t ++ w'.bytes)) =
        (Action.ofKind? kind).map (· i t)) ∧
    classify (trim t) = classify t ∧
    ∀ (σ φ : Type) [FileHost σ φ] (i : Interpreter σ) (kind : Kind) (place : Location),
      let c : Command := ⟨kind, t, place⟩
      let trimmed : Command := ⟨kind, trim t, place⟩
      i.ending trimmed = i.ending c ∧
      (i.evaluate trimmed).1.simulation = (i.evaluate c).1.simulation ∧
      FileHost.files (i.evaluate trimmed).1.host = FileHost.files (i.evaluate c).1.host ∧
      (i.evaluate trimmed).2.map Fault.failure = (i.evaluate c).2.map Fault.failure := by
  refine ⟨classify_padded w w' t, fun σ _ kind i => ?_, ?_, fun σ φ _ i kind place => ?_⟩
  · cases haction : Action.ofKind? (σ := σ) kind with
    | none => rfl
    | some action => exact congrArg some (Action.padded w w' t haction i)
  · unfold classify classifyBy
    rw [trim_trim]
  · intro c trimmed
    obtain ⟨hending, halike, hfailure⟩ := i.alike_evaluate_trim c
    exact ⟨hending, halike.simulation, halike.files, hfailure⟩

end NodeScript
