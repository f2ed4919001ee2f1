/-
  Commands that fail do nothing.

  A command can end in four ways: it is ignored, it is malformed, a file cannot be
  written, or it succeeds (`Ending`). On a bench a refused write leaves the files as they
  are, so only a success leaves a trace other than in the journal
  (`alike_evaluate_of_ne_success`). A run is then alike to the run of its successes
  alone, since leaving out a failure leaves the rest of the run alike
  (`Alike.evaluateAll_successes`).
-/
import NodeScript.Proofs.Files.Writing
import NodeScript.Proofs.Interpreter.Chronicle
import NodeScript.Proofs.Interpreter.Reports

namespace NodeScript

/-- The numbers that stand for a kind with an action are those from 1 to 10. -/
theorem Kind.ofNumber_eq_unrecognized_iff (number : Int) :
    ofNumber number = .unrecognized ↔ number < 1 ∨ 10 < number := by
  cases number with
  | negSucc n => simp [ofNumber]; omega
  | ofNat n =>
    by_cases hn : n < 11
    · have hfew : ∀ m : Fin 11, all[m.val]?.getD .unrecognized = .unrecognized ↔ m.val = 0 := by
        decide
      have hzero : (n : Int) < 1 ∨ 10 < (n : Int) ↔ n = 0 := by omega
      exact (hfew ⟨n, hn⟩).trans hzero.symm
    · have hnone : all[n]? = none := List.getElem?_eq_none (by simp [all]; omega)
      simp [ofNumber, hnone]
      omega

/-- How the evaluation of a command can end. -/
inductive Ending where
  /-- No action belongs to its kind. -/
  | ignored
  /-- It lacks what its kind needs. -/
  | malformed
  /-- It needs a file that could not be written. -/
  | refused (failure : WriteFailure)
  | success
  deriving DecidableEq

/-- The ending of an action that failed for the given reason, if it did. -/
def Ending.ofFailure : Option Failure → Ending
  | none => .success
  | some .malformed => .malformed
  | some (.write failure) => .refused failure

namespace Interpreter

section Host

variable {σ : Type} [Host σ]

/-- How the evaluation of a command ends. -/
def ending (i : Interpreter σ) (c : Command) : Ending :=
  match Action.ofKind? c.kind with
  | none => .ignored
  | some action => .ofFailure (action (i.announce c) c.text).2

theorem ending_of_some {c : Command} {action : Action σ} (h : Action.ofKind? c.kind = some action)
    (i : Interpreter σ) : i.ending c = .ofFailure (action (i.announce c) c.text).2 := by
  rw [ending, h]

theorem ending_eq_success_iff (i : Interpreter σ) (c : Command) :
    i.ending c = .success ↔ i.succeeds c = true := by
  unfold ending succeeds
  cases Action.ofKind? (σ := σ) c.kind with
  | none => simp
  | some action =>
    show Ending.ofFailure (action (i.announce c) c.text).2 = .success ↔
      (action (i.announce c) c.text).2.isNone = true
    obtain _ | _ | failure := (action (i.announce c) c.text).2
    · simp [Ending.ofFailure]
    · simp [Ending.ofFailure]
    · simp [Ending.ofFailure]

theorem ending_eq_ignored_iff (i : Interpreter σ) (c : Command) :
    i.ending c = .ignored ↔ c.kind = .unrecognized := by
  have hfailure : ∀ failure, Ending.ofFailure failure ≠ .ignored := by
    rintro (_ | _ | failure)
    · exact Ending.noConfusion
    · exact Ending.noConfusion
    · exact Ending.noConfusion
  cases haction : Action.ofKind? (σ := σ) c.kind with
  | none => cases hc : c.kind <;> simp [ending, hc, Action.ofKind?] at haction ⊢
  | some action =>
    have hkind : c.kind ≠ .unrecognized := fun hc => by rw [hc] at haction; cases haction
    rw [ending_of_some haction]
    simp [hfailure, hkind]

/-- Only a refused write is a fault, and it is the fault of the command itself. -/
theorem fault_evaluate (i : Interpreter σ) (c : Command) :
    (i.evaluate c).2 =
      match i.ending c with
      | .refused failure => some ⟨c, failure⟩
      | _ => none := by
  cases haction : Action.ofKind? (σ := σ) c.kind with
  | none =>
    rw [evaluate_of_none haction, ending, haction]
  | some action =>
    rw [evaluate_of_some haction, ending_of_some haction]
    obtain ⟨j, _ | _ | failure⟩ := action (i.announce c) c.text
    · rfl
    · rfl
    · rfl

end Host

/-! ### Refused writes -/

/-- Writing on a bench succeeds or leaves the files as they are. -/
theorem store_bench (m : Memory) (name content : Bytes) :
    FileHost.store Bench m name content =
      match m.refusal? name with
      | none => (m.put (.file content) (Memory.place name), none)
      | some why => (m, some why) := by
  simp only [FileHost.store]
  rw [Memory.write_eq]
  cases m.refusal? name with
  | none => rfl
  | some why => rfl

/-- The interpreter after a file came into being, or another content. -/
def withFile (i : Interpreter Bench) (name content : Bytes) : Interpreter Bench :=
  { i with host := { i.host with files := i.host.files.put (.file content) (Memory.place name) } }

theorem write_bench (i : Interpreter Bench) (name content : Bytes) :
    i.write name content =
      match i.host.files.refusal? name with
      | none => (i.withFile name content, none)
      | some why => (i, some ⟨name, why⟩) := by
  simp only [write, Host.write, Bench.write, Memory.write_eq]
  cases i.host.files.refusal? name with
  | none => rfl
  | some why => rfl

/-- What was written on a bench can be read. -/
theorem read_of_store {m m' : Memory} {name content : Bytes}
    (h : FileHost.store Bench m name content = (m', none)) : m'.read name = .ok content := by
  rw [store_bench] at h
  cases hrefusal : m.refusal? name with
  | none =>
    rw [hrefusal] at h
    rw [← (Prod.mk.inj h).1]
    exact Memory.read_put hrefusal content
  | some why =>
    rw [hrefusal] at h
    cases h

theorem alike_write_of_refused {i : Interpreter Bench} {name content : Bytes}
    {failure : WriteFailure} (h : (i.write name content).2 = some failure) :
    Alike (i.write name content).1 i := by
  rw [write_bench] at h ⊢
  cases hrefusal : i.host.files.refusal? name with
  | none =>
    rw [hrefusal] at h
    cases h
  | some why => exact .refl i

/-- A command that does not succeed changes nothing. -/
theorem alike_evaluate_of_ne_success {i : Interpreter Bench} {c : Command}
    (h : i.ending c ≠ .success) : Alike (i.evaluate c).1 i := by
  cases haction : Action.ofKind? (σ := Bench) c.kind with
  | none =>
    rw [evaluate_of_none haction]
    exact .report ..
  | some action =>
    rw [ending_of_some haction] at h
    rw [evaluate_of_some haction]
    have hannounce : Alike (i.announce c) i := .report ..
    revert h hannounce
    generalize i.announce c = j
    intro h hannounce
    cases Action.course haction with
    | malformed _ hmalformed =>
      rw [hmalformed]
      exact (Alike.report ..).trans hannounce
    | change f _ hchange =>
      rw [hchange] at h
      exact absurd rfl h
    | write _ name line content _ hwrite =>
      rw [hwrite] at h ⊢
      rcases hw : j.write (name j.sink) (content j.simulation) with ⟨k, _ | failure⟩
      · rw [hw] at h
        exact absurd rfl h
      · have hk : Alike k j := by
          have hrefused := alike_write_of_refused (i := j) (congrArg Prod.snd hw)
          rwa [hw] at hrefused
        exact (Alike.report ..).trans (hk.trans hannounce)

/-! ### Runs -/

/-- What fails can be left out: evaluating the successes of a run alone leads to an
interpreter that is alike to the one that the whole run leads to. -/
theorem Alike.evaluateAll_successes {i j : Interpreter Bench} (h : Alike i j)
    (cs : List Command) : Alike (i.evaluateAll (j.successes cs)).1 (j.evaluateAll cs).1 := by
  induction cs generalizing i j with
  | nil => exact h
  | cons c cs ih =>
    rw [successes]
    by_cases hc : j.succeeds c
    · rw [if_pos hc]
      exact ih (h.evaluate c).1
    · have hfails : j.ending c ≠ .success := fun hs => hc ((j.ending_eq_success_iff c).mp hs)
      rw [if_neg hc, List.nil_append]
      exact ih (h.trans (alike_evaluate_of_ne_success hfails).symm)

end Interpreter

/-- **Commands that do not succeed change nothing.** Whatever number its kind has and
whatever its text is, a command that is ignored, is malformed or cannot write its file
leaves the simulation and the files as they are. There is an error only if a file
could not be written, and it names that very command. So a run can do without the
commands that fail in it. -/
theorem failures_change_nothing (i : Interpreter Bench) :
    (∀ number text place,
      let c : Command := ⟨.ofNumber number, text, place⟩
      (i.ending c = .ignored ↔ number < 1 ∨ 10 < number) ∧
      (i.ending c ≠ .success →
        (i.evaluate c).1.simulation = i.simulation ∧
          (i.evaluate c).1.host.files = i.host.files) ∧
      (i.evaluate c).2.map Fault.problem =
        match i.ending c with
        | .refused failure => some (.fault (some c) failure.problem)
        | _ => none) ∧
    ∀ cs,
      (i.evaluateAll (i.successes cs)).1.simulation = (i.evaluateAll cs).1.simulation ∧
        (i.evaluateAll (i.successes cs)).1.host.files = (i.evaluateAll cs).1.host.files := by
  refine ⟨fun number text place => ?_, fun cs => ?_⟩
  · intro c
    refine ⟨?_, fun hc => ?_, ?_⟩
    · rw [Interpreter.ending_eq_ignored_iff]
      exact Kind.ofNumber_eq_unrecognized_iff number
    · have halike := Interpreter.alike_evaluate_of_ne_success hc
      exact ⟨halike.simulation, halike.files⟩
    · rw [Interpreter.fault_evaluate]
      cases i.ending c with
      | refused failure => rfl
      | _ => rfl
  · have halike := (Interpreter.Alike.refl i).evaluateAll_successes cs
    exact ⟨halike.simulation, halike.files⟩

end NodeScript
