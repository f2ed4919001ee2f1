/-
  Compressing the output log.

  A compressed log has a line for each line that it had, in the same order, and each is what
  is bare of the line between white space (`forall₂_compress`). There is nothing more to trim
  then, so compressing a log again does nothing to it (`compress_compress`). The same goes for
  the line with which a command confirms that it has compressed the log: commands one after
  another compress it once, and confirm it as often as there are commands
  (`simulation_evaluateAll_compress`).
-/
import NodeScript.Proofs.Interpreter.Growth
import NodeScript.Proofs.Text.Padding

namespace NodeScript

/-- Whether a line is another with the white space around it. -/
structure Surrounds (line m : Bytes) : Prop where
  bare : Bare m
  padded : ∃ w w' : Padding, line = w.bytes ++ m ++ w'.bytes

/-- There is one such text in each line. -/
theorem surrounds_iff {line m : Bytes} : Surrounds line m ↔ trim line = m := by
  rw [trim_eq_iff]
  constructor
  · rintro ⟨hbare, hpadded⟩
    exact ⟨hbare, hpadded⟩
  · rintro ⟨hbare, hpadded⟩
    exact ⟨hbare, hpadded⟩

/-- The line that confirms that the output log was compressed. -/
def compressedLine : Bytes := utf8 "Output data compressed."

theorem trim_compressedLine : trim compressedLine = compressedLine := by
  have hhead : compressedLine.head? = some 79 := by decide
  have hlast : compressedLine.getLast? = some period := by decide
  exact trim_eq_self hhead hlast (by decide) (by decide)

namespace Simulation

variable (s : Simulation)

/-- Each line is trimmed, and none is lost or moved. -/
theorem forall₂_compress : List.Forall₂ Surrounds s.output s.compress.output := by
  unfold compress
  rw [List.forall₂_map_right_iff, List.forall₂_same]
  intro line _
  exact surrounds_iff.mpr rfl

theorem compress_compress : s.compress.compress = s.compress := by
  have htrim : (s.output.map trim).map trim = s.output.map trim := by
    rw [List.map_map]
    exact List.map_congr_left fun l _ => trim_trim l
  unfold compress
  rw [htrim]

/-- The confirmation is as good as compressed. -/
theorem compress_append_compressedLine :
    (s.append compressedLine).compress = s.compress.append compressedLine := by
  unfold compress append
  rw [List.map_append, List.map_singleton, trim_compressedLine]

theorem appendAll_append (line : Bytes) (lines : List Bytes) :
    (s.append line).appendAll lines = s.appendAll (line :: lines) := by
  unfold append appendAll
  rw [List.append_assoc, List.singleton_append]

end Simulation

namespace Interpreter

variable {σ : Type} [Host σ] {i : Interpreter σ} {c : Command} {cs : List Command}

/-- What a command that compresses the output log does. -/
theorem evaluate_compress (hc : c.kind = .compress) (i : Interpreter σ) :
    (i.evaluate c).1.simulation = i.simulation.compress.append compressedLine ∧
      (i.evaluate c).2 = none := by
  have haction : Action.ofKind? c.kind = some (Action.compress (σ := σ)) := by
    rw [hc]
    rfl
  rw [evaluate_of_some haction]
  exact ⟨rfl, rfl⟩

/-- A log that is compressed already only gains confirmations. -/
theorem evaluateAll_compress (hcs : ∀ c ∈ cs, c.kind = .compress)
    (hi : i.simulation.compress = i.simulation) :
    (i.evaluateAll cs).1.simulation =
        i.simulation.appendAll (List.replicate cs.length compressedLine) ∧
      (i.evaluateAll cs).2 = [] := by
  induction cs generalizing i with
  | nil =>
    have hnothing : i.simulation.appendAll [] = i.simulation := by
      unfold Simulation.appendAll
      rw [List.append_nil]
    exact ⟨hnothing.symm, rfl⟩
  | cons c cs ih =>
    obtain ⟨hfirst, hnofault⟩ := evaluate_compress (hcs c (List.mem_cons_self ..)) i
    rw [hi] at hfirst
    have hstable : (i.evaluate c).1.simulation.compress = (i.evaluate c).1.simulation := by
      rw [hfirst, Simulation.compress_append_compressedLine, hi]
    obtain ⟨hrest, hnofaults⟩ := ih (fun d hd => hcs d (List.mem_cons_of_mem _ hd)) hstable
    rw [evaluateAll_cons, hrest, hnofaults, hfirst, hnofault, Simulation.appendAll_append]
    exact ⟨rfl, rfl⟩

end Interpreter

/-- **Compressing is stable.** It keeps the number and the order of the lines of the output
log, and leaves of each what is bare of it between white space; compressing again changes
nothing. So of commands that compress the log one after another only the first changes lines,
and each of the others adds one more confirmation. Nodes and API stay as they are, and no such
command is at fault. -/
theorem compression_is_stable :
    (∀ s : Simulation, List.Forall₂ Surrounds s.output s.compress.output ∧
      s.compress.compress = s.compress ∧
      s.compress.nodes = s.nodes ∧ s.compress.api = s.api) ∧
    ∀ (σ : Type) [Host σ] (i : Interpreter σ) (c : Command) (cs : List Command),
      (∀ d ∈ c :: cs, d.kind = .compress) →
      let once := (i.evaluate c).1.simulation
      let all := (i.evaluateAll (c :: cs)).1.simulation
      once.output = i.simulation.compress.output ++ [compressedLine] ∧
      all.output = once.output ++ List.replicate cs.length compressedLine ∧
      all.nodes = i.simulation.nodes ∧ all.api = i.simulation.api ∧
      (i.evaluateAll (c :: cs)).2 = [] := by
  constructor
  · intro s
    exact ⟨s.forall₂_compress, s.compress_compress, rfl, rfl⟩
  · intro σ _ i c cs hcs once all
    obtain ⟨hfirst, hnofault⟩ := i.evaluate_compress (hcs c (List.mem_cons_self ..))
    have hstable : (i.evaluate c).1.simulation.compress = (i.evaluate c).1.simulation := by
      rw [hfirst, Simulation.compress_append_compressedLine, Simulation.compress_compress]
    obtain ⟨hrest, hnofaults⟩ :=
      Interpreter.evaluateAll_compress (fun d hd => hcs d (List.mem_cons_of_mem _ hd)) hstable
    have honce : once = i.simulation.compress.append compressedLine := hfirst
    have hall : all = once.appendAll (List.replicate cs.length compressedLine) := hrest
    rw [Interpreter.evaluateAll_cons, hnofault, hnofaults, hall, honce]
    exact ⟨rfl, rfl, rfl, rfl, rfl⟩

/-- Three commands, spelled differently, on a log with a fragment of a character between
white space characters, one of them of two bytes. -/
theorem compression_is_stable_three_times :
    let i : Interpreter Bench :=
      ⟨{}, utf8 "log.txt", { id := [], output := [[32, 0xC2, 0xA0, 0xA0, 0x85, 9], utf8 "a b"] }⟩
    let command (text : String) : Command := ⟨.compress, utf8 text, ⟨[], 1, 1⟩⟩
    let cs := [command "short()", command "short", command " shortest "]
    (∀ c ∈ cs, c.kind = .compress) ∧
      (i.evaluate (command "short()")).1.simulation.output =
        [[0xA0, 0x85], utf8 "a b", compressedLine] ∧
      (i.evaluateAll cs).1.simulation.output =
        [[0xA0, 0x85], utf8 "a b", compressedLine, compressedLine, compressedLine] ∧
      (i.evaluateAll cs).2 = [] := by
  intro i command cs
  have hcs : ∀ c ∈ cs, c.kind = .compress := by decide
  obtain ⟨honce, hall, -, -, hnofaults⟩ :=
    compression_is_stable.2 Bench i (command "short()") [command "short", command " shortest "] hcs
  have hlines : i.simulation.compress.output = [[0xA0, 0x85], utf8 "a b"] := by decide +kernel
  rw [hlines] at honce
  rw [honce] at hall
  exact ⟨hcs, honce, hall, hnofaults⟩

end NodeScript
