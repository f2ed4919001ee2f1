/-
  Records of nodes.

  A table is written as one line for each known node, in ascending order. Nothing is lost
  by that: the number of a node ends at the first colon of its line, its status is what
  follows, and the lines end at their newlines. So what is written determines what is known
  of every node, and no more than that determines what is written (`lines_records_inj`). In
  particular it does not show in which order nodes were started (`foldl_start_congr`).
-/
import NodeScript.Proofs.Simulation.Nodes
import NodeScript.Proofs.Text.Joining
import NodeScript.Proofs.Text.Words

namespace NodeScript

/-! ### One line -/

namespace Status

/-- The line about a node with this status. -/
def line (s : Status) (n : Int) : Bytes :=
  utf8 "Node " ++ Bytes.ofInt n ++ utf8 ": " ++ s.record

theorem line_eq (s : Status) (n : Int) :
    s.line n =
      utf8 "Node " ++ Bytes.ofInt n ++ utf8 ": \x7bstatus: " ++ s.name ++ utf8 "\x7d" := by
  have hwords : utf8 ": \x7bstatus: " = utf8 ": " ++ utf8 "\x7bstatus: " := by decide
  rw [line, record, hwords]
  simp only [List.append_assoc]

theorem newline_not_mem_line (s : Status) (n : Int) : newline ∉ s.line n := by
  have hnumber : newline ∉ Bytes.ofInt n := Bytes.not_mem_ofInt (by decide) (by decide) n
  have hrecord : newline ∉ s.record := by
    cases s with
    | started => decide
    | stopped => decide
  rw [line]
  simp only [List.mem_append, not_or]
  exact ⟨⟨⟨by decide, hnumber⟩, by decide⟩, hrecord⟩

/-- A line tells which node it is about, and the status of that node. -/
theorem line_inj {s s' : Status} {n n' : Int} (h : s.line n = s'.line n') : n = n' ∧ s = s' := by
  -- A numeral has no colon, so the first one ends the number.
  have hcut : ∀ (s : Status) (n : Int),
      Bytes.cutAt? colon (Bytes.ofInt n ++ (utf8 ": " ++ s.record)) =
        some (Bytes.ofInt n, space :: s.record) := by
    intro s n
    exact Bytes.cutAt?_eq_some_iff.mpr ⟨rfl, Bytes.not_mem_ofInt (by decide) (by decide) n⟩
  simp only [line, List.append_assoc] at h
  have hcuts := congrArg (Bytes.cutAt? colon) (List.append_cancel_left h)
  rw [hcut, hcut, Option.some.injEq, Prod.mk.injEq] at hcuts
  refine ⟨Bytes.ofInt_injective hcuts.1, ?_⟩
  have hrecord : s.record = s'.record := (List.cons.inj hcuts.2).2
  cases s with
  | started =>
    cases s' with
    | started => rfl
    | stopped => exact absurd hrecord (by decide)
  | stopped =>
    cases s' with
    | started => exact absurd hrecord (by decide)
    | stopped => rfl

end Status

namespace NodeTable

variable {t t' : NodeTable}

/-! ### Tables by what is known -/

/-- A table is no more than what it says of each node. -/
theorem ext_get? (h : ∀ n, t.get? n = t'.get? n) : t = t' := by
  have hnodup : ∀ t : NodeTable, t.entries.Nodup := by
    intro t
    refine t.ascending.imp fun hlt heq => ?_
    rw [heq] at hlt
    exact lt_irrefl _ hlt
  have hmem : ∀ e, e ∈ t.entries ↔ e ∈ t'.entries := by
    intro e
    rw [← get?_eq_some_iff t e.1 e.2, ← get?_eq_some_iff t' e.1 e.2, h]
  have hperm := (List.perm_ext_iff_of_nodup (hnodup t) (hnodup t')).mpr hmem
  have hentries : t.entries = t'.entries := by
    refine hperm.eq_of_pairwise (fun a b _ _ hab hba => ?_) t.ascending t'.ascending
    exact absurd hba (lt_asymm hab)
  obtain ⟨entries, ascending⟩ := t
  obtain ⟨entries', ascending'⟩ := t'
  obtain rfl : entries = entries' := hentries
  rfl

theorem get?_foldl_start (t : NodeTable) (ns : List Int) (n : Int) :
    (ns.foldl start t).get? n = if n ∈ ns then some .started else t.get? n := by
  induction ns generalizing t with
  | nil => simp
  | cons m ns ih =>
    rw [List.foldl_cons, ih, get?_start]
    by_cases hns : n ∈ ns
    · simp [hns]
    · by_cases hn : n = m
      · simp [hn]
      · simp [hns, hn]

/-- Which nodes were started counts, but not in which order or how often. -/
theorem foldl_start_congr (t : NodeTable) {ns ns' : List Int} (h : ∀ n, n ∈ ns ↔ n ∈ ns') :
    ns.foldl start t = ns'.foldl start t := by
  refine ext_get? fun n => ?_
  rw [get?_foldl_start, get?_foldl_start]
  simp only [h n]

/-! ### All lines -/

theorem records_eq_map (t : NodeTable) : t.records = t.entries.map fun e => e.2.line e.1 := rfl

theorem newline_not_mem_records {l : Bytes} (h : l ∈ t.records) : newline ∉ l := by
  obtain ⟨e, -, rfl⟩ := List.mem_map.mp h
  exact Status.newline_not_mem_line e.2 e.1

theorem entries_eq_of_records (h : t.records = t'.records) : t.entries = t'.entries := by
  rw [records_eq_map, records_eq_map] at h
  refine List.map_injective_iff.mpr (fun e e' hline => ?_) h
  obtain ⟨hnumber, hstatus⟩ := Status.line_inj hline
  exact Prod.ext hnumber hstatus

/-- What is written of two tables is the same exactly if the same is known in both. -/
theorem lines_records_inj :
    Bytes.lines t.records = Bytes.lines t'.records ↔ ∀ n, t.get? n = t'.get? n := by
  constructor
  · intro h n
    have hrecords := Bytes.lines_injective (fun _ => newline_not_mem_records)
      (fun _ => newline_not_mem_records) h
    rw [get?, get?, entries_eq_of_records hrecords]
  · intro h
    rw [ext_get? h]

end NodeTable

end NodeScript
