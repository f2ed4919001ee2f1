/-
  What the table of nodes knows after each operation.

  `get?` is the view of a table through which it is reasoned about: starting a
  node changes what is known of that node alone (`get?_start`), stopping changes
  the status of every known node and makes none known (`get?_stopAll`), and the
  entries are exactly the nodes that the view shows (`get?_eq_some_iff`). A table is
  then no more than two sets of numbers, the running nodes and the stopped ones, and
  its records are those of both sets in ascending order (`records_eq_sort`).
-/
import Mathlib.Data.Finset.Sort
import Mathlib.Data.Int.ConditionallyCompleteOrder
import Mathlib.Order.ConditionallyCompleteLattice.Finset
import NodeScript.Simulation.State

namespace NodeScript

namespace NodeTable

/-- Nothing is known of any node in an empty table. -/
@[simp]
theorem get?_empty (n : Int) : empty.get? n = none := rfl

/-- An inserted entry is found under its number, and the entries of all other
numbers are found as before. -/
theorem find?_insertEntry (id n : Int) (s : Status) (es : List (Int × Status)) :
    (insertEntry id s es).find? (·.1 == n) =
      if n = id then some (id, s) else es.find? (·.1 == n) := by
  induction es with
  | nil =>
    rw [insertEntry]
    by_cases h : n = id
    · rw [if_pos h, List.find?_cons_of_pos (by simpa using h.symm)]
    · rw [if_neg h, List.find?_cons_of_neg (by simpa using Ne.symm h)]
  | cons e es ih =>
    rw [insertEntry]
    by_cases h : n = id
    · subst h
      rw [if_pos rfl] at ih ⊢
      split_ifs with hlt heq
      · simp
      · simp
      · rw [List.find?_cons_of_neg (by simpa using Ne.symm heq), ih]
    · rw [if_neg h] at ih ⊢
      split_ifs with hlt heq
      · rw [List.find?_cons_of_neg (by simpa using Ne.symm h)]
      · rw [List.find?_cons_of_neg (by simpa using Ne.symm h),
          List.find?_cons_of_neg (by simpa [← heq] using Ne.symm h)]
      · rw [List.find?_cons, List.find?_cons, ih]

/-- A started node is running; of the other nodes the same is known as before. -/
theorem get?_start (t : NodeTable) (id n : Int) :
    (t.start id).get? n = if n = id then some .started else t.get? n := by
  unfold get? start
  rw [find?_insertEntry]
  split_ifs <;> rfl

/-- Stopping all nodes stops those that are known. -/
theorem get?_stopAll (t : NodeTable) (n : Int) :
    t.stopAll.get? n = (t.get? n).map fun _ => .stopped := by
  unfold get? stopAll
  rw [List.find?_map, Option.map_map, Option.map_map]
  rfl

/-- No number has two entries, so what is known of a node is what its entry
says. -/
theorem get?_eq_some_iff (t : NodeTable) (n : Int) (s : Status) :
    t.get? n = some s ↔ (n, s) ∈ t.entries := by
  obtain ⟨es, h⟩ := t
  unfold get?
  induction es with
  | nil => simp
  | cons e es ih =>
    obtain ⟨hlt, hes⟩ := List.pairwise_cons.mp h
    specialize ih hes
    by_cases hn : e.1 = n
    · rw [List.find?_cons_of_pos (by simpa using hn), List.mem_cons]
      constructor
      · intro he
        left
        rw [← hn, ← Option.some.inj he]
      · rintro (rfl | hmem)
        · rfl
        -- An entry further down has a greater number.
        · exact absurd (hlt _ hmem) (by simp [hn])
    · rw [List.find?_cons_of_neg (by simpa using hn), ih, List.mem_cons, or_iff_right]
      rintro rfl
      exact hn rfl

/-! ### Nodes by status -/

/-- The known nodes with the given status. -/
def withStatus (t : NodeTable) (s : Status) : Finset Int :=
  ((t.entries.filter (·.2 = s)).map (·.1)).toFinset

@[simp]
theorem mem_withStatus {t : NodeTable} {s : Status} {n : Int} :
    n ∈ t.withStatus s ↔ t.get? n = some s := by
  simp [withStatus, get?_eq_some_iff]

theorem withStatus_start_started (t : NodeTable) (id : Int) :
    (t.start id).withStatus .started = insert id (t.withStatus .started) := by
  ext n
  rw [mem_withStatus, get?_start, Finset.mem_insert, mem_withStatus]
  by_cases hn : n = id
  · simp [hn]
  · simp [hn]

theorem withStatus_start_stopped (t : NodeTable) (id : Int) :
    (t.start id).withStatus .stopped = (t.withStatus .stopped).erase id := by
  ext n
  rw [mem_withStatus, get?_start, Finset.mem_erase, mem_withStatus]
  by_cases hn : n = id
  · simp [hn]
  · simp [hn]

theorem withStatus_stopAll_started (t : NodeTable) : t.stopAll.withStatus .started = ∅ := by
  ext n
  rw [mem_withStatus, get?_stopAll]
  simp

theorem withStatus_stopAll_stopped (t : NodeTable) :
    t.stopAll.withStatus .stopped = t.withStatus .started ∪ t.withStatus .stopped := by
  ext n
  rw [mem_withStatus, get?_stopAll, Finset.mem_union, mem_withStatus, mem_withStatus]
  cases t.get? n with
  | none => simp
  | some s => cases s <;> simp

/-- The numbers of the entries are the known nodes in ascending order. -/
theorem map_fst_entries (t : NodeTable) :
    t.entries.map (·.1) = (t.withStatus .started ∪ t.withStatus .stopped).sort := by
  refine List.SortedLT.eq_of_mem_iff ?_ (Finset.sortedLT_sort _) fun n => ?_
  · exact (List.pairwise_map.mpr t.ascending).sortedLT
  · rw [Finset.mem_sort, Finset.mem_union, mem_withStatus, mem_withStatus, get?_eq_some_iff,
      get?_eq_some_iff, List.mem_map]
    constructor
    · rintro ⟨⟨m, s⟩, he, rfl⟩
      cases s with
      | started => exact .inl he
      | stopped => exact .inr he
    · rintro (he | he)
      · exact ⟨_, he, rfl⟩
      · exact ⟨_, he, rfl⟩

/-- There is one record for each node, running or stopped, in ascending order. -/
theorem records_eq_sort (t : NodeTable) :
    t.records = (t.withStatus .started ∪ t.withStatus .stopped).sort.map fun n =>
      utf8 "Node " ++ Bytes.ofInt n ++ utf8 ": " ++
        (if n ∈ t.withStatus .started then Status.started else .stopped).record := by
  rw [← map_fst_entries, List.map_map, records]
  refine List.map_congr_left fun e he => ?_
  obtain ⟨n, s⟩ := e
  have hget : t.get? n = some s := (t.get?_eq_some_iff n s).mpr he
  cases s with
  | started => simp [hget]
  | stopped => simp [hget]

end NodeTable

end NodeScript
