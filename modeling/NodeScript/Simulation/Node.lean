/-
  Nodes of the simulation and the table of those that are known.

  A node is known once it has been started and stays known. The table lists the
  known nodes in strictly ascending order of their numbers, so that equal tables
  hold the same nodes with the same statuses and no order of starting shows.
-/
import NodeScript.Text.Bytes

namespace NodeScript

/-- Whether a node is running. -/
inductive Status where
  | started
  | stopped
  deriving DecidableEq

namespace Status

/-- The status with the given number; only one is stopped. -/
def ofNumber (n : Int) : Status := if n = 1 then .stopped else .started

/-- The word for a status. -/
def name : Status → Bytes
  | .started => utf8 "started"
  | .stopped => utf8 "stopped"

/-- The record of a node with this status. -/
def record (s : Status) : Bytes := utf8 "\x7bstatus: " ++ s.name ++ utf8 "\x7d"

end Status

/-! ### The table -/

/-- Entries of a table in strictly ascending order of their numbers. -/
abbrev Ascending (entries : List (Int × Status)) : Prop :=
  entries.Pairwise fun a b => a.1 < b.1

/-- The known nodes with their statuses. -/
structure NodeTable where
  entries : List (Int × Status) := []
  ascending : Ascending entries := by exact List.Pairwise.nil

namespace NodeTable

/-- The table in which no node is known. -/
def empty : NodeTable where

/-- The status of a node, if it is known. -/
def get? (t : NodeTable) (id : Int) : Option Status :=
  (t.entries.find? (·.1 == id)).map (·.2)

/-- The entries with the node put in its place; an entry of the same number is
replaced. -/
def insertEntry (id : Int) (s : Status) : List (Int × Status) → List (Int × Status)
  | [] => [(id, s)]
  | e :: es =>
    if id < e.1 then (id, s) :: e :: es
    else if id = e.1 then (id, s) :: es
    else e :: insertEntry id s es

/-- Inserting adds no entry but the new one. -/
theorem mem_insertEntry {id : Int} {s : Status} {es : List (Int × Status)} {e : Int × Status}
    (h : e ∈ insertEntry id s es) : e = (id, s) ∨ e ∈ es := by
  induction es with
  | nil => exact .inl (List.mem_singleton.mp h)
  | cons d es ih =>
    rw [insertEntry] at h
    split at h
    · exact List.mem_cons.mp h
    · split at h
      · exact (List.mem_cons.mp h).imp_right (List.mem_cons_of_mem _)
      · rcases List.mem_cons.mp h with rfl | h
        · exact .inr (List.mem_cons_self ..)
        · exact (ih h).imp_right (List.mem_cons_of_mem _)

/-- Inserting keeps the order. -/
theorem ascending_insertEntry (id : Int) (s : Status) {es : List (Int × Status)}
    (h : Ascending es) : Ascending (insertEntry id s es) := by
  induction es with
  | nil => exact List.pairwise_singleton _ _
  | cons d es ih =>
    obtain ⟨hd, hes⟩ := List.pairwise_cons.mp h
    rw [insertEntry]
    split
    -- The new number is below all others.
    · next hlt =>
      refine List.pairwise_cons.mpr ⟨fun e he => ?_, h⟩
      rcases List.mem_cons.mp he with rfl | he
      · exact hlt
      · exact Int.lt_trans hlt (hd e he)
    · split
      -- The new number replaces the first.
      · next heq => exact List.pairwise_cons.mpr ⟨fun e he => heq ▸ hd e he, hes⟩
      -- The new number goes further down.
      · refine List.pairwise_cons.mpr ⟨fun e he => ?_, ih hes⟩
        rcases mem_insertEntry he with rfl | he
        · show d.1 < id
          omega
        · exact hd e he

/-- The table after a node was started: it is known and running, whatever it was
before. -/
def start (t : NodeTable) (id : Int) : NodeTable where
  entries := insertEntry id .started t.entries
  ascending := ascending_insertEntry id .started t.ascending

/-- The table after every known node was stopped. -/
def stopAll (t : NodeTable) : NodeTable where
  entries := t.entries.map fun e => (e.1, .stopped)
  ascending := List.pairwise_map.mpr t.ascending

/-- One line for each known node, in ascending order. -/
def records (t : NodeTable) : List Bytes :=
  t.entries.map fun (id, s) => utf8 "Node " ++ Bytes.ofInt id ++ utf8 ": " ++ s.record

end NodeTable

end NodeScript
