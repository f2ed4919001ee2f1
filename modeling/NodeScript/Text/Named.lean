/-
  Things by name.

  A list of pairs is looked up from the front, so that the first pair for a name
  counts. Putting a thing under a name keeps the place of what it replaces.
-/
import NodeScript.Text.Bytes

namespace NodeScript

/-- Things by name. -/
abbrev Named (α : Type) := List (Bytes × α)

namespace Named

variable {α : Type}

/-- The list with a thing under a name, in the stead of an earlier one. -/
def put (name : Bytes) (a : α) : Named α → Named α
  | [] => [(name, a)]
  | (n, b) :: l => if name == n then (n, a) :: l else (n, b) :: put name a l

/-- What was put under a name is found under it. -/
theorem lookup_put_self (name : Bytes) (a : α) (l : Named α) :
    (put name a l).lookup name = some a := by
  induction l with
  | nil => simp [put]
  | cons b l ih =>
    obtain ⟨n, b⟩ := b
    rw [put]
    split
    · next h => simp [List.lookup_cons, h]
    · next h =>
      rw [Bool.not_eq_true] at h
      simp only [List.lookup_cons, h, ih]

/-- Under other names there is what there was. -/
theorem lookup_put_of_ne {name other : Bytes} (a : α) (l : Named α) (h : other ≠ name) :
    (put name a l).lookup other = l.lookup other := by
  have hb : (other == name) = false := beq_eq_false_iff_ne.2 h
  induction l with
  | nil => simp only [put, List.lookup_cons, hb]
  | cons b l ih =>
    obtain ⟨n, b⟩ := b
    rw [put]
    split
    · next hn =>
      rw [beq_iff_eq] at hn
      subst hn
      simp only [List.lookup_cons, hb]
    · simp only [List.lookup_cons, ih]

end Named

end NodeScript
