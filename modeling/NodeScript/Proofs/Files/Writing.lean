/-
  Writing files in memory.

  Whether a file can be written does not depend on what is to be written
  (`write_eq`), and writing it does not change whether it can be written again
  (`refusal?_put`): the only thing about a memory that matters is whether a directory
  stands at the place, and a file that was written keeps it a file.

  Writing a file changes nothing but what stands at its place, except that
  directories on the way there come into being. `Confined p m m'` says this of any
  number of changes; what is read under names that lead elsewhere is then the same
  in both memories (`Confined.read_eq_ok_iff`).
-/
import NodeScript.Files.Memory

namespace NodeScript

namespace Memory

variable {m m' m'' : Memory} {p q : List Bytes}

/-! ### Refusals -/

/-- Why a file cannot be written, if it cannot. -/
def refusal? (m : Memory) (name : Bytes) : Option Refusal :=
  if m.denies name then some .denied
  else if Path.escapes name then some .outside
  else if m.get? (place name) = some .directory then some (.occupied (placeText (place name)))
  else none

theorem write_eq (m : Memory) (name content : Bytes) :
    m.write name content =
      match m.refusal? name with
      | none => .ok (m.put (.file content) (place name))
      | some why => .error why := by
  unfold write refusal?
  split
  · rfl
  split
  · rfl
  dsimp only
  split
  · rfl
  · rfl

/-- What was written once can be written again. -/
theorem refusal?_put {name : Bytes} (h : m.refusal? name = none) (content : Bytes) :
    (m.put (.file content) (place name)).refusal? name = none := by
  have hdenies : (m.put (.file content) (place name)).denies name = m.denies name := rfl
  have hfile : (m.put (.file content) (place name)).get? (place name) = some (.file content) := by
    rw [get?_put, if_pos rfl]
  unfold refusal? at h ⊢
  rw [hdenies, hfile]
  split at h
  · cases h
  split at h
  · cases h
  next hdenied hinside => rw [if_neg hdenied, if_neg hinside, if_neg (by simp)]

theorem escapes_eq_false {name : Bytes} (h : m.refusal? name = none) :
    Path.escapes name = false := by
  unfold refusal? at h
  split at h
  · cases h
  split at h
  · cases h
  next hinside => exact Bool.eq_false_iff.mpr hinside

/-- Names that are denied are refused for that reason and no others are. -/
theorem refusal?_eq_denied_iff {name : Bytes} :
    m.refusal? name = some .denied ↔ m.denies name = true := by
  unfold refusal?
  split
  · next h => simp [h]
  · next h =>
    split
    · simp [h]
    · split
      · simp [h]
      · simp [h]

/-- Reading succeeds where a file stands. -/
theorem read_eq_ok_iff {name content : Bytes} :
    m.read name = .ok content ↔
      Path.escapes name = false ∧ m.get? (place name) = some (.file content) := by
  unfold read
  split
  · next h => simp [h]
  · next h =>
    rw [Bool.not_eq_true] at h
    dsimp only
    split
    · next hget => simp [h, hget]
    · next hget => simp [hget]
    · next hget => simp [hget]

/-! ### Spellings -/

/-- The place that a name leads to, unless it climbs out of the root. -/
def resolve? (name : Bytes) : Option (List Bytes) :=
  if Path.escapes name then none else some (place name)

theorem resolve?_eq_some_iff {name : Bytes} :
    resolve? name = some p ↔ Path.escapes name = false ∧ place name = p := by
  unfold resolve?
  split
  · next h => simp [h]
  · next h => simp [h]

/-- What can be written: a name that is not denied and leads to a place where no directory
stands. -/
theorem refusal?_eq_none_iff {name : Bytes} :
    m.refusal? name = none ↔ m.denies name = false ∧
      ∃ p, resolve? name = some p ∧ m.get? p ≠ some .directory := by
  unfold refusal? resolve?
  split
  · next h => simp [h]
  · next h =>
    split
    · simp
    · split
      · next hget => simp [hget]
      · next hget => simp [h, hget]

/-- What was written is read under every name that leads to the same place. -/
theorem read_put_of_resolve? {name other : Bytes} (h : m.refusal? name = none)
    (hother : resolve? other = resolve? name) (content : Bytes) :
    (m.put (.file content) (place name)).read other = .ok content := by
  have hname : resolve? name = some (place name) :=
    resolve?_eq_some_iff.mpr ⟨escapes_eq_false h, rfl⟩
  obtain ⟨hinside, hplace⟩ := resolve?_eq_some_iff.mp (hother.trans hname)
  rw [read_eq_ok_iff, hplace, get?_put, if_pos rfl]
  exact ⟨hinside, rfl⟩

/-- What was written is read under the same name. -/
theorem read_put {name : Bytes} (h : m.refusal? name = none) (content : Bytes) :
    (m.put (.file content) (place name)).read name = .ok content :=
  read_put_of_resolve? h rfl content

/-! ### Changes at one place -/

/-- The memory `m'` differs from `m` in what stands at the place `p`, and in new
directories on the way there, but in nothing else. -/
structure Confined (p : List Bytes) (m m' : Memory) : Prop where
  denied : m'.denied = m.denied
  elsewhere : ∀ q ≠ p, m'.get? q = m.get? q ∨
    (q <+: p ∧ m.get? q = none ∧ m'.get? q = some .directory)

namespace Confined

theorem refl (p : List Bytes) (m : Memory) : Confined p m m where
  denied := rfl
  elsewhere _ _ := .inl rfl

theorem trans (h : Confined p m m') (h' : Confined p m' m'') : Confined p m m'' where
  denied := h'.denied.trans h.denied
  elsewhere q hq := by
    rcases h.elsewhere q hq with hsame | ⟨hway, hnone, hdir⟩
    · rw [← hsame]
      exact h'.elsewhere q hq
    -- What is a directory by now is not made a second time.
    · rcases h'.elsewhere q hq with hsame' | ⟨-, hnone', -⟩
      · exact .inr ⟨hway, hnone, hsame'.trans hdir⟩
      · exact absurd (hdir.symm.trans hnone') (by simp)

theorem put (m : Memory) (e : Entry) (p : List Bytes) : Confined p m (m.put e p) where
  denied := rfl
  elsewhere q hq := by
    rw [get?_put, if_neg hq]
    split
    · next hway =>
      cases hget : m.get? q with
      | none => exact .inr ⟨hway, rfl, rfl⟩
      | some d => exact .inl rfl
    · exact .inl rfl

/-- Every other file stays as it was, and no other file comes into being. -/
theorem get?_eq_file_iff (h : Confined p m m') (hq : q ≠ p) (content : Bytes) :
    m'.get? q = some (.file content) ↔ m.get? q = some (.file content) := by
  rcases h.elsewhere q hq with hsame | ⟨-, hnone, hdir⟩
  · rw [hsame]
  · simp [hnone, hdir]

theorem read_eq_ok_iff (h : Confined p m m') {name : Bytes} (hname : place name ≠ p)
    (content : Bytes) : m'.read name = .ok content ↔ m.read name = .ok content := by
  rw [Memory.read_eq_ok_iff, Memory.read_eq_ok_iff, h.get?_eq_file_iff hname]

end Confined

end Memory

end NodeScript
