/-
  What can be told from a problem.

  Notes in front of a problem do not hide what is in it (`fault?_notedAll`), and of
  several problems that were joined, the first fault is found (`fault?_join_cons`), while
  a denied permission shows wherever it is (`isDenied_of_join`). The text of joined
  problems is that of each of them on a line of its own (`message_of_join`).
-/
import NodeScript.Diagnostics.Problem

namespace NodeScript

namespace Problem

/-- A problem with notes in front of it, the last one outermost. -/
def notedAll (p : Problem) (notes : List Bytes) : Problem :=
  notes.foldl (fun q note => .noted note q) p

theorem fault?_notedAll (p : Problem) (notes : List Bytes) :
    (p.notedAll notes).fault? = p.fault? := by
  induction notes generalizing p with
  | nil => rfl
  | cons note notes ih => exact ih (.noted note p)

theorem fault?_join_cons {p q : Problem} {ps : List Problem} (h : join (p :: ps) = some q)
    (hp : p.fault?.isSome) : q.fault? = p.fault? := by
  obtain ⟨f, hf⟩ := Option.isSome_iff_exists.mp hp
  rw [join, Option.some.injEq] at h
  subst h
  cases join ps with
  | none => rfl
  | some r =>
    show (p.fault? <|> r.fault?) = p.fault?
    rw [hf]
    rfl

/-! ### Denied permissions -/

@[simp]
theorem isDenied_refused (why : Refusal) : (refused why).isDenied ↔ why = .denied := by
  simp [isDenied, includes]

@[simp]
theorem isDenied_noted (note : Bytes) (p : Problem) : (noted note p).isDenied = p.isDenied := by
  simp [isDenied, includes]

@[simp]
theorem isDenied_fault (c : Option Command) (p : Problem) : (fault c p).isDenied = p.isDenied := by
  simp [isDenied, includes]

@[simp]
theorem isDenied_both (p q : Problem) : (both p q).isDenied = (p.isDenied || q.isDenied) := by
  simp [isDenied, includes]

theorem isDenied_of_join {ps : List Problem} {q : Problem} (h : join ps = some q) :
    q.isDenied = ps.any isDenied := by
  induction ps generalizing q with
  | nil => cases h
  | cons p ps ih =>
    rw [join, Option.some.injEq] at h
    subst h
    cases hjoin : join ps with
    | none =>
      cases ps with
      | nil => simp
      | cons p' ps => cases hjoin
    | some r => rw [isDenied_both, ih hjoin, List.any_cons]

/-! ### Texts -/

theorem message_of_join {ps : List Problem} {q : Problem} (h : join ps = some q) :
    q.message = Bytes.join [newline] (ps.map message) := by
  induction ps generalizing q with
  | nil => cases h
  | cons p ps ih =>
    rw [join, Option.some.injEq] at h
    subst h
    cases ps with
    | nil => rfl
    | cons p' ps =>
      obtain ⟨r, hr⟩ : ∃ r, join (p' :: ps) = some r := ⟨_, rfl⟩
      rw [hr]
      show p.message ++ [newline] ++ r.message = _
      rw [ih hr]
      rfl

end Problem

end NodeScript
