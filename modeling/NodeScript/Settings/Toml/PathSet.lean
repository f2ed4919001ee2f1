/-
  Sets of paths.

  A set is kept as a tree, so that asking for a path takes as many steps as it
  has names, however many paths there are.
-/
import NodeScript.Text.Named

namespace NodeScript.Toml

/-- The names on the way from the root to a value, outermost first. -/
abbrev Path := List Bytes

/-- A set of paths: whether the empty path is in it, and the sets of what follows
the first names of the others. -/
inductive PathSet where
  | node (here : Bool) (rest : List (Bytes × PathSet))

namespace PathSet

/-- The set without paths. -/
def empty : PathSet := node false []

/-- The paths that follow a name, without it. -/
def after (name : Bytes) : PathSet → PathSet
  | node _ rest => (rest.lookup name).getD empty

/-- Whether a path is in a set. -/
def contains (s : PathSet) : Path → Bool
  | [] => match s with
    | node here _ => here
  | name :: path => (s.after name).contains path

/-- The set with or without a path. -/
def assign (b : Bool) (s : PathSet) (path : Path) : PathSet :=
  match path, s with
  | [], node _ rest => node b rest
  | name :: path, node here rest =>
    node here (Named.put name (assign b ((node here rest).after name) path) rest)

/-- Adding or removing a path matters for that path alone. -/
theorem contains_assign (b : Bool) (s : PathSet) (p q : Path) :
    (s.assign b p).contains q = if q = p then b else s.contains q := by
  induction p generalizing s q with
  | nil =>
    obtain ⟨here, rest⟩ := s
    cases q <;> simp [assign, contains, after]
  | cons name p ih =>
    obtain ⟨here, rest⟩ := s
    cases q with
    | nil => simp [assign, contains]
    | cons other q =>
      by_cases h : other = name
      · subst h
        simp [assign, contains, after, Named.lookup_put_self, ih]
      · simp [assign, contains, after, Named.lookup_put_of_ne, h]

end PathSet

end NodeScript.Toml
