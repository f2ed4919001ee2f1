/-
  Trees of files and directories.

  A place in a tree is the list of names that lead to it from the top, which is
  the empty list. Everything on the way to an entry is an entry itself: putting
  something at a place makes the directories that are missing on the way.

  Main statements: what was put at a place stands there (`get?_put_self`), what
  is not on the way to that place is left alone (`get?_put_of_not_prefix`), and
  so is what was there before (`get?_put_of_isSome`); what is new on the way is a
  directory (`get?_put_of_isNone`).
-/
import NodeScript.Text.Named

namespace NodeScript

/-- What stands at a place. -/
inductive Entry where
  | file (content : Bytes)
  | directory
  deriving DecidableEq

/-- A tree: what stands at its top, and the trees below by name. Nothing keeps a
file from having trees below it. -/
inductive Tree where
  | node (entry : Entry) (children : List (Bytes × Tree))

namespace Tree

/-- What stands at the top of a tree. -/
def entry : Tree → Entry
  | node e _ => e

/-- The trees below the top. -/
def children : Tree → List (Bytes × Tree)
  | node _ ts => ts

/-- The tree below the top with the given name. -/
def child? (t : Tree) (name : Bytes) : Option Tree := t.children.lookup name

/-- What stands at a place, if anything. -/
def get? (t : Tree) : List Bytes → Option Entry
  | [] => some t.entry
  | name :: place =>
    match t.child? name with
    | some u => u.get? place
    | none => none

/-- The tree with nothing in it but one entry and the directories that lead to
it. -/
def single (e : Entry) : List Bytes → Tree
  | [] => node e []
  | name :: place => node .directory [(name, single e place)]

/-- The tree with an entry put at a place, in the stead of what stood there. -/
def put (t : Tree) (e : Entry) : List Bytes → Tree
  | [] => node e t.children
  | name :: place =>
    let inner := match t.child? name with
      | some u => u.put e place
      | none => single e place
    node t.entry (Named.put name inner t.children)

/-! ### What a tree holds after a change -/

/-- What stands on the way to the only entry of a tree, and at its end. -/
theorem get?_single (e : Entry) (p q : List Bytes) :
    (single e p).get? q =
      if q = p then some e else if q <+: p then some .directory else none := by
  induction p generalizing q with
  | nil => cases q <;> simp [single, get?, entry, child?, children]
  | cons name p ih =>
    cases q with
    | nil => simp [single, get?, entry]
    | cons other q =>
      by_cases h : other = name
      · simp [single, get?, child?, children, h, ih]
      · have hb : (other == name) = false := beq_eq_false_iff_ne.2 h
        simp [single, get?, child?, children, List.lookup_cons, h, hb]

/-- What stands at a place after an entry was put at a place. -/
theorem get?_put (t : Tree) (e : Entry) (p q : List Bytes) :
    (t.put e p).get? q =
      if q = p then some e
      else if q <+: p then some ((t.get? q).getD .directory)
      else t.get? q := by
  induction p generalizing t q with
  | nil =>
    cases q with
    | nil => simp [put, get?, entry]
    | cons other q => simp [put, get?, child?, children]
  | cons name p ih =>
    cases q with
    | nil => simp [put, get?, entry]
    | cons other q =>
      by_cases h : other = name
      · subst h
        simp only [put, get?, child?, children, Named.lookup_put_self, List.cons.injEq, true_and,
          List.cons_prefix_cons]
        obtain ⟨d, ts⟩ := t
        cases hc : ts.lookup other with
        | some u => simp only [ih]
        | none => simp [get?_single]
      · have hp : ¬other :: q <+: name :: p := by simp [List.cons_prefix_cons, h]
        simp [put, get?, child?, children, Named.lookup_put_of_ne, h, hp]

/-- What was put at a place stands there. -/
theorem get?_put_self (t : Tree) (e : Entry) (p : List Bytes) :
    (t.put e p).get? p = some e := by
  rw [get?_put, if_pos rfl]

/-- Putting an entry at a place leaves alone what is not on the way to it. -/
theorem get?_put_of_not_prefix (t : Tree) (e : Entry) {p q : List Bytes} (h : ¬q <+: p) :
    (t.put e p).get? q = t.get? q := by
  have hq : q ≠ p := fun hq => h (hq ▸ List.prefix_rfl)
  rw [get?_put, if_neg hq, if_neg h]

/-- Putting an entry at a place leaves alone what there is at other places. -/
theorem get?_put_of_isSome (t : Tree) (e : Entry) {p q : List Bytes} (h : q ≠ p)
    (hq : (t.get? q).isSome) : (t.put e p).get? q = t.get? q := by
  obtain ⟨d, hd⟩ := Option.isSome_iff_exists.1 hq
  rw [get?_put, if_neg h, hd]
  split <;> rfl

/-- Where there is something new on the way to a place, it is a directory. -/
theorem get?_put_of_isNone (t : Tree) (e : Entry) {p q : List Bytes} (h : q ≠ p)
    (hp : q <+: p) (hq : t.get? q = none) : (t.put e p).get? q = some .directory := by
  rw [get?_put, if_neg h, if_pos hp, hq]
  rfl

/-! ### Listings -/

mutual

/-- All entries of a tree by place, the top first. The names that lead to the
tree are given with the last one first. -/
def entriesBelow (way : List Bytes) : Tree → List (List Bytes × Entry)
  | node e ts => (way.reverse, e) :: entriesOfAll way ts

/-- All entries of several trees by place. -/
def entriesOfAll (way : List Bytes) : List (Bytes × Tree) → List (List Bytes × Entry)
  | [] => []
  | (name, t) :: ts => t.entriesBelow (name :: way) ++ entriesOfAll way ts

end

/-- All entries of a tree by place, the top first. -/
def toList (t : Tree) : List (List Bytes × Entry) := t.entriesBelow []

/-- The tree at a place, if there is one. -/
def at? (t : Tree) : List Bytes → Option Tree
  | [] => some t
  | name :: place =>
    match t.child? name with
    | some u => u.at? place
    | none => none

/-- The entries below the top of a tree in the order of the paths' bytes, with
each path as a text. -/
def listing (t : Tree) : List (Bytes × Entry) :=
  (t.toList.tail.map fun (place, e) => (Bytes.join [47] place, e)).mergeSort
    fun a b => Bytes.le a.1 b.1

end Tree

end NodeScript
