/-
  Files kept in memory.

  Every path is taken from one root, above which no path may climb. Writing
  makes the directories that are missing on the way. Only the file itself is
  checked, not what its directories are: a file below a file is allowed, and in
  an empty memory the root itself can become a file.
-/
import NodeScript.Files.Path
import NodeScript.Files.Refusal
import NodeScript.Files.Tree

namespace NodeScript

/-- Files in memory, and the names to which writing is denied. The name `*`
denies them all. As long as nothing has been written there is not even a root. -/
structure Memory where
  tree : Option Tree := none
  denied : List Bytes := []

namespace Memory

/-- The place that a path leads to from the root. -/
def place (path : Bytes) : List Bytes := (Path.ofBytes (Path.slash :: path)).parts

/-- The text of a place. -/
def placeText (p : List Bytes) : Bytes := (Path.mk true p).toBytes

/-- What stands at a place, if anything. -/
def get? (m : Memory) (p : List Bytes) : Option Entry := m.tree.bind (·.get? p)

/-- The memory with an entry put at a place. -/
def put (m : Memory) (e : Entry) (p : List Bytes) : Memory :=
  { m with tree := some (match m.tree with
      | none => .single e p
      | some t => t.put e p) }

/-- What stands at a place after an entry was put at a place. -/
theorem get?_put (m : Memory) (e : Entry) (p q : List Bytes) :
    (m.put e p).get? q =
      if q = p then some e
      else if q <+: p then some ((m.get? q).getD .directory)
      else m.get? q := by
  obtain ⟨_ | t, denied⟩ := m
  · simp [put, get?, Tree.get?_single]
  · simp [put, get?, Tree.get?_put]

/-- Whether writing to a name is denied. Names are compared as they are given,
not by the place they lead to. -/
def denies (m : Memory) (name : Bytes) : Bool :=
  m.denied.any fun d => d == [42] || d == name

/-- Writes a file, replacing its content if it exists. -/
def write (m : Memory) (name content : Bytes) : Except Refusal Memory :=
  if m.denies name then .error .denied
  else if Path.escapes name then .error .outside
  else
    let p := place name
    if m.get? p = some .directory then .error (.occupied (placeText p))
    else .ok (m.put (.file content) p)

/-- Reads a file. Reading is never denied. -/
def read (m : Memory) (name : Bytes) : Except Refusal Bytes :=
  if Path.escapes name then .error .outside
  else
    let p := place name
    match m.get? p with
    | some (.file content) => .ok content
    | some .directory => .error (.occupied (placeText p))
    | none => .error .absent

end Memory

end NodeScript
