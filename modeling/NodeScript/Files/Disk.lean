/-
  The directory tree that the program runs in.

  Paths are followed name by name, from the top if they start with `/` and from
  the current directory otherwise: every name but the last has to lead to a
  directory. A `..` at the top stays there. Names and paths have a limit of
  length; the limit of a name counts only where the name is looked up, so that
  whatever is wrong further in front shows first.

  The tree does not show everything that can keep a file from being written.
  What else does, permissions and room for example, is known of single places.
-/
import NodeScript.Files.Path
import NodeScript.Files.Refusal
import NodeScript.Files.Tree

namespace NodeScript

/-- Why the machine lets nothing be written at a place: which request it refuses,
and its reason. -/
structure Bar where
  place : List Bytes
  request : Request
  reason : Bytes
  deriving DecidableEq

/-- A tree of files and directories, the place of the current directory, and the
places at which the machine lets nothing be written. -/
structure Disk where
  tree : Tree := .node .directory []
  current : List Bytes := []
  bars : List Bar := []

namespace Disk

/-- The greatest length of a name. -/
def nameLimit : Nat := 255

/-- The greatest length of a path. -/
def pathLimit : Nat := 4095

/-- What stands at a place, if anything. -/
def get? (d : Disk) (place : List Bytes) : Option Entry := d.tree.get? place

/-- The disk with an entry put at a place. -/
def put (d : Disk) (e : Entry) (place : List Bytes) : Disk :=
  { d with tree := d.tree.put e place }

/-- What keeps a place from being written, whatever the tree holds. -/
def barAt? (d : Disk) (place : List Bytes) : Option Bar := d.bars.find? (·.place = place)

/-- What stands below the current directory, with the paths from there. -/
def listing (d : Disk) : List (Bytes × Entry) :=
  ((d.tree.at? d.current).map Tree.listing).getD []

/-! ### Positions -/

/-- A position in a tree: the tree that is below it, and the names that lead to
it with the trees that they were looked up in, the last one first. -/
structure Position where
  tree : Tree
  way : List (Bytes × Tree) := []

namespace Position

/-- The place of a position. -/
def place (p : Position) : List Bytes := (p.way.map (·.1)).reverse

/-- The position above, except at the top. -/
def up (p : Position) : Position :=
  match p.way with
  | [] => p
  | (_, t) :: way => ⟨t, way⟩

/-- The position under a name, if there is something. -/
def down? (p : Position) (name : Bytes) : Option Position :=
  (p.tree.child? name).map fun t => ⟨t, (name, p.tree) :: p.way⟩

/-- A position that has to be at a directory. -/
def directory (p : Position) : Except Obstacle Position :=
  match p.tree.entry with
  | .directory => .ok p
  | .file _ => .error .notDirectory

/-- The position that a name leads to from a position, which has to be at a
directory. -/
def enter (p : Position) (name : Bytes) : Except Obstacle Position := do
  let p ← p.directory
  if name = [period] then return p
  else if name = Path.parent then return p.up
  else if nameLimit < name.length then throw .tooLong
  else match p.down? name with
    | some p => return p
    | none => throw .missing

end Position

/-! ### Following paths -/

/-- A path taken apart: whether it starts at the top, its names, and whether it
is written with a slash at the end. -/
structure Route where
  rooted : Bool
  names : List Bytes
  slashed : Bool

/-- Takes a path apart, if it can be followed at all. The empty path leads
nowhere. -/
def Route.ofBytes (path : Bytes) : Except Obstacle Route :=
  if path.contains 0 then .error .invalid
  else if path.isEmpty then .error .missing
  else if pathLimit < path.length then .error .tooLong
  else .ok
    { rooted := path.head? = some Path.slash
      names := (Bytes.splitAt Path.slash path).filter (!·.isEmpty)
      slashed := path.getLast? = some Path.slash }

/-- The position that names lead to, from the top or from the current
directory. -/
def follow (d : Disk) (rooted : Bool) (names : List Bytes) : Except Obstacle Position := do
  let top : Position := { tree := d.tree }
  let start ← if rooted then pure top else d.current.foldlM Position.enter top
  names.foldlM Position.enter start

/-- The position that a path leads to. A path written with a slash at the end
leads to directories only. -/
def find (d : Disk) (path : Bytes) : Except Obstacle Position := do
  let r ← Route.ofBytes path
  let p ← d.follow r.rooted r.names
  if r.slashed then p.directory else return p

/-- Whether a name stands for a directory whatever the tree holds: the current
one or its parent. -/
def isDots (name : Bytes) : Bool := name == [period] || name == Path.parent

/-- The directory that the last name of a path is looked up in, and the last
name. A path that ends in dots, or has no names, leads to a directory without
any looking up. -/
def lastStep (d : Disk) (path : Bytes) : Except Obstacle (Position × Option Bytes) := do
  let r ← Route.ofBytes path
  let p ← (← d.follow r.rooted r.names.dropLast).directory
  return (p, r.names.getLast?.filter (!isDots ·))

/-! ### Reading -/

/-- Opens a path for reading. A directory can be opened, but not read. -/
def openToRead (d : Disk) (path : Bytes) : Except Refusal Entry :=
  match d.find path with
  | .ok p => .ok p.tree.entry
  | .error o => .error (.system .opening path o)

/-- Reads what was opened at a path. -/
def contentOf (path : Bytes) : Entry → Except Refusal Bytes
  | .file content => .ok content
  | .directory => .error (.system .reading path .isDirectory)

/-- Reads a file. -/
def read (d : Disk) (path : Bytes) : Except Refusal Bytes := do
  contentOf path (← d.openToRead path)

/-! ### Writing -/

/-- The place of the file at a path that is to be written, and its content,
which is empty if it is not there. A path written with a slash at the end can
only be a directory's. -/
def fileToWrite (d : Disk) (path : Bytes) : Except Obstacle (List Bytes × Bytes) := do
  match ← d.lastStep path with
  | (_, none) => throw .isDirectory
  | (p, some name) =>
    if path.getLast? = some Path.slash then throw .isDirectory
    else if nameLimit < name.length then throw .tooLong
    else match (p.tree.child? name).map Tree.entry with
      | some .directory => throw .isDirectory
      | some (.file content) => return (p.place ++ [name], content)
      | none => return (p.place ++ [name], [])

/-- Writes a file whose directory exists, its new content made from the old one,
which is empty for a new file. -/
def update (d : Disk) (path : Bytes) (f : Bytes → Bytes) : Except Refusal Disk :=
  match d.fileToWrite path with
  | .error o => .error (.system .opening path o)
  | .ok (place, content) =>
    match d.barAt? place with
    | some bar => .error (.system bar.request path (.barred bar.reason))
    | none => .ok (d.put (.file (f content)) place)

/-- Writes a file whose directory exists, replacing its content. -/
def replace (d : Disk) (path content : Bytes) : Except Refusal Disk :=
  d.update path fun _ => content

/-- Adds to the end of a file whose directory exists. -/
def append (d : Disk) (path content : Bytes) : Except Refusal Disk :=
  d.update path (· ++ content)

/-- Makes one directory where there is nothing. -/
def makeDirectory (d : Disk) (path : Bytes) : Except Obstacle Disk := do
  match ← d.lastStep path with
  | (_, none) => throw .taken
  | (p, some name) =>
    if nameLimit < name.length then throw .tooLong
    else if (p.tree.child? name).isSome then throw .taken
    else match d.barAt? (p.place ++ [name]) with
      | some bar => throw (.barred bar.reason)
      | none => return d.put .directory (p.place ++ [name])

/-- Makes directories at the paths, one after another, where there are none. If
one cannot be made, those before it stay. -/
def makeDirectories (d : Disk) : (paths : List Bytes) → Disk × Option Refusal
  | [] => (d, none)
  | path :: paths =>
    match d.find path with
    | .ok p =>
      match p.tree.entry with
      | .directory => d.makeDirectories paths
      | .file _ => (d, some (.system .makingDirectory path .notDirectory))
    | .error _ =>
      match d.makeDirectory path with
      | .ok d => d.makeDirectories paths
      | .error o => (d, some (.system .makingDirectory path o))

/-- Makes the directories that lead to a clean path, unless the last one is
there. -/
def makeWay (d : Disk) (p : Path) : Disk × Option Refusal :=
  match d.find p.directory.toBytes with
  | .ok ⟨.node .directory _, _⟩ => (d, none)
  | _ => d.makeDirectories p.ancestors

/-- Writes a file below a directory, out of which the name may not climb,
making the directories that are missing. They stay even if the file cannot be
written. -/
def writeBelow (d : Disk) (dir name content : Bytes) : Disk × Option Refusal :=
  if Path.escapes name then (d, some .outside)
  else
    let path := Path.below dir name
    match d.makeWay (Path.ofBytes path) with
    | (d, some why) => (d, some why)
    | (d, none) =>
      match d.replace path content with
      | .ok d => (d, none)
      | .error why => (d, some why)

end Disk

end NodeScript
