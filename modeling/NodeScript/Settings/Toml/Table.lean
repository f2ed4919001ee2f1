/-
  The tables that statements build.

  A name that is taken cannot be given another value, with two exceptions. A
  table that came about only because something in it was named is implied, and
  may once be declared for itself. And what was last an array may be replaced.
  Arrays of values are not looked into.
-/
import NodeScript.Settings.Toml.PathSet
import NodeScript.Settings.Toml.Statement

namespace NodeScript.Toml

/-- A value. -/
inductive Value where
  | text (s : Bytes)
  | flag (b : Bool)
  /-- A number, a date or a time. -/
  | number
  | array
  | table (entries : List (Bytes × Value))
  /-- An array of tables that is still being built, with its last table. -/
  | tables (last : List (Bytes × Value))

/-- The entries of a table. No name occurs twice. -/
abbrev Entries := Named Value

/-! ### Entries by path -/

/-- The entries of the table at a path. An array of tables stands for its last
table. -/
def entriesAt? : Path → Entries → Option Entries
  | [], es => some es
  | name :: path, es =>
    match es.lookup name with
    | some (.table inner) | some (.tables inner) => entriesAt? path inner
    | _ => none

/-- Changes the entries of the table at a path, if there is one. -/
def changeAt? (change : Entries → Option Entries) (path : Path) (es : Entries) : Option Entries :=
  match path with
  | [] => change es
  | outer :: path =>
    match es.lookup outer with
    | some (.table inner) => do
      return Named.put outer (.table (← changeAt? change path inner)) es
    | some (.tables inner) => do
      return Named.put outer (.tables (← changeAt? change path inner)) es
    | _ => none

/-- Gives the name of a key a value, and makes the tables for it that are
missing. -/
def putBelow? (parents : List Bytes) (name : Bytes) (v : Value) (es : Entries) : Option Entries :=
  match parents with
  | [] => some (Named.put name v es)
  | outer :: parents =>
    match es.lookup outer with
    | none => do return Named.put outer (.table (← putBelow? parents name v [])) es
    | some (.table inner) => do
      return Named.put outer (.table (← putBelow? parents name v inner)) es
    | some _ => none

/-! ### Drafts -/

/-- A value before it is known whether it is needed. The entries of a table in
braces are built in place; the draft of the table counts only if the table
replaces an array. -/
inductive Draft where
  /-- A value that is no table. -/
  | value (v : Value)
  | table (entries : List (Bytes × Draft))
  /-- The table that has been built at a path. -/
  | built (path : Path)

mutual

/-- What a draft amounts to. -/
def Draft.toValue (root : Entries) : Draft → Value
  | .value v => v
  | .table es => .table (Draft.toEntries root es)
  | .built path => .table ((entriesAt? path root).getD [])

/-- What the drafts of entries amount to. -/
def Draft.toEntries (root : Entries) : List (Bytes × Draft) → Entries
  | [] => []
  | (name, d) :: es => (name, d.toValue root) :: Draft.toEntries root es

end

/-! ### Building -/

/-- What statements have built so far. -/
structure Building where
  root : Entries := []
  /-- Where tables are implied. -/
  implied : PathSet := .empty
  /-- Where the last value was an array. -/
  arrays : PathSet := .empty

/-- A step of building, which may fail. -/
abbrev Build := StateT Building Option

namespace Build

/-- Marks a path as that of an implied table. -/
def imply (path : Path) : Build Unit :=
  modify fun b => { b with implied := b.implied.assign true path }

/-- Takes the mark of an implied table away. -/
def declare (path : Path) : Build Unit :=
  modify fun b => { b with implied := b.implied.assign false path }

/-- Notes of the last value of a name whether it is an array. A value with an
empty name counts as one of the table that it is in. -/
def note (context : Path) (name : Bytes) (isArray : Bool) : Build Unit :=
  let path := if name.isEmpty then context else context ++ [name]
  let path := if path.isEmpty then [[]] else path
  modify fun b => { b with arrays := b.arrays.assign isArray path }

/-- The entries of the table at a path. -/
def entries (path : Path) : Build Entries := do
  match entriesAt? path (← get).root with
  | some es => return es
  | none => failure

/-- Changes the entries of the table at a path. -/
def change (path : Path) (f : Entries → Option Entries) : Build Unit := do
  match changeAt? f path (← get).root with
  | some root => modify fun b => { b with root }
  | none => failure

/-- Gives a name in the table at a path a value, whatever it had. -/
def write (context : Path) (name : Bytes) (v : Value) : Build Unit :=
  change context fun es => some (Named.put name v es)

/-- Gives a name a value if it is free or was an array, and says so. The
declaration of an implied table leaves its entries. -/
def set (context : Path) (name : Bytes) (d : Draft) : Build Bool := do
  let path := context ++ [name]
  let b ← get
  if ((← entries context).lookup name).isNone then
    write context name (d.toValue b.root)
    return true
  else if b.arrays.contains path then
    declare path
    write context name (d.toValue b.root)
    return true
  else if b.implied.contains path then
    declare path
    return false
  else failure

/-- Makes the tables of a path that are missing, as implied ones. -/
def establish (context : Path) : List Bytes → Build Unit
  | [] => return
  | name :: names => do
    let path := context ++ [name]
    match (← entries context).lookup name with
    | none =>
      imply path
      write context name (.table [])
    | some (.table _) | some (.tables _) => pure ()
    | some _ => failure
    establish path names

/-- Makes sure that there is a table at a path. -/
def ensure (path : Path) : Build Unit := do
  if (entriesAt? path (← get).root).isNone then establish [] path

/-- Opens a table. -/
def openTable (k : Key) : Build Unit := do
  ensure k.parents
  let _ ← set k.parents k.name (.table [])

/-- Opens one more table of an array. -/
def openTables (k : Key) : Build Unit := do
  ensure k.parents
  match (← entries k.parents).lookup k.name with
  | none | some (.tables _) => write k.parents k.name (.tables [])
  | some _ => failure

/-- Opens the tables that a dotted key names within a table. They are implied,
and thereby declared if they were before. -/
def descend (context : Path) : List Bytes → Build Unit
  | [] => return
  | name :: names => do
    imply (context ++ [name])
    openTable ⟨context, name⟩
    descend (context ++ [name]) names

end Build

/-! ### Values -/

/-- Whether a value is written as an array. -/
def Literal.isArray : Literal → Bool
  | .array _ => true
  | _ => false

/-- Adds an entry to the draft of a table. What has been built already is changed
where it is. -/
def Draft.addEntry (parents : List Bytes) (name : Bytes) (d : Draft)
    (es : List (Bytes × Draft)) : Build (List (Bytes × Draft)) :=
  match parents with
  | [] => return Named.put name d es
  | outer :: parents =>
    match es.lookup outer with
    | none => do return Named.put outer (.table (← addEntry parents name d [])) es
    | some (.table inner) => do
      return Named.put outer (.table (← addEntry parents name d inner)) es
    | some (.built path) => do
      let v := d.toValue (← get).root
      Build.change path (putBelow? parents name v)
      return es
    | some (.value _) => failure

/-- Gives a name in the table at a path the value of a draft. From then on the
draft of a table that was needed is what has been built of it. -/
def Draft.settle (context : Path) (name : Bytes) (isArray : Bool) (d : Draft) : Build Draft := do
  let written ← Build.set context name d
  Build.note context name isArray
  match d with
  | .table _ => return if written then .built (context ++ [name]) else d
  | _ => return d

mutual

/-- The value of a name in the table at a path, as it is written or as an item
of an array. -/
def Literal.build (context : Path) (name : Bytes) (isItem : Bool) : Literal → Build Draft
  | .text s => return .value (.text s)
  | .flag b => return .value (.flag b)
  | .number => return .value .number
  | .array items => do
    Build.note context name true
    Literal.buildItems context name items
    return .value .array
  | .table es => do
    let path := context ++ [name]
    Build.imply path
    if isItem then Build.openTables ⟨context, name⟩ else Build.openTable ⟨context, name⟩
    return .table (← Literal.buildEntries path [] es)

/-- Builds the items of an array. -/
def Literal.buildItems (context : Path) (name : Bytes) : List Literal → Build Unit
  | [] => return
  | item :: items => do
    let _ ← item.build context name true
    Literal.buildItems context name items

/-- Builds the entries of a table in braces, and adds them to the draft of those
before. -/
def Literal.buildEntries (context : Path) (before : List (Bytes × Draft)) :
    List (Key × Literal) → Build (List (Bytes × Draft))
  | [] => return before
  | (k, literal) :: rest => do
    Build.descend context k.parents
    let inner := context ++ k.parents
    let d ← (← literal.build inner k.name false).settle inner k.name literal.isArray
    Literal.buildEntries context (← Draft.addEntry k.parents k.name d before) rest

end

/-! ### Statements -/

/-- Runs the statements that follow, in the table that the last header has
opened. -/
def run (context : Path) : List Statement → Build Unit
  | [] => return
  | .table k :: rest => do
    Build.openTable k
    Build.note k.path [] false
    run k.path rest
  | .tables k :: rest => do
    Build.openTables k
    Build.note k.path [] false
    run k.path rest
  | .assign k literal :: rest => do
    Build.descend context k.parents
    let inner := context ++ k.parents
    let _ ← (← literal.build inner k.name false).settle inner k.name literal.isArray
    run context rest

/-- The root table of a file, if it has no mistakes. -/
def rootTable? (v : Version) (content : Bytes) : Option Entries := do
  let (_, b) ← (run [] (← Statement.ofFile? v content)).run {}
  some b.root

end NodeScript.Toml
