/-
  From tokens to nodes.

  A document is a tree of scalars, sequences and mappings. A node can be given
  an anchor, by which an alias later in the document refers to it, even from
  inside the node. So an alias does not hold its target: it holds a number, and
  the document lists the nodes by number.
-/
import NodeScript.Settings.Yaml.Tokens

namespace NodeScript.Yaml

/-- A node, with its tag if it has one that says anything. -/
inductive Node where
  /-- A scalar, and whether it is written without quotes or marks. -/
  | scalar (plain : Bool) (tag : Option Bytes) (text : Bytes)
  | sequence (tag : Option Bytes) (items : List Node)
  | mapping (tag : Option Bytes) (entries : List (Node × Node))
  /-- The name of the anchor that is referred to, the number of the node there,
  and the number of the alias itself. -/
  | alias (name : Bytes) (target self : Nat)

/-- A scalar that is not there. -/
def Node.absent : Node := .scalar true none []

/-- A document: its root, and the nodes with anchors by their numbers. -/
structure Document where
  root : Node
  anchored : List (Nat × Node) := []

/-! ### Composing -/

/-- What is known while a document is composed. -/
structure Composer where
  lexer : Lexer
  /-- What the handles of tags stand for. -/
  handles : List (Bytes × Bytes) := []
  /-- The numbers of the anchors met so far, the latest first. -/
  anchors : List (Bytes × Nat) := []
  anchored : List (Nat × Node) := []
  /-- How many numbers have been given out. -/
  numbers : Nat := 0

/-- A composing step, which may fail. -/
abbrev Compose := StateT Composer Option

namespace Compose

/-- A step of the lexer. -/
def lex {α : Type} (step : Lex α) : Compose α := fun c => do
  let (a, lexer) ← step c.lexer
  return (a, { c with lexer })

/-- The next token. -/
def next : Compose Token := lex Lex.next

/-- Takes the next token. -/
def take : Compose Unit := lex Lex.take

/-- A new number. -/
def number : Compose Nat := modifyGet fun c => (c.numbers, { c with numbers := c.numbers + 1 })

/-- Composes a node with an anchor, if there is one. The anchor is known within
the node. -/
def underAnchor (anchor : Option Bytes) (node : Compose Node) : Compose Node := do
  match anchor with
  | none => node
  | some name =>
    let n ← number
    modify fun c => { c with anchors := (name, n) :: c.anchors }
    let node ← node
    modify fun c => { c with anchored := (n, node) :: c.anchored }
    return node

/-! ### Tags -/

/-- What tags of the language itself start with. -/
def ownTags : Bytes := utf8 "tag:yaml.org,2002:"

/-- The short form of a tag: those of the language start with two exclamation
marks. -/
def shortTag (tag : Bytes) : Bytes :=
  match Bytes.stripStart? ownTags tag with
  | some name => utf8 "!!" ++ name
  | none => tag

/-- The tag that a handle and a suffix stand for. The exclamation mark alone
says nothing about a node. -/
def resolveTag (handle suffix : Bytes) : Compose (Option Bytes) := do
  let tag ←
    if handle.isEmpty then pure suffix
    else match (← get).handles.lookup handle with
      | some meaning => pure (meaning ++ suffix)
      | none => failure
  return if tag = [33] then none else some (shortTag tag)

/-- The anchor and the tag in front of a node, in either order, and whether
there is any of them. -/
def properties : Compose (Option Bytes × Option Bytes × Bool) := do
  match ← next with
  | .anchor name =>
    take
    match ← next with
    | .tag handle suffix =>
      take
      return (some name, ← resolveTag handle suffix, true)
    | _ => return (some name, none, true)
  | .tag handle suffix =>
    take
    match ← next with
    | .anchor name =>
      take
      return (some name, ← resolveTag handle suffix, true)
    | _ => return (none, ← resolveTag handle suffix, true)
  | _ => return (none, none, false)

/-! ### Nodes -/

/-- Whether a token can stand where a value of a block mapping is left out. -/
def endsBlockEntry (t : Token) : Bool := t == .key || t == .value || t == .blockEnd

mutual

/-- A node. Whole blocks are nodes only outside brackets; in a mapping a
sequence need not be indented further than its key. -/
def node (fuel : Nat) (block indentless : Bool) : Compose Node :=
  match fuel with
  | 0 => failure
  | fuel + 1 => do
    match ← next with
    | .alias name =>
      match (← get).anchors.lookup name with
      | none => failure
      | some target =>
        let self ← number
        take
        return .alias name target self
    | _ =>
      let (anchor, tag, any) ← properties
      match ← next with
      | .scalar plain text =>
        underAnchor anchor do
          take
          return .scalar plain tag text
      | .flowSequenceStart =>
        underAnchor anchor do
          take
          return .sequence tag (← flowItems fuel true)
      | .flowMappingStart =>
        underAnchor anchor do
          take
          return .mapping tag (← flowEntries fuel true)
      | .blockEntry =>
        if indentless then underAnchor anchor do return .sequence tag (← indentlessItems fuel)
        else if any then underAnchor anchor do return .scalar true tag []
        else failure
      | .blockSequenceStart =>
        if block then
          underAnchor anchor do
            take
            return .sequence tag (← blockItems fuel)
        else if any then underAnchor anchor do return .scalar true tag []
        else failure
      | .blockMappingStart =>
        if block then
          underAnchor anchor do
            take
            return .mapping tag (← blockEntries fuel)
        else if any then underAnchor anchor do return .scalar true tag []
        else failure
      | _ => if any then underAnchor anchor do return .scalar true tag [] else failure

/-- The items of a block sequence. -/
def blockItems (fuel : Nat) : Compose (List Node) :=
  match fuel with
  | 0 => failure
  | fuel + 1 => do
    match ← next with
    | .blockEntry =>
      take
      let t ← next
      let item ← if t == .blockEntry || t == .blockEnd then pure .absent else node fuel true false
      return item :: (← blockItems fuel)
    | .blockEnd =>
      take
      return []
    | _ => failure

/-- The items of a block sequence that is not indented further than the key
before it. -/
def indentlessItems (fuel : Nat) : Compose (List Node) :=
  match fuel with
  | 0 => failure
  | fuel + 1 => do
    match ← next with
    | .blockEntry =>
      take
      let t ← next
      let item ← if t == .blockEntry || endsBlockEntry t then pure .absent else node fuel true false
      return item :: (← indentlessItems fuel)
    | _ => return []

/-- The entries of a block mapping. -/
def blockEntries (fuel : Nat) : Compose (List (Node × Node)) :=
  match fuel with
  | 0 => failure
  | fuel + 1 => do
    match ← next with
    | .key =>
      take
      let key ← if endsBlockEntry (← next) then pure .absent else node fuel true true
      let value ← if (← next) == .value then do
          take
          if endsBlockEntry (← next) then pure .absent else node fuel true true
        else pure .absent
      return (key, value) :: (← blockEntries fuel)
    | .blockEnd =>
      take
      return []
    | _ => failure

/-- The items of a sequence in brackets, with commas between them. -/
def flowItems (fuel : Nat) (first : Bool) : Compose (List Node) :=
  match fuel with
  | 0 => failure
  | fuel + 1 => do
    if (← next) == .flowSequenceEnd then
      take
      return []
    else
      if !first then
        if (← next) == .flowEntry then take else failure
      match ← next with
      | .flowSequenceEnd =>
        take
        return []
      | .key =>
        take
        let entry ← flowPair fuel
        return .mapping none [entry] :: (← flowItems fuel false)
      | _ =>
        let item ← node fuel false false
        return item :: (← flowItems fuel false)

/-- An item of a sequence in brackets that is a mapping with one entry. If its
key is left out, the token after it is passed over. -/
def flowPair (fuel : Nat) : Compose (Node × Node) :=
  match fuel with
  | 0 => failure
  | fuel + 1 => do
    let t ← next
    let key ← if t == .value || t == .flowEntry || t == .flowSequenceEnd then do
        take
        pure .absent
      else node fuel false false
    if (← next) == .value then
      take
      let t ← next
      if t == .flowEntry || t == .flowSequenceEnd then return (key, .absent)
      else return (key, ← node fuel false false)
    else return (key, .absent)

/-- The entries of a mapping in braces, with commas between them. An entry
without a colon is a key without a value. -/
def flowEntries (fuel : Nat) (first : Bool) : Compose (List (Node × Node)) :=
  match fuel with
  | 0 => failure
  | fuel + 1 => do
    if (← next) == .flowMappingEnd then
      take
      return []
    else
      if !first then
        if (← next) == .flowEntry then take else failure
      match ← next with
      | .flowMappingEnd =>
        take
        return []
      | .key =>
        take
        let t ← next
        let key ← if t == .value || t == .flowEntry || t == .flowMappingEnd then pure .absent
          else node fuel false false
        let value ← if (← next) == .value then do
            take
            let t ← next
            if t == .flowEntry || t == .flowMappingEnd then pure .absent
            else node fuel false false
          else pure .absent
        return (key, value) :: (← flowEntries fuel false)
      | _ =>
        let key ← node fuel false false
        return (key, .absent) :: (← flowEntries fuel false)

end

/-! ### Documents -/

/-- What handles stand for unless a directive says otherwise. -/
def usualHandles : List (Bytes × Bytes) := [(utf8 "!", utf8 "!"), (utf8 "!!", ownTags)]

/-- Reads the directives of a document. There is at most one version, which has
to be 1.1, and at most one meaning for a handle. -/
def directives (fuel : Nat) (versioned : Bool) : Compose Unit :=
  match fuel with
  | 0 => failure
  | fuel + 1 => do
    match ← next with
    | .version major minor =>
      if versioned || major != 1 || minor != 1 then failure
      take
      directives fuel true
    | .handle name meaning =>
      if ((← get).handles.lookup name).isSome then failure
      modify fun c => { c with handles := c.handles ++ [(name, meaning)] }
      take
      directives fuel versioned
    | _ => modify fun c => { c with handles := c.handles ++ usualHandles }

/-- Whether a token says that a document is left out. -/
def endsDocument : Token → Bool
  | .version _ _ | .handle _ _ | .documentStart | .documentEnd | .streamEnd => true
  | _ => false

/-- The first document of a file, if there is one. What follows it is looked at
only as far as its end has to be found. -/
def document (fuel : Nat) : Compose (Option Document) := do
  let _ ← next
  take
  let root ← match ← next with
    | .streamEnd => return none
    | .version _ _ | .handle _ _ | .documentStart =>
      directives fuel false
      if (← next) != .documentStart then failure
      take
      if endsDocument (← next) then pure .absent else node fuel true false
    | _ =>
      directives fuel false
      node fuel true false
  let _ ← next
  return some { root, anchored := (← get).anchored }

end Compose

/-- The first document of a file, if there is one and it has no mistakes. -/
def Document.ofBytes (content : Bytes) : Option (Option Document) := do
  let lexer := Lexer.ofBytes content
  let (document, _) ← (Compose.document (4 * lexer.bound)).run { lexer }
  return document

end NodeScript.Yaml
