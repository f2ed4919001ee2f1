/-
  Decoding documents.

  A document is decoded from its root downwards, and aliases stand for what they
  refer to. A value of the wrong kind makes a document useless, but decoding
  goes on behind it, because what follows may be worse.
-/
import NodeScript.Settings.Basic
import NodeScript.Settings.Yaml.Meaning
import NodeScript.Settings.Yaml.Node

namespace NodeScript.Yaml

/-- A document while it is decoded: how many nodes have been visited, how many
of them through an alias, and what has been found. -/
structure Decoding where
  anchored : List (Nat × Node)
  visits : Nat := 0
  aliased : Nat := 0
  /-- Whether some value was of the wrong kind. -/
  flawed : Bool := false
  found : Assignment := {}

/-- A decoding step, which may fail. -/
abbrev Decode := StateT Decoding (Except DecodeFailure)

/-- Ends the decoding with a mistake. -/
def refuse {α : Type} : Decode α := throw .mistaken

/-- Notes a mistake behind which the decoding goes on. -/
def flaw : Decode Unit := modify fun d => { d with flawed := true }

/-! ### Visits -/

/-- Whether too large a share of the visits goes through aliases. Of the first
400000 visits it may be 99 in 100, and with 4000000 visits only 10 in 100. -/
def isExcessive (visits aliased : Nat) : Bool :=
  let share := 99 * 3600000 - 89 * (min visits 4000000 - 400000)
  100 < aliased && 1000 < visits && visits * share < aliased * 360000000

/-- Counts a visit below the given aliases. -/
def count (aliases : List Nat) : Decode Unit := do
  let d ← get
  let visits := d.visits + 1
  let aliased := d.aliased + (if aliases.isEmpty then 0 else 1)
  if isExcessive visits aliased then refuse
  set { d with visits, aliased }

/-- Visits a node, and the node it refers to if it is an alias. A node cannot be
visited through an alias inside of itself. -/
def visit (aliases : List Nat) (n : Node) : Decode (Node × List Nat) := do
  count aliases
  match n with
  | .alias _ target self =>
    if aliases.contains self then refuse
    match (← get).anchored.lookup target with
    | none => refuse
    | some node =>
      count (self :: aliases)
      return (node, self :: aliases)
  | n => return (n, aliases)

/-! ### Scalars -/

/-- What a scalar stands for. Its tag has to fit. -/
def meaning (plain : Bool) (tag : Option Bytes) (s : Bytes) : Decode Meaning :=
  match meaning? plain tag s with
  | some m => return m
  | none => refuse

/-- The text of a scalar, unless it stands for nothing. A number, a time or a
truth value is taken as it is written. -/
def text (aliases : List Nat) (n : Node) : Decode (Option Bytes) := do
  match ← visit aliases n with
  | (.scalar plain tag s, _) =>
    match ← meaning plain tag s with
    | .nothing => return none
    | .text t => return some t
    | _ => return some s
  | _ =>
    flaw
    return none

/-- The truth value that a word stands for. -/
def flagWord? (s : Bytes) : Option Bool :=
  if ["y", "Y", "yes", "Yes", "YES", "on", "On", "ON"].any (utf8 · == s) then some true
  else if ["n", "N", "no", "No", "NO", "off", "Off", "OFF"].any (utf8 · == s) then some false
  else none

/-- The truth value of a meaning that has to have one. -/
def Meaning.flag? : Meaning → Option Bool
  | .flag b => some b
  | .text t => flagWord? t
  | _ => none

/-- The truth value of a scalar, unless it stands for nothing. -/
def flag (aliases : List Nat) (n : Node) : Decode (Option Bool) := do
  match ← visit aliases n with
  | (.scalar plain tag s, _) =>
    let m ← meaning plain tag s
    if m != .nothing && m.flag?.isNone then flaw
    return m.flag?
  | _ =>
    flaw
    return none

end NodeScript.Yaml
