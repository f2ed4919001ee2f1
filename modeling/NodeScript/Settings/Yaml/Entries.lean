/-
  Entries of mappings.

  A merge key adds the entries of other mappings for names that the mapping
  itself does not have. To tell which these are, the names of the mapping are
  decoded without regard to what is expected of them. A name that is a sequence
  or a mapping cannot be compared with others: where names are compared, that
  ends everything, and elsewhere it is a mistake like others.
-/
import NodeScript.Settings.Yaml.Decoding

namespace NodeScript.Yaml

/-! ### Keys -/

/-- By what two keys of a mapping are the same: their kind, and the text of a
scalar or the name of an alias. -/
def Node.identity : Node → Nat × Bytes
  | .scalar _ _ text => (0, text)
  | .sequence _ _ => (1, [])
  | .mapping _ _ => (2, [])
  | .alias name _ _ => (3, name)

/-- Whether a key of a mapping occurs twice. -/
def hasRepeats (es : List (Node × Node)) : Bool := !(es.map (·.1.identity)).Nodup

/-- Whether a key is the merge key. -/
def Node.isMerge : Node → Bool
  | .scalar plain tag text =>
    text == utf8 "<<" && (tag == some (utf8 "!!merge") || (plain && tag.isNone))
  | _ => false

/-- The mappings that are merged by a merge key with the given value. -/
def Node.sources : Node → List Node
  | .sequence _ items => items
  | n => [n]

/-- Whether a tag is that of texts or of the merge key. -/
def isTextTag (tag : Bytes) : Bool := tag == utf8 "!!str" || tag == utf8 "!!merge"

/-- Whether a node that is no alias is taken for a text by its tag or, without
one, by how it is written. -/
def Node.isTextual : Node → Bool
  | .scalar plain none s => !plain || spelling true s == .text
  | .scalar _ (some tag) _ | .sequence (some tag) _ | .mapping (some tag) _ => isTextTag tag
  | _ => false

/-- Whether all keys of a mapping are taken for texts. -/
def allTextual (es : List (Node × Node)) : Decode Bool := do
  let anchored := (← get).anchored
  return es.all fun (key, _) =>
    match key with
    | .alias _ target _ => (anchored.lookup target).any Node.isTextual
    | key => key.isTextual

/-! ### Entries -/

/-- The names that entries have been decoded for, where these are kept: while
mappings are merged. -/
abbrev Decided := Option (List Meaning)

/-- What a node stands for where every kind of value is welcome. -/
inductive Value where
  | scalar (m : Meaning)
  | collection

/-- How the entries of a mapping apart from merged ones are decoded, below the
given aliases. Entries for names that are decided are passed over, and the names
of the others become decided. -/
abbrev Own := List Nat → List (Node × Node) → Decided → Decode Decided

mutual

/-- What a node stands for, unless it is a mapping with a key that occurs twice.
-/
def value (fuel : Nat) (aliases : List Nat) (n : Node) (decided : Decided) :
    Decode (Option Value × Decided) :=
  match fuel with
  | 0 => refuse
  | fuel + 1 => do
    match ← visit aliases n with
    | (.scalar plain tag s, _) => return (some (.scalar (← meaning plain tag s)), decided)
    | (.sequence _ items, aliases) =>
      let decided ← items.foldlM
        (fun decided item => do return (← value fuel aliases item decided).2) decided
      return (some .collection, decided)
    | (.mapping _ es, aliases) =>
      if hasRepeats es then
        flaw
        return (none, decided)
      else
        let decided ← entries fuel (anyEntries fuel (← allTextual es)) aliases es decided
        return (some .collection, decided)
    | (.alias _ _ _, _) => refuse

/-- Decodes entries with any values, and with names that are texts or anything
comparable. -/
def anyEntries (fuel : Nat) (textual : Bool) (aliases : List Nat) (es : List (Node × Node))
    (decided : Decided) : Decode Decided :=
  match fuel with
  | 0 => refuse
  | fuel + 1 =>
    es.foldlM (fun decided (key, v) => do
      if key.isMerge then return decided
      let name ←
        if textual then Option.map (fun s => Value.scalar (.text s)) <$> text aliases key
        else Prod.fst <$> value fuel aliases key none
      match name with
      | none => return decided
      | some .collection => if decided.isSome then throw .incomparable else refuse
      | some (.scalar m) =>
        if decided.any (·.contains m) then return decided
        let _ ← value fuel aliases v none
        return decided.map (m :: ·)) decided

/-- The names of a mapping, as something to compare with. -/
def names (fuel : Nat) (aliases : List Nat) (es : List (Node × Node)) : Decode (List Meaning) :=
  match fuel with
  | 0 => refuse
  | fuel + 1 =>
    es.foldlM (fun names (key, _) => do
      let (name, decided) ← value fuel aliases key (some names)
      match name with
      | none => return decided.getD names
      | some .collection => throw .incomparable
      | some (.scalar m) => return m :: decided.getD names) []

/-- Decodes the entries of a mapping, first its own and then merged ones. Of
several mappings that are merged, the first one for a name counts. -/
def entries (fuel : Nat) (own : Own) (aliases : List Nat) (es : List (Node × Node))
    (decided : Decided) : Decode Decided :=
  match fuel with
  | 0 => refuse
  | fuel + 1 => do
    if hasRepeats es then
      flaw
      return decided
    let decided ← own aliases es decided
    match es.find? (·.1.isMerge) with
    | none => return decided
    | some (_, source) =>
      let known ← match decided with
        | some known => pure known
        | none => names fuel aliases es
      let known ← source.sources.foldlM (fun known source => do
        match ← visit aliases source with
        | (.mapping _ es, aliases) => return (← entries fuel own aliases es (some known)).getD known
        | _ => refuse) known
      return decided.map fun _ => known

end

end NodeScript.Yaml
