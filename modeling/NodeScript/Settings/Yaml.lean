/-
  Settings files in YAML.

  A settings file is a mapping from the names of settings, in a document of its
  own. What stands for nothing leaves a setting alone, and names that are no
  settings are not looked into.
-/
import NodeScript.Settings.Yaml.Entries

namespace NodeScript.Yaml

/-! ### Mappings with fields -/

/-- What is done with the value of a name. -/
abbrev Field := List Nat → Node → Decode Unit

/-- Decodes the entries of a mapping with fields apart from merged ones. No field
is `done` twice. -/
def ownEntries (field : Bytes → Option Field) (aliases : List Nat) :
    List (Node × Node) → (decided : Decided) → (done : List Bytes) → Decode Decided
  | [], decided, _ => return decided
  | (key, value) :: rest, decided, done => do
    if key.isMerge then ownEntries field aliases rest decided done
    else match ← text aliases key with
      | none => ownEntries field aliases rest decided done
      | some name =>
        if decided.any (·.contains (.text name)) then ownEntries field aliases rest decided done
        else
          let decided := decided.map (.text name :: ·)
          match field name with
          | none => ownEntries field aliases rest decided done
          | some f =>
            if done.contains name then flaw else f aliases value
            ownEntries field aliases rest decided (name :: done)

/-- Decodes a node that has to be a mapping, or to stand for nothing. -/
def mapping (fuel : Nat) (field : Bytes → Option Field) : Field := fun aliases n => do
  match ← visit aliases n with
  | (.mapping _ es, aliases) =>
    let own : Own := fun aliases es decided => ownEntries field aliases es decided []
    let _ ← entries fuel own aliases es none
    return
  | (.scalar plain tag s, _) => if (← meaning plain tag s) != .nothing then flaw
  | _ => flaw

/-! ### Settings -/

/-- A field that assigns a text, unless its value stands for nothing. -/
def textField (assign : Bytes → Assignment → Assignment) : Field := fun aliases n => do
  if let some s ← text aliases n then
    modify fun d => { d with found := assign s d.found }

/-- The fields of the settings of diagnostics. -/
def loggingField (name : Bytes) : Option Field :=
  if name = utf8 "level" then some (textField fun s a => { a with level := some s })
  else if name = utf8 "format" then some (textField fun s a => { a with format := some s })
  else if name = utf8 "output" then some (textField fun s a => { a with output := some s })
  else if name = utf8 "file" then some (textField fun s a => { a with file := some s })
  else none

/-- The fields of the settings. -/
def settingsField (fuel : Nat) (name : Bytes) : Option Field :=
  if name = utf8 "dir" then some (textField fun s a => { a with dir := some s })
  else if name = utf8 "log_file" then some (textField fun s a => { a with logFile := some s })
  else if name = utf8 "history" then some fun aliases n => do
    if let some b ← flag aliases n then
      modify fun d => { d with found := { d.found with history := some b } }
  else if name = utf8 "logging" then some (mapping fuel loggingField)
  else none

/-- Decodes a document. On a way through it no alias is met twice, so that the
square of its length is a bound for the length of such ways. -/
def Document.decode (length : Nat) (document : Document) : Except DecodeFailure Assignment := do
  let fuel := (length + 4) * (length + 4)
  let step : Decode Unit := do
    count []
    mapping fuel (settingsField fuel) [] document.root
  let (_, d) ← step.run { anchored := document.anchored }
  if d.flawed then throw .mistaken
  return d.found

/-- What a file says about the settings, if it has no mistakes. -/
def decode (content : Bytes) : Except DecodeFailure Assignment :=
  match Document.ofBytes content with
  | none => .error .mistaken
  | some none => .ok {}
  | some (some document) => document.decode content.length

end NodeScript.Yaml
