/-
  Settings files in TOML.

  A settings file is a table from the names of settings. Upper and lower case of
  names do not matter, and names that are no settings are not looked into. A
  setting of the wrong kind is a mistake.

  A table has no order of its own. So if two names in it stand for one setting,
  because they differ in upper and lower case only, the format does not say
  which of them decides. It is the one that is gone through last, and any order
  will do.
-/
import NodeScript.Settings.Basic
import NodeScript.Settings.Toml.Table
import NodeScript.Text.Case

namespace NodeScript.Toml

/-- The text of a value that has to be one. -/
def Value.text? : Value → Option Bytes
  | .text s => some s
  | _ => none

/-- The truth value of a value that has to be one. -/
def Value.flag? : Value → Option Bool
  | .flag b => some b
  | _ => none

/-- The entries of a value that has to be a table. -/
def Value.entries? : Value → Option Entries
  | .table es => some es
  | _ => none

/-- An order in which the entries of tables are gone through. -/
structure Order where
  visit : Entries → Entries
  perm : ∀ es, (visit es).Perm es

/-- The order in which names first occur in a file. -/
def Order.asWritten : Order := ⟨id, fun _ => .refl _⟩

/-- Adds what an entry says about the settings of diagnostics. -/
def assignLogging (a : Assignment) : Bytes × Value → Option Assignment
  | (name, v) =>
    let name := foldCase name
    if name = utf8 "level" then do return { a with level := ← v.text? }
    else if name = utf8 "format" then do return { a with format := ← v.text? }
    else if name = utf8 "output" then do return { a with output := ← v.text? }
    else if name = utf8 "file" then do return { a with file := ← v.text? }
    else some a

/-- Adds what an entry says about the settings. -/
def assignSetting (order : Order) (a : Assignment) : Bytes × Value → Option Assignment
  | (name, v) =>
    let name := foldCase name
    if name = utf8 "dir" then do return { a with dir := ← v.text? }
    else if name = utf8 "log_file" then do return { a with logFile := ← v.text? }
    else if name = utf8 "history" then do return { a with history := ← v.flag? }
    else if name = utf8 "logging" then do (order.visit (← v.entries?)).foldlM assignLogging a
    else some a

/-- What a file says about the settings, if it has no mistakes. -/
def decode (v : Version) (content : Bytes) (order : Order := .asWritten) : Option Assignment := do
  (order.visit (← rootTable? v content)).foldlM (assignSetting order) {}

end NodeScript.Toml
