/-
  Diagnostics events and their two one-line forms.
-/
import NodeScript.Diagnostics.Level
import NodeScript.Text.Quoted

namespace NodeScript

/-- Something that happened, with named values in the order in which they were
given. -/
structure Event where
  level : Level
  fields : List (Bytes × Bytes) := []
  message : Bytes := []
  deriving DecidableEq

namespace Event

/-- The name of the field that holds an error's text. -/
def errorField : Bytes := utf8 "error"

/-! ### One JSON object to a line -/

/-- All that is written of an event, by name: the level unless it is unset, the
fields, the time if there is a clock, and the message unless it is empty. A
field may have the name of one of the others. -/
def members (time : Option Bytes) (e : Event) : List (Bytes × Bytes) :=
  let level := if e.level = .unset then [] else [(utf8 "level", e.level.name)]
  let message := if e.message.isEmpty then [] else [(utf8 "message", e.message)]
  level ++ e.fields ++ time.toList.map (utf8 "time", ·) ++ message

/-- One member of a JSON object. -/
def jsonMember (field : Bytes × Bytes) : Bytes :=
  jsonString field.1 ++ [colon] ++ jsonString field.2

/-- The event as a JSON object on a line of its own. -/
def json (time : Option Bytes) (e : Event) : Bytes :=
  [openingBrace] ++ Bytes.join [comma] ((e.members time).map jsonMember) ++ [closingBrace, newline]

/-! ### The console line -/

/-- Whether a value has to be quoted on the console: it holds a space, a control
character, a quote, a backslash or anything beyond ASCII. -/
def needsQuotes (s : Bytes) : Bool :=
  s.any fun b => b < 0x21 || 0x7E < b || b == doubleQuote || b == backslash

/-- One field on the console. -/
def consoleField (field : Bytes × Bytes) : Bytes :=
  field.1 ++ [equalsSign] ++ (if needsQuotes field.2 then doubleQuoted field.2 else field.2)

/-- The members in ascending order of their names, each name once, with the last
value that was given for it. Stray bytes have become replacement characters. -/
def record (members : List (Bytes × Bytes)) : List (Bytes × Bytes) :=
  let readable := members.map fun (name, value) => (replaceStray name, replaceStray value)
  (lastOfEach readable).mergeSort fun a b => Bytes.le a.1 b.1
where
  /-- The members after which no other has the same name. -/
  lastOfEach : List (Bytes × Bytes) → List (Bytes × Bytes)
    | [] => []
    | m :: ms => if ms.any (·.1 == m.1) then lastOfEach ms else m :: lastOfEach ms

/-- The names of the members that have a place of their own on the console. -/
def placedNames : List Bytes := [utf8 "time", utf8 "level", utf8 "caller", utf8 "message"]

/-- The remaining fields in the order of the console: the error first, the
others by name. -/
def consoleFields (record : List (Bytes × Bytes)) : List (Bytes × Bytes) :=
  let (errors, others) := (record.filter fun m => !placedNames.contains m.1).partition
    (·.1 == errorField)
  errors ++ others

/-- The event on a line for people to read: time, level, caller, message and
fields with single spaces between those that are not empty. -/
def console (time : Option Bytes) (e : Event) : Bytes :=
  let record := record (e.members time)
  let value (name : String) : Bytes := (record.lookup (utf8 name)).getD []
  let caller := value "caller"
  let parts := [value "time", Level.shortForm (value "level"),
      if caller.isEmpty then [] else caller ++ utf8 " >", value "message"]
    ++ (consoleFields record).map consoleField
  Bytes.join [space] (parts.filter (!·.isEmpty)) ++ [newline]

end Event

end NodeScript
