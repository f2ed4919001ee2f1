/-
  From the text of a span to the kind of its command.

  A kind is recognised by a word that the trimmed text begins with, or, for one
  kind, contains anywhere. The rules are tried in order and the first that
  matches decides.
-/
import NodeScript.Script.Command
import NodeScript.Text.Blank

namespace NodeScript

/-- Where in the trimmed text the word of a rule has to stand. -/
inductive Placement where
  | atStart
  | anywhere
  deriving DecidableEq

/-- A rule of classification: this word, at this place, means this kind. -/
structure Rule where
  kind : Kind
  word : Bytes
  placement : Placement
  deriving DecidableEq

/-- Whether a rule applies to a trimmed text. -/
def Rule.matches (r : Rule) (s : Bytes) : Bool :=
  match r.placement with
  | .atStart => r.word.isPrefixOf s
  | .anywhere => Bytes.containsWord r.word s

/-- The rules of the language in the order in which they are tried. -/
def rules : List Rule :=
  [⟨.start, utf8 "Start(", .atStart⟩,
   ⟨.stop, utf8 "Stop(", .atStart⟩,
   ⟨.setApi, utf8 "NodeAPI", .anywhere⟩,
   ⟨.connect, utf8 "Conect", .atStart⟩,
   ⟨.stat, utf8 "Stat", .atStart⟩,
   ⟨.log, utf8 "LOG", .atStart⟩,
   ⟨.exportOutput, utf8 "out", .atStart⟩,
   ⟨.compress, utf8 "short", .atStart⟩,
   ⟨.standalone, utf8 "alone", .atStart⟩,
   ⟨.send, utf8 "send", .atStart⟩]

/-- The kind that a list of rules gives to a text. -/
def classifyBy (rs : List Rule) (s : Bytes) : Kind :=
  match rs.find? (·.matches (trim s)) with
  | some r => r.kind
  | none => .unrecognized

/-- The kind of a span's text. -/
def classify (s : Bytes) : Kind := classifyBy rules s

/-- The words of the language in the order of the rules. -/
def keywords : List Bytes := rules.map (·.word)

/-- The command that a span asks for. -/
def Span.command (s : Span) : Command := ⟨classify s.text, s.text, s.place⟩

end NodeScript
