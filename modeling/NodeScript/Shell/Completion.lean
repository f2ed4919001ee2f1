/-
  Completion of a word while a line is being typed.
-/
import NodeScript.Script.Classification

namespace NodeScript

/-- What can stand at the cursor of a line: the text before the word being
typed, the words it may become, and the text after the cursor. -/
structure Completion where
  head : Bytes
  words : List Bytes
  tail : Bytes
  deriving DecidableEq

/-- The completions at a byte position of a line; there are none outside the
line. Words are offered only inside a span, that is, if the last `<` before the
cursor is not followed by a `>`, and then they are the words of the language
that begin with what has been typed since. -/
def complete? (line : Bytes) (position : Int) : Option Completion :=
  if position < 0 ∨ line.length < position then none
  else
    let head := line.take position.toNat
    let tail := line.drop position.toNat
    match Bytes.cutLast? opening head with
    | none => some ⟨head, [], tail⟩
    | some (before, word) =>
      if word.contains closing then some ⟨head, [], tail⟩
      else some ⟨before, keywords.filter (word.isPrefixOf ·), tail⟩

end NodeScript
