/-
  Texts that are only added to.

  What is written to a stream or to a journal is kept piece by piece, the latest
  piece first, so that adding to a text takes the same time however long it has
  become.
-/
import NodeScript.Text.Bytes

namespace NodeScript

/-- A text that grows at its end. -/
structure Transcript where
  /-- What was added, the latest first. -/
  pieces : List Bytes := []
  deriving DecidableEq

namespace Transcript

/-- The whole text. -/
def text (t : Transcript) : Bytes := t.pieces.reverse.flatten

/-- Adds to the end of a text. -/
def write (t : Transcript) (s : Bytes) : Transcript := ⟨s :: t.pieces⟩

/-- What is written comes after what was there. -/
@[simp]
theorem text_write (t : Transcript) (s : Bytes) : (t.write s).text = t.text ++ s := by
  simp [text, write]

/-- At first there is nothing. -/
@[simp]
theorem text_empty : (⟨[]⟩ : Transcript).text = [] := rfl

end Transcript

end NodeScript
