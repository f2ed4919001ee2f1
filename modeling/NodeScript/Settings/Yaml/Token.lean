/-
  The tokens of YAML.

  Tokens are the indicators of the language, and its names and scalars. Where a
  block starts or ends shows only in the indentation; there are tokens for it
  all the same, so that whatever reads the tokens need not know columns.
-/
import NodeScript.Text.Bytes

namespace NodeScript.Yaml

/-- A token. -/
inductive Token where
  | streamStart
  | streamEnd
  /-- The directive that gives the version of the language. -/
  | version (major minor : Nat)
  /-- The directive that says what a handle of tags stands for. -/
  | handle (name meaning : Bytes)
  | documentStart
  | documentEnd
  | blockSequenceStart
  | blockMappingStart
  | blockEnd
  | flowSequenceStart
  | flowSequenceEnd
  | flowMappingStart
  | flowMappingEnd
  /-- The dash before an item of a block sequence. -/
  | blockEntry
  /-- The comma between items in brackets or braces. -/
  | flowEntry
  /-- The start of a key, whether it is written or not. -/
  | key
  /-- The colon before a value. -/
  | value
  | alias (name : Bytes)
  | anchor (name : Bytes)
  | tag (handle suffix : Bytes)
  /-- A scalar and whether it is written without quotes or marks. -/
  | scalar (plain : Bool) (text : Bytes)
  deriving DecidableEq

end NodeScript.Yaml
