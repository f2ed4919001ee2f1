/-
  Anchors, aliases, tags and directives: what is written about a node in front
  of it, and about a document in front of that.
-/
import NodeScript.Settings.Yaml.Scalar

namespace NodeScript.Yaml

/-! ### Anchors and aliases -/

/-- Whether the name of an anchor may end before a character. -/
def endsAnchor (c : Char) : Bool :=
  isGap c || c == '?' || c == ':' || c == ',' || c == ']' || c == '\x7d' || c == '%' || c == '@'
    || c == '\x60'

/-- Reads the name of an anchor or an alias after its mark. -/
def readAnchorName : Lex Bytes := do
  Lex.skip
  let name ← Lex.readWhile isNameChar
  if name.isEmpty || !endsAnchor (← Lex.peek 0) then failure
  return encode name

/-! ### Tags -/

/-- Whether a character may stand in a tag. -/
def isTagChar (c : Char) : Bool :=
  isNameChar c || c == ';' || c == '/' || c == '?' || c == ':' || c == '@' || c == '&' || c == '='
    || c == '+' || c == '$' || c == ',' || c == '.' || c == '!' || c == '~' || c == '*'
    || c == singleQuote || c == '(' || c == ')' || c == '[' || c == ']' || c == '%'

/-- Reads a byte that is written as a percent sign and two hexadecimal
digits. -/
def readOctet : Lex UInt8 := do
  Lex.need 3
  match ← Lex.peek 0, hexDigit? (← Lex.peek 1), hexDigit? (← Lex.peek 2) with
  | '%', some a, some b =>
    Lex.skip
    Lex.skip
    Lex.skip
    return (16 * a + b).toUInt8
  | _, _, _ => failure

/-- Reads the bytes of one character, each written as an octet. -/
def readOctets : Lex Bytes := do
  let b ← readOctet
  if width b = 0 then failure
  return b :: (← go (width b - 1))
where
  /-- So many further bytes. -/
  go : Nat → Lex Bytes
    | 0 => return []
    | n + 1 => do
      let b ← readOctet
      if (continuation? b).isNone then failure
      return b :: (← go n)

/-- Reads the characters of a tag. -/
def readTagChars : Lex Bytes := do go (← get).bound
where
  /-- At most so many characters. -/
  go : Nat → Lex Bytes
    | 0 => failure
    | n + 1 => do
      Lex.need 1
      let c ← Lex.peek 0
      if c == '%' then
        let octets ← readOctets
        return octets ++ (← go n)
      else if isTagChar c then
        Lex.skip
        return c.toNat.toUInt8 :: (← go n)
      else return []

/-- Reads characters of a tag, of which there has to be one. -/
def readSomeTagChars : Lex Bytes := do
  let s ← readTagChars
  if s.isEmpty then failure
  return s

/-- Reads a name after an exclamation mark, and one more mark if it follows. -/
def readHandle : Lex (Bytes × Bool) := do
  Lex.need 1
  if (← Lex.peek 0) != '!' then failure
  Lex.skip
  let name ← Lex.readWhile isNameChar
  if (← Lex.peek 0) == '!' then
    Lex.skip
    return (encode ('!' :: name ++ ['!']), true)
  else return (encode ('!' :: name), false)

/-- Reads a tag: one in angle brackets, which is complete; or a handle between
exclamation marks and what is added to its meaning; or an exclamation mark and
what is added to it. The exclamation mark alone is a complete tag. -/
def readTag : Lex Token := do
  Lex.need 2
  let t ← if (← Lex.peek 1) == '<' then do
      Lex.skip
      Lex.skip
      let suffix ← readSomeTagChars
      if (← Lex.peek 0) != '>' then failure
      Lex.skip
      pure (Token.tag [] suffix)
    else do
      let (handle, closed) ← readHandle
      if closed then pure (Token.tag handle (← readSomeTagChars))
      else
        let suffix := handle.tail ++ (← readTagChars)
        pure (if suffix.isEmpty then Token.tag [] handle else Token.tag [33] suffix)
  Lex.need 1
  if !isGap (← Lex.peek 0) then failure
  return t

/-! ### Directives -/

/-- Reads a number of one or two digits. -/
def readVersionNumber : Lex Nat := do
  let digits ← Lex.readWhile Char.isDigit
  if digits.isEmpty || 2 < digits.length then failure
  return Bytes.digitsValue (encode digits)

/-- Reads the version of the language. -/
def readVersion : Lex Token := do
  Lex.skipWhile isBlankChar
  let major ← readVersionNumber
  if (← Lex.peek 0) != '.' then failure
  Lex.skip
  return .version major (← readVersionNumber)

/-- Reads a handle of tags and what it stands for. -/
def readHandleMeaning : Lex Token := do
  Lex.skipWhile isBlankChar
  let (name, closed) ← readHandle
  if !closed && name != [33] then failure
  Lex.need 1
  if !isBlankChar (← Lex.peek 0) then failure
  Lex.skipWhile isBlankChar
  let meaning ← readSomeTagChars
  Lex.need 1
  if !isGap (← Lex.peek 0) then failure
  return .handle name meaning

/-- Reads a directive with the rest of its line. -/
def readDirective : Lex Token := do
  Lex.skip
  let name := encode (← Lex.readWhile isNameChar)
  if name.isEmpty || !isGap (← Lex.peek 0) then failure
  let t ←
    if name = utf8 "YAML" then readVersion
    else if name = utf8 "TAG" then readHandleMeaning
    else failure
  readLineEnd
  return t

end NodeScript.Yaml
