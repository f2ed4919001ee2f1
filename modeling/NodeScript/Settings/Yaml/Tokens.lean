/-
  From characters to tokens.

  Each step finds one token, and the tokens that the indentation asks for before
  it. What is taken from the queue is settled: no simple key can turn up in
  front of it any more, and two further tokens have been found, as far as there
  are any. So a mistake shortly behind the end of a document is noticed.
-/
import NodeScript.Settings.Yaml.Comment
import NodeScript.Settings.Yaml.Tag

namespace NodeScript.Yaml

namespace Lex

/-! ### Single tokens -/

/-- Adds the token of an indicator of one character. -/
def pushIndicator (t : Token) : Lex Unit := do
  skip
  push t

/-- The end of the file, which ends all blocks. -/
def fetchStreamEnd : Lex Unit := do
  modify fun l =>
    if l.mark.column == 0 then l
    else { l with mark := { l.mark with line := l.mark.line + 1, column := 0 } }
  closeBlocks (-1)
  dropKey
  allowKey false
  push .streamEnd

/-- A directive, which ends all blocks. -/
def fetchDirective : Lex Unit := do
  closeBlocks (-1)
  dropKey
  allowKey false
  push (← readDirective)

/-- A marker, which ends all blocks. -/
def fetchMarker (t : Token) : Lex Unit := do
  closeBlocks (-1)
  dropKey
  allowKey false
  skip
  skip
  skip
  push t

/-- An opening bracket. Brackets may be a simple key, and start with one. -/
def fetchOpening (t : Token) : Lex Unit := do
  saveKey
  enter
  allowKey true
  pushIndicator t

/-- A closing bracket. -/
def fetchClosing (t : Token) : Lex Unit := do
  dropKey
  leave
  allowKey false
  pushIndicator t

/-- A comma, after which a simple key may start. -/
def fetchFlowEntry : Lex Unit := do
  dropKey
  allowKey true
  pushIndicator .flowEntry

/-- The dash of an item. In a block it may start a sequence, where a simple key
may start. -/
def fetchBlockEntry : Lex Unit := do
  if !(← inFlow) then
    if !(← get).keyAllowed then failure
    openBlock (← column) (← nextNumber) .blockSequenceStart
  dropKey
  allowKey true
  pushIndicator .blockEntry

/-- The mark of a key that is not simple. In a block it may start a mapping,
where a simple key may start. -/
def fetchKey : Lex Unit := do
  if !(← inFlow) then
    if !(← get).keyAllowed then failure
    openBlock (← column) (← nextNumber) .blockMappingStart
  dropKey
  allowKey (!(← inFlow))
  pushIndicator .key

/-- The colon before a value. If what is before it may be a simple key, it is
one, and may start a mapping; if not, the value belongs to the key with a mark
before it, or to none. -/
def fetchValue : Lex Unit := do
  if ← confirmKey (← get).depth then
    let key := (← get).key
    insert key.token .key
    openBlock key.mark.column key.token .blockMappingStart
    modify fun l => { l with
      key := { key with possible := false }
      keyDepths := l.keyDepths.filter (·.1 != key.token) }
    allowKey false
  else
    if !(← inFlow) then
      if !(← get).keyAllowed then failure
      openBlock (← column) (← nextNumber) .blockMappingStart
    allowKey (!(← inFlow))
  pushIndicator .value

/-- A token that may be a simple key, and after which none may start. -/
def fetchWord (read : Lex Token) : Lex Unit := do
  saveKey
  allowKey false
  push (← read)

/-- A scalar of whole lines, which is no simple key, and after which one may
start. -/
def fetchBlock (folded : Bool) : Lex Unit := do
  dropKey
  allowKey true
  push (← readBlock folded)

/-- Whether a character is an indicator, with which no scalar without quotes can
start, unless it is one of those for which the character after it decides. -/
def isIndicator (c : Char) : Bool :=
  c == '-' || c == '?' || c == ':' || c == ',' || c == '[' || c == ']' || c == '\x7b' || c == '\x7d'
    || c == '#' || c == '&' || c == '*' || c == '!' || c == '|' || c == '>' || c == singleQuote
    || c == doubleQuote || c == '%' || c == '@' || c == '\x60'

/-- The token that starts with a character, which stands before another one. -/
def fetchToken (c next : Char) : Lex Unit := do
  let flow ← inFlow
  if c == '[' then fetchOpening .flowSequenceStart
  else if c == '\x7b' then fetchOpening .flowMappingStart
  else if c == ']' then fetchClosing .flowSequenceEnd
  else if c == '\x7d' then fetchClosing .flowMappingEnd
  else if c == ',' then fetchFlowEntry
  else if c == '-' && isGap next then fetchBlockEntry
  else if c == '?' && (flow || isGap next) then fetchKey
  else if c == ':' && (flow || isGap next) then fetchValue
  else if c == '*' then fetchWord do return .alias (← readAnchorName)
  else if c == '&' then fetchWord do return .anchor (← readAnchorName)
  else if c == '!' then fetchWord readTag
  else if c == '|' && !flow then fetchBlock false
  else if c == '>' && !flow then fetchBlock true
  else if c == singleQuote || c == doubleQuote then fetchWord (readQuoted c)
  else if !(isGap c || isIndicator c) || c == '-' || (!flow && (c == '?' || c == ':')) then
    fetchWord readPlain
  else failure

/-! ### The next token -/

/-- Finds the next token. A comment on its line is passed over with it, except
after a dash: there it belongs to the item. -/
def fetchNext : Lex Unit := do
  need 1
  if !(← get).started then
    modify fun l => { l with started := true }
    push .streamStart
  else
    skipToToken
    closeBlocks (← column)
    need 4
    let c ← peek 0
    if c == endOfFile then fetchStreamEnd
    else if (← column) == 0 && c == '%' then fetchDirective
    else if ← atMarker '-' then fetchMarker .documentStart
    else if ← atMarker '.' then fetchMarker .documentEnd
    else
      fetchToken c (← peek 1)
      if (← get).queue.getLast? != some .blockEntry then skipLineComment

/-- Whether more tokens have to be found before the first one of the queue is
settled. -/
def wantsMore : Lex Bool := do
  let l ← get
  if l.queue.length < 3 then return true
  else match l.keyDepths.lookup l.taken with
    | none => return false
    | some depth => confirmKey depth

/-- The first token of the queue, once it is settled. -/
def next : Lex Token := do
  if !(← get).settled then
    again do
      if ← wantsMore then
        fetchNext
        return true
      else return false
    modify fun l => { l with settled := true }
  match (← get).queue with
  | t :: _ => return t
  | [] => failure

/-- Takes the first token of the queue. -/
def take : Lex Unit := modify fun l =>
  { l with queue := l.queue.tail, taken := l.taken + 1, settled := false }

end Lex

end NodeScript.Yaml
