import CloudCluster.Yaml.Token.Block
import CloudCluster.Yaml.Token.Name
import CloudCluster.Yaml.Token.Quoted
import CloudCluster.Yaml.Token.Unquoted

/-!
Cutting a YAML text into tokens.

A key of a block mapping is known as such only when the colon behind it is
read. So each place where a key may begin is remembered as a `PendingKey`, and
the colon splices the tokens that start the key, and with it perhaps a block
mapping, into the tokens already read. Indentation is kept as a stack of
columns; leaving a column ends its block collection.
-/

namespace CloudCluster.Yaml

open Character

/-- A place where a key may have begun. It is required to be one if it stands
exactly at the indentation of a block collection. -/
structure PendingKey where
  required : Bool
  position : Nat
  index : Nat
  line : Nat
  column : Nat

/-- A text that is cut into tokens up to some place. There is one optional
pending key for the block level and one for each flow collection around the
place, and one indentation for each block collection around it. -/
structure Scanner where
  cursor : Cursor
  tokens : Array Token := #[]
  indent : Int := -1
  outerIndents : List Int := []
  keyAllowed : Bool := true
  pending : Option PendingKey := none
  outerPending : List (Option PendingKey) := []

namespace Scanner

/-- Whether the place is inside a flow collection. -/
def inFlow (s : Scanner) : Bool := !s.outerPending.isEmpty

/-- Adds a token. -/
def push (s : Scanner) (token : Token) : Scanner :=
  { s with tokens := s.tokens.push token }

/-- Moves to another place. -/
def moveTo (s : Scanner) (c : Cursor) : Scanner := { s with cursor := c }

/-- Sets whether a key may begin next. -/
def allowKey (s : Scanner) (allowed : Bool) : Scanner :=
  { s with keyAllowed := allowed }

/-- Starts a block collection if the column is beyond the indentation; its
first token goes to `position`. -/
def indentTo (s : Scanner) (column : Nat) (position : Nat) (start : Token) : Scanner :=
  if s.inFlow || (column : Int) ≤ s.indent then s
  else
    { s with
      tokens := s.tokens.insertIdxIfInBounds position start
      indent := column
      outerIndents := s.indent :: s.outerIndents }

/-- Pops the indentations beyond a column, with one token for each. -/
def popIndents (column : Int) : Int → List Int → Array Token → Int × List Int × Array Token
  | indent, [], tokens => (indent, [], tokens)
  | indent, outer :: rest, tokens =>
    if column < indent then popIndents column outer rest (tokens.push .blockEnd)
    else (indent, outer :: rest, tokens)

/-- Ends the block collections that are indented beyond a column. -/
def unindentTo (s : Scanner) (column : Int) : Scanner :=
  if s.inFlow then s
  else
    let (indent, outerIndents, tokens) := popIndents column s.indent s.outerIndents s.tokens
    { s with indent, outerIndents, tokens }

/-- Gives up the innermost pending key. -/
def dropPending (s : Scanner) : Except Error Scanner :=
  if s.pending.any (·.required) then .error .missingKeyIndicator
  else .ok { s with pending := none }

/-- Remembers that a key may begin here. -/
def savePending (s : Scanner) : Except Error Scanner :=
  if s.keyAllowed then do
    let required := !s.inFlow && s.indent = (s.cursor.column : Int)
    let s ← s.dropPending
    return { s with
      pending := some {
        required
        position := s.tokens.size
        index := s.cursor.index
        line := s.cursor.line
        column := s.cursor.column } }
  else .ok s

/-- The pending key if it may still be completed at a place: a key stands on
one line and is at most 1024 characters long. -/
def freshKey (c : Cursor) (key : Option PendingKey) : Except Error (Option PendingKey) :=
  match key with
  | none => .ok none
  | some k =>
    if k.line < c.line || k.index + 1024 < c.index then
      if k.required then .error .missingKeyIndicator else .ok none
    else .ok (some k)

/-- Gives up the pending keys that can no longer be completed. -/
def dropStale (s : Scanner) : Except Error Scanner := do
  let outerPending ← s.outerPending.mapM (freshKey s.cursor)
  let pending ← freshKey s.cursor s.pending
  return { s with pending, outerPending }

/-- Moves over white space, comments and line breaks. Tabs count as white space
only where they cannot be taken for indentation. -/
def skipToToken (inFlow : Bool) : Nat → Bool → Cursor → Bool × Cursor
  | 0, keyAllowed, c => (keyAllowed, c)
  | fuel + 1, keyAllowed, c =>
    let c := if c.index = 0 && c.isAt byteOrderMark then c.skip 1 else c
    let c := c.skipWhile fun x => x = ' ' || (x = '\t' && (inFlow || !keyAllowed))
    let c := if c.isAt '#' then c.skipWhile (!isBreakChar ·) else c
    if isBreak c.peek then skipToToken inFlow fuel (keyAllowed || !inFlow) c.skipBreak
    else (keyAllowed, c)

/-- Ends everything that is open at the end of the text. -/
def finish (s : Scanner) : Except Error Scanner :=
  (s.unindentTo (-1)).dropPending

/-- Reads a directive or a document marker: it ends all block collections. -/
def endBlocks (s : Scanner) : Except Error Scanner := do
  let s ← (s.unindentTo (-1)).dropPending
  return s.allowKey false

/-- Reads a bracket or brace that opens a flow collection. -/
def openFlow (s : Scanner) (token : Token) : Except Error Scanner := do
  let s ← s.savePending
  let s := { s with pending := none, outerPending := s.pending :: s.outerPending }
  return ((s.allowKey true).moveTo (s.cursor.skip 1)).push token

/-- Reads a bracket or brace that closes a flow collection. -/
def closeFlow (s : Scanner) (token : Token) : Except Error Scanner := do
  let s ← s.dropPending
  let s := match s.outerPending with
    | [] => s
    | pending :: outerPending => { s with pending, outerPending }
  return ((s.allowKey false).moveTo (s.cursor.skip 1)).push token

/-- Reads the comma of a flow collection. -/
def flowEntry (s : Scanner) : Except Error Scanner := do
  let s ← s.dropPending
  return ((s.allowKey true).moveTo (s.cursor.skip 1)).push .flowEntry

/-- Starts a block collection at the cursor, where one may begin. -/
def indentHere (s : Scanner) (start : Token) (error : Error) : Except Error Scanner :=
  if s.inFlow then .ok s
  else if s.keyAllowed then .ok (s.indentTo s.cursor.column s.tokens.size start)
  else .error error

/-- Reads the dash of a block sequence. -/
def blockEntry (s : Scanner) : Except Error Scanner := do
  let s ← s.indentHere .blockSequenceStart .blockEntryNotAllowed
  let s ← s.dropPending
  return ((s.allowKey true).moveTo (s.cursor.skip 1)).push .blockEntry

/-- Reads the question mark before a key. -/
def explicitKey (s : Scanner) : Except Error Scanner := do
  let s ← s.indentHere .blockMappingStart .keyNotAllowed
  let s ← s.dropPending
  return ((s.allowKey (!s.inFlow)).moveTo (s.cursor.skip 1)).push .key

/-- Reads the colon before a value. If a key is pending it is one. -/
def value (s : Scanner) : Except Error Scanner := do
  let s ← match s.pending with
    | some key =>
      let s := { s with tokens := s.tokens.insertIdxIfInBounds key.position .key, pending := none }
      pure ((s.indentTo key.column key.position .blockMappingStart).allowKey false)
    | none => do
      let s ← s.indentHere .blockMappingStart .valueNotAllowed
      pure (s.allowKey (!s.inFlow))
  return (s.moveTo (s.cursor.skip 1)).push .value

/-- Reads an anchor, an alias, a tag or a quoted scalar, where a key may begin. -/
def node (s : Scanner) (read : Cursor → Except Error (Token × Cursor)) :
    Except Error Scanner := do
  let s ← s.savePending
  let (token, c) ← read s.cursor
  return ((s.allowKey false).moveTo c).push token

/-- Reads a block scalar. -/
def blockScalar (s : Scanner) (folded : Bool) : Except Error Scanner := do
  let s ← s.dropPending
  let (text, c) ← Block.read folded s.indent s.cursor
  return ((s.allowKey true).moveTo c).push (.scalar text .block)

/-- Reads a plain scalar. -/
def plainScalar (s : Scanner) : Except Error Scanner := do
  let s ← s.savePending
  let (text, broken, c) ← Unquoted.read s.inFlow s.indent s.cursor
  return ((s.allowKey broken).moveTo c).push (.scalar text .plain)

/-- Reads the token that begins with the character `x`. -/
def readToken (s : Scanner) (x : Char) : Except Error Scanner :=
  let c := s.cursor
  let next := c.peekAt 1
  if c.column = 0 && x = '%' then do
    let s ← s.endBlocks
    let (token, c) ← Token.readDirective c
    return (s.moveTo c).push token
  else if c.isAtMarker '-' then do
    return ((← s.endBlocks).moveTo (c.skip 3)).push .documentStart
  else if c.isAtMarker '.' then do
    return ((← s.endBlocks).moveTo (c.skip 3)).push .documentEnd
  else if x = '[' then s.openFlow .flowSequenceStart
  else if x = '\x7b' then s.openFlow .flowMappingStart
  else if x = ']' then s.closeFlow .flowSequenceEnd
  else if x = '\x7d' then s.closeFlow .flowMappingEnd
  else if x = ',' then s.flowEntry
  else if x = '-' && isBlankOrEnd next then s.blockEntry
  else if x = '?' && (s.inFlow || isBlankOrEnd next) then s.explicitKey
  else if x = ':' && (s.inFlow || isBlankOrEnd next) then s.value
  else if x = '*' then s.node fun c => (Token.readAnchor c).map fun r => (.alias r.1, r.2)
  else if x = '&' then s.node fun c => (Token.readAnchor c).map fun r => (.anchor r.1, r.2)
  else if x = '!' then s.node (Token.readTag s.inFlow)
  else if x = '|' && !s.inFlow then s.blockScalar false
  else if x = '>' && !s.inFlow then s.blockScalar true
  else if x = '\'' then s.node fun c =>
    (Quoted.read '\'' c).map fun r => (.scalar r.1 .singleQuoted, r.2)
  else if x = '"' then s.node fun c =>
    (Quoted.read '"' c).map fun r => (.scalar r.1 .doubleQuoted, r.2)
  else if (!isIndicator x && !isBlankChar x) || (x = '-' && !isBlank next) ||
      (!s.inFlow && (x = '?' || x = ':') && !isBlankOrEnd next) then s.plainScalar
  else .error .unexpectedCharacter

/-- Moves to the next token and reads it, until the text ends. Each step but
the last takes a character. -/
def run : Nat → Scanner → Except Error Scanner
  | 0, s => .ok s
  | fuel + 1, s => do
    let (keyAllowed, c) := skipToToken s.inFlow (s.cursor.rest.length + 1) s.keyAllowed s.cursor
    let s ← { s with keyAllowed, cursor := c }.dropStale
    let s := s.unindentTo c.column
    match c.peek with
    | none => s.finish
    | some x => run fuel (← s.readToken x)

end Scanner

namespace Token

/-- The tokens of a text. -/
def scan (text : String) : Except Error (List Token) := do
  let chars := text.toList
  match chars.find? (!isReadable ·) with
  | some c => throw (.unreadableCharacter c.toNat)
  | none => pure ()
  let s ← Scanner.run (chars.length + 1) { cursor := { rest := chars } }
  return s.tokens.toList

end Token

end CloudCluster.Yaml
