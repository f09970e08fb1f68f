import CloudCluster.Yaml.Cursor

/-!
Reading plain scalars.

A plain scalar ends before a comment, before a colon that ends a word, in a
flow collection also before a flow indicator, and where the indentation ends.
-/

namespace CloudCluster.Yaml.Unquoted

open Character

/-- Whether a plain scalar ends at this character. -/
def isEnd (inFlow : Bool) (c : Cursor) (x : Char) : Bool :=
  (x = ':' && isBlankOrEnd (c.peekAt 1)) || (inFlow && isFlowIndicator x)

/-- Whether a colon stands directly before a flow indicator, which no plain
scalar in a flow collection may contain. -/
def isStrayColon (inFlow : Bool) (c : Cursor) (x : Char) : Bool :=
  inFlow && x = ':' && (c.peekAt 1).any fun y => y = '?' || isFlowIndicator y

/-- Reads the characters of a word. -/
def readWord (inFlow : Bool) : Nat → List Char → Cursor → Except Error (List Char × Cursor)
  | 0, done, c => .ok (done.reverse, c)
  | fuel + 1, done, c =>
    match c.peek with
    | none => .ok (done.reverse, c)
    | some x =>
      if isBlankChar x || isBreakChar x then .ok (done.reverse, c)
      else if isStrayColon inFlow c x then .error .unexpectedCharacter
      else if isEnd inFlow c x then .ok (done.reverse, c)
      else readWord inFlow fuel (x :: done) (c.skip 1)

/-- Reads the white space behind a word; no tab may stand where indentation by
`indent` is expected. -/
def readGap (indent : Int) : Nat → Gap → Cursor → Except Error (Gap × Cursor)
  | 0, gap, c => .ok (gap, c)
  | fuel + 1, gap, c =>
    match c.peek with
    | none => .ok (gap, c)
    | some x =>
      if isBlankChar x then
        if gap.broken && c.column < indent && x = '\t' then .error .tabInIndentation
        else readGap indent fuel (gap.addBlank x) (c.skip 1)
      else if isBreakChar x then
        let (text, c) := c.takeBreak
        readGap indent fuel (gap.addBreak text) c
      else .ok (gap, c)

/-- Reads words and the gaps between them. Answers the text, whether a line
break was read behind it, and the cursor. -/
def readWords (inFlow : Bool) (indent : Int) :
    Nat → List Char → Gap → Cursor → Except Error (List Char × Bool × Cursor)
  | 0, done, gap, c => .ok (done, gap.broken, c)
  | fuel + 1, done, gap, c =>
    if c.isAtDocumentMarker || c.isAt '#' then .ok (done, gap.broken, c)
    else do
      let (word, c) ← readWord inFlow c.rest.length [] c
      let (done, gap) := if word.isEmpty then (done, gap) else (done ++ gap.fold ++ word, {})
      if isBlank c.peek || isBreak c.peek then
        let (gap, c) ← readGap indent c.rest.length gap c
        if !inFlow && c.column < indent then return (done, gap.broken, c)
        readWords inFlow indent fuel done gap c
      else return (done, gap.broken, c)

/-- Reads a plain scalar inside a collection that is indented by `parent`.
Answers also whether a line break was read behind it. -/
def read (inFlow : Bool) (parent : Int) (c : Cursor) :
    Except Error (String × Bool × Cursor) := do
  let (text, broken, c) ← readWords inFlow (parent + 1) (c.rest.length + 1) [] {} c
  return (String.ofList text, broken, c)

end CloudCluster.Yaml.Unquoted
