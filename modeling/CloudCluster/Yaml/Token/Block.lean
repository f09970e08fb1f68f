import CloudCluster.Yaml.Cursor

/-!
Reading block scalars.

A literal scalar keeps its line breaks and a folded one joins lines that begin
with no blank. The header may give the indentation and what becomes of the
line breaks at the end: all but one are dropped, or all, or none.
-/

namespace CloudCluster.Yaml.Block

open Character

/-- What becomes of the line breaks at the end of a block scalar. -/
inductive Chomping where
  | clip
  | strip
  | keep
  deriving DecidableEq, Repr

/-- The header of a block scalar: the indentation, relative to the parent, is
found from the text if it is not given. -/
structure Header where
  chomping : Chomping := .clip
  indentation : Option Nat := none

/-- Reads an optional chomping indicator. -/
def readChomping (c : Cursor) : Option Chomping × Cursor :=
  if c.isAt '+' then (some .keep, c.skip 1)
  else if c.isAt '-' then (some .strip, c.skip 1)
  else (none, c)

/-- Reads an optional indentation indicator, a digit other than zero. -/
def readIndentation (c : Cursor) : Except Error (Option Nat × Cursor) :=
  match c.peek with
  | some x =>
    if x = '0' then .error .badBlockHeader
    else if x.isDigit then .ok (some (x.toNat - '0'.toNat), c.skip 1)
    else .ok (none, c)
  | none => .ok (none, c)

/-- Reads the header, up to the start of the next line. -/
def readHeader (c : Cursor) : Except Error (Header × Cursor) := do
  let (first, c) := readChomping c
  let (indentation, c) ← readIndentation c
  let (chomping, c) := match first with
    | some chomping => (chomping, c)
    | none =>
      if indentation.isSome then
        let (second, c) := readChomping c
        (second.getD .clip, c)
      else (.clip, c)
  let c := c.skipBlanksAndComment
  if !isBreakOrEnd c.peek then throw .badBlockHeader
  return ({ chomping, indentation }, c.skipBreak)

/-- Reads empty lines and the indentation behind them; without a known
indentation, spaces of any number count. Answers the breaks, the greatest
column reached and the cursor. -/
def readEmptyLines (indent : Option Nat) :
    Nat → List Char → Nat → Cursor → Except Error (List Char × Nat × Cursor)
  | 0, breaks, deepest, c => .ok (breaks, deepest, c)
  | fuel + 1, breaks, deepest, c =>
    let spaces := (c.rest.takeWhile (· = ' ')).length
    let c := c.skip (match indent with
      | none => spaces
      | some n => min spaces (n - c.column))
    let deepest := max deepest c.column
    let inIndentation := match indent with
      | none => true
      | some n => c.column < n
    if inIndentation && c.isAt '\t' then .error .tabInIndentation
    else if isBreak c.peek then
      let (text, c) := c.takeBreak
      readEmptyLines indent fuel (breaks ++ text) deepest c
    else .ok (breaks, deepest, c)

/-- The line breaks between the last line read and the next one. -/
structure Pending where
  lineBreak : List Char := []
  emptyLines : List Char := []
  afterBlank : Bool := false

/-- What the breaks before a line are read as. -/
def Pending.join (pending : Pending) (folded startsBlank : Bool) : List Char :=
  if folded && pending.lineBreak = ['\n'] && !pending.afterBlank && !startsBlank then
    if pending.emptyLines.isEmpty then [' '] else pending.emptyLines
  else pending.lineBreak ++ pending.emptyLines

/-- Reads the lines at an indentation; `done` is what is read already. -/
def readLines (folded : Bool) (indent : Nat) :
    Nat → List Char → Pending → Cursor → Except Error (List Char × Pending × Cursor)
  | 0, done, pending, c => .ok (done, pending, c)
  | fuel + 1, done, pending, c =>
    if c.column = indent && c.peek.isSome then do
      let startsBlank := isBlank c.peek
      let before := pending.join folded startsBlank
      let (line, c) := c.takeWhile (!isBreakChar ·)
      let (lineBreak, c) := c.takeBreak
      let (emptyLines, _, c) ← readEmptyLines (some indent) (c.rest.length + 1) [] 0 c
      readLines folded indent fuel (done ++ before ++ line)
        { lineBreak, emptyLines, afterBlank := startsBlank } c
    else .ok (done, pending, c)

/-- Reads a block scalar, at its indicator, inside a collection that is indented
by `parent`, which is negative outside of all. -/
def read (folded : Bool) (parent : Int) (c : Cursor) : Except Error (String × Cursor) := do
  let (header, c) ← readHeader (c.skip 1)
  let known := header.indentation.map fun n => (max parent 0).toNat + n
  let (emptyLines, deepest, c) ← readEmptyLines known (c.rest.length + 1) [] 0 c
  let indent := known.getD (max (max deepest (parent + 1).toNat) 1)
  let (text, pending, c) ←
    readLines folded indent (c.rest.length + 1) [] { emptyLines } c
  let ending := match header.chomping with
    | .strip => []
    | .clip => pending.lineBreak
    | .keep => pending.lineBreak ++ pending.emptyLines
  return (String.ofList (text ++ ending), c)

end CloudCluster.Yaml.Block
