import CloudCluster.Yaml.Character
import CloudCluster.Yaml.Error

/-!
A position in a YAML text.

A cursor holds the characters that are left, with their place: the index from
the start, the line and the column. Indentation is a matter of columns.
-/

namespace CloudCluster.Yaml

open Character

/-- The rest of a text and where it begins. -/
structure Cursor where
  rest : List Char
  index : Nat := 0
  line : Nat := 0
  column : Nat := 0

namespace Cursor

/-- The next character. -/
def peek (c : Cursor) : Option Char := c.rest.head?

/-- The character `n` places on. -/
def peekAt (c : Cursor) (n : Nat) : Option Char := c.rest[n]?

/-- Whether the next character is `x`. -/
def isAt (c : Cursor) (x : Char) : Bool := c.peek = some x

/-- Moves over `n` characters of a line. -/
def skip (c : Cursor) (n : Nat) : Cursor :=
  { c with rest := c.rest.drop n, index := c.index + n, column := c.column + n }

/-- Moves over the characters of a line that have a property. -/
def skipWhile (p : Char → Bool) (c : Cursor) : Cursor :=
  c.skip (c.rest.takeWhile p).length

/-- The characters that have a property, and the cursor behind them. -/
def takeWhile (p : Char → Bool) (c : Cursor) : List Char × Cursor :=
  let taken := c.rest.takeWhile p
  (taken, c.skip taken.length)

/-- The cursor at the start of the next line, `n` characters on. -/
def nextLine (c : Cursor) (n : Nat) : Cursor :=
  { rest := c.rest.drop n, index := c.index + n, line := c.line + 1, column := 0 }

/-- Reads a line break. The separators U+2028 and U+2029 are kept; every other
break, a carriage return with a line feed among them, is read as a line feed. -/
def takeBreak (c : Cursor) : List Char × Cursor :=
  match c.rest with
  | '\r' :: '\n' :: _ => (['\n'], c.nextLine 2)
  | x :: _ =>
    if x = '\u2028' || x = '\u2029' then ([x], c.nextLine 1)
    else if isBreakChar x then (['\n'], c.nextLine 1)
    else ([], c)
  | [] => ([], c)

/-- Moves over a line break. -/
def skipBreak (c : Cursor) : Cursor := c.takeBreak.2

/-- Moves over spaces and tabs and then over a comment. -/
def skipBlanksAndComment (c : Cursor) : Cursor :=
  let c := c.skipWhile isBlankChar
  if c.isAt '#' then c.skipWhile (!isBreakChar ·) else c

/-- Whether three marks, at the start of a line and followed by the end of a
word, begin or end a document here. -/
def isAtMarker (c : Cursor) (mark : Char) : Bool :=
  c.column = 0 && c.rest.take 3 = [mark, mark, mark] && isBlankOrEnd (c.peekAt 3)

/-- Whether a document begins or ends here. -/
def isAtDocumentMarker (c : Cursor) : Bool :=
  c.isAtMarker '-' || c.isAtMarker '.'

end Cursor

/-- The white space within a scalar of several lines: the blanks before its
first line break, that break, and the breaks after it. -/
structure Gap where
  blanks : List Char := []
  firstBreak : List Char := []
  moreBreaks : List Char := []
  broken : Bool := false

namespace Gap

/-- What the white space is read as: a single break is folded into a space, of
several the first is dropped, and separators are kept. -/
def fold (gap : Gap) : List Char :=
  if !gap.broken then gap.blanks
  else if gap.firstBreak = ['\n'] then
    if gap.moreBreaks.isEmpty then [' '] else gap.moreBreaks
  else gap.firstBreak ++ gap.moreBreaks

/-- The gap with one more blank; blanks after a break are indentation. -/
def addBlank (gap : Gap) (c : Char) : Gap :=
  if gap.broken then gap else { gap with blanks := gap.blanks ++ [c] }

/-- The gap with one more line break. -/
def addBreak (gap : Gap) (text : List Char) : Gap :=
  if gap.broken then { gap with moreBreaks := gap.moreBreaks ++ text }
  else { gap with blanks := [], firstBreak := text, broken := true }

end Gap

end CloudCluster.Yaml
