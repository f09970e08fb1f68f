/-!
White space and lines.

`isBlank` is Unicode's `White_Space` property. `trim` removes it from both
ends of a text and `lines` cuts a text at its line feeds, so that a trimmed
line is what a reader sees on one line of a tool's output.
-/

namespace CloudCluster.Text

/-- Whether `c` has Unicode's `White_Space` property. -/
def isBlank (c : Char) : Bool :=
  let n := c.toNat
  (9 ≤ n && n ≤ 13) || n = 0x20 || n = 0x85 || n = 0xA0 || n = 0x1680 ||
    (0x2000 ≤ n && n ≤ 0x200A) || n = 0x2028 || n = 0x2029 || n = 0x202F ||
    n = 0x205F || n = 0x3000

/-- Removes the white space at the end of a text. -/
def trimEnd (s : List Char) : List Char :=
  (s.reverse.dropWhile isBlank).reverse

/-- Removes the white space at both ends of a text. -/
def trim (s : List Char) : List Char :=
  trimEnd (s.dropWhile isBlank)

/-- Cuts a text after its line feeds: the finished lines, without their line
feed, and the unfinished rest. -/
def cutLines : List Char → List (List Char) × List Char
  | [] => ([], [])
  | c :: rest =>
    let (finished, last) := cutLines rest
    if c = '\n' then ([] :: finished, last)
    else match finished with
      | [] => ([], c :: last)
      | line :: more => ((c :: line) :: more, last)

/-- Removes one carriage return from the end of a line. -/
def dropReturn (line : List Char) : List Char :=
  if line.getLast? = some '\r' then line.dropLast else line

/-- The lines of a text. A finished line loses its line feed and one carriage
return before it; an unfinished last line is kept as it is, unless it is
empty. -/
def lines (s : List Char) : List (List Char) :=
  let (finished, last) := cutLines s
  finished.map dropReturn ++ (if last.isEmpty then [] else [last])

/-- `trim` on strings. -/
def trimText (s : String) : String :=
  String.ofList (trim s.toList)

/-- `lines` on strings. -/
def linesOf (s : String) : List String :=
  (lines s.toList).map String.ofList

end CloudCluster.Text
