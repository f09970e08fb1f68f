import CloudCluster.Yaml.Style

/-!
Laying out YAML text.

A writer is the text so far, its last character first, with the column, the
indentation, and whether only white space or indentation marks precede on the
line. Scalars are written in each of their styles.
-/

namespace CloudCluster.Yaml

open Character

/-- Text that is being laid out. -/
structure Writer where
  written : List Char := []
  column : Nat := 0
  indent : Int := -1
  afterSpace : Bool := true
  inIndentation : Bool := true

namespace Writer

/-- How far a nested collection is indented. -/
def step : Nat := 2

/-- Writes one character. -/
def put (w : Writer) (c : Char) : Writer :=
  if isBreakChar c then { w with written := c :: w.written, column := 0 }
  else { w with written := c :: w.written, column := w.column + 1 }

/-- Writes characters. -/
def putAll (w : Writer) (cs : List Char) : Writer :=
  cs.foldl put w

/-- Writes text that is no white space. -/
def putText (w : Writer) (cs : List Char) : Writer :=
  { w.putAll cs with afterSpace := false, inIndentation := false }

/-- Writes a space unless one precedes. -/
def separate (w : Writer) : Writer :=
  if w.afterSpace then w else w.put ' '

/-- Goes to the indentation, on a new line unless the current one holds only
indentation. -/
def newLine (w : Writer) : Writer :=
  let indent := w.indent.toNat
  let w :=
    if !w.inIndentation || indent < w.column || (w.column = indent && !w.afterSpace) then
      w.put '\n'
    else w
  { w.putAll (List.replicate (indent - w.column) ' ') with
    afterSpace := true, inIndentation := true }

/-- Writes a mark that may be followed by nested collections on its line. -/
def putMark (w : Writer) (mark : Char) : Writer :=
  { w.separate.put mark with afterSpace := false }

/-- Runs `write` at a deeper indentation; the outermost collection is not
indented. -/
def nested (w : Writer) (deeper : Int) (write : Writer → Except Error Writer) :
    Except Error Writer := do
  let w' ← write { w with indent := deeper }
  return { w' with indent := w.indent }

/-- The indentation of a block collection inside. -/
def blockIndent (w : Writer) : Int :=
  if w.indent < 0 then 0 else w.indent + step

/-- The indentation of the lines of a scalar inside. -/
def scalarIndent (w : Writer) : Int :=
  if w.indent < 0 then step else w.indent + step

/-- Writes a plain scalar. -/
def putPlain (w : Writer) (s : List Char) : Writer :=
  let w := if s.isEmpty then w else w.separate
  w.putText s

/-- Writes what stands between single quotes: a quote twice, and a separator
with the indentation behind it. -/
def putSingleQuotedBody (w : Writer) (afterBreak : Bool) : List Char → Writer
  | [] => if afterBreak then w.newLine else w
  | c :: rest =>
    if isBreakChar c then
      let w := if !afterBreak && c = '\n' then w.put '\n' else w
      putSingleQuotedBody { w.put c with inIndentation := true } true rest
    else if c = ' ' then putSingleQuotedBody (w.put c) afterBreak rest
    else
      let w := if afterBreak then w.newLine else w
      let w := if c = '\'' then w.put '\'' else w
      putSingleQuotedBody { w.put c with inIndentation := false } false rest

/-- Writes a scalar in single quotes. -/
def putSingleQuoted (w : Writer) (s : List Char) : Writer :=
  let w := { w.separate.put '\'' with afterSpace := false, inIndentation := false }
  (w.putSingleQuotedBody false s).putText ['\'']

/-- A number in upper-case hexadecimal with leading zeros. -/
def hexadecimal (width n : Nat) : List Char :=
  let digits := (Nat.toDigits 16 n).map Char.toUpper
  List.replicate (width - digits.length) '0' ++ digits

/-- A character as it stands between double quotes. -/
def escape (c : Char) : List Char :=
  if isPrintable c && !isBreakChar c && c ≠ '"' && c ≠ '\\' then [c]
  else
    match c.toNat with
    | 0x00 => ['\\', '0']
    | 0x07 => ['\\', 'a']
    | 0x08 => ['\\', 'b']
    | 0x09 => ['\\', 't']
    | 0x0A => ['\\', 'n']
    | 0x0B => ['\\', 'v']
    | 0x0C => ['\\', 'f']
    | 0x0D => ['\\', 'r']
    | 0x1B => ['\\', 'e']
    | 0x22 => ['\\', '"']
    | 0x5C => ['\\', '\\']
    | 0x85 => ['\\', 'N']
    | 0xA0 => ['\\', '_']
    | 0x2028 => ['\\', 'L']
    | 0x2029 => ['\\', 'P']
    | n =>
      if n ≤ 0xFF then ['\\', 'x'] ++ hexadecimal 2 n
      else if n ≤ 0xFFFF then ['\\', 'u'] ++ hexadecimal 4 n
      else ['\\', 'U'] ++ hexadecimal 8 n

/-- Writes a scalar in double quotes. -/
def putDoubleQuoted (w : Writer) (s : List Char) : Writer :=
  w.separate.putText (['"'] ++ s.flatMap escape ++ ['"'])

/-- The indicators behind the bar of a block scalar: the indentation if the text
begins with white space, and what becomes of the line breaks at its end. -/
def blockHeader (s : List Char) : List Char :=
  let startsBlank := s.head?.any fun c => c = ' ' || isBreakChar c
  let indentation := if startsBlank then Nat.toDigits 10 step else []
  let chomping := match s.reverse with
    | last :: before =>
      if !isBreakChar last then ['-']
      else match before with
        | [] => ['+']
        | c :: _ => if isBreakChar c then ['+'] else []
    | [] => ['-']
  indentation ++ chomping

/-- Writes the lines of a block scalar. -/
def putBlockBody (w : Writer) (afterBreak : Bool) : List Char → Writer
  | [] => w
  | c :: rest =>
    if isBreakChar c then
      putBlockBody { w.put c with inIndentation := true } true rest
    else
      let w := if afterBreak then w.newLine else w
      putBlockBody { w.put c with inIndentation := false } false rest

/-- Writes a block scalar. -/
def putBlock (w : Writer) (s : List Char) : Writer :=
  let w := (w.separate.putText ('|' :: blockHeader s)).put '\n'
  { w with afterSpace := true, inIndentation := true }.putBlockBody true s

/-- Writes a scalar. -/
def putScalar (w : Writer) (s : List Char) (style : ScalarStyle) : Writer :=
  let inner := { w with indent := w.scalarIndent }
  let done := match style with
    | .plain => inner.putPlain s
    | .singleQuoted => inner.putSingleQuoted s
    | .doubleQuoted => inner.putDoubleQuoted s
    | .block => inner.putBlock s
  { done with indent := w.indent }

/-- A byte of a tag behind a percent sign. -/
def percentEscape (b : UInt8) : List Char :=
  '%' :: hexadecimal 2 b.toNat

/-- The characters of a tag; those that may not stand for themselves are
escaped byte by byte. -/
def tagText (s : List Char) : List Char :=
  s.flatMap fun c =>
    if (isTagChar c && c ≠ '%') || c = ',' || c = '[' || c = ']' then [c]
    else (String.utf8EncodeChar c).flatMap percentEscape

/-- The text of a tag: its name behind an exclamation mark. The tag that is
nothing but a mark is written in full. -/
def tagForm (name : String) : List Char :=
  if name = "!" then "!<!>".toList
  else if name.startsWith "!" then '!' :: tagText (name.toList.drop 1)
  else '!' :: tagText name.toList

/-- Writes a tag, if there is one. -/
def putTag (w : Writer) (tag : Option String) : Writer :=
  match tag with
  | none => w
  | some name => w.separate.putText (tagForm name)

/-- The text that is written. -/
def text (w : Writer) : String :=
  String.ofList w.written.reverse

end Writer

end CloudCluster.Yaml
