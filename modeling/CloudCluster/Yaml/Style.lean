import CloudCluster.Yaml.Character
import CloudCluster.Yaml.Plain
import CloudCluster.Yaml.Token.Basic

/-!
The choice of a style for a scalar.

`Shape.of` looks at a text once and notes what matters: whether it could be
taken for markup, where it has spaces and line breaks, and whether it has
characters that only double quotes can show. `chooseStyle` goes from the style
that is wished for to the next one that can hold the text.
-/

namespace CloudCluster.Yaml

open Character

/-- Whether a character can be written as it is. -/
def isPrintable (c : Char) : Bool :=
  let n := c.toNat
  n = 0xA || (0x20 ≤ n && n ≤ 0x7E) || (0xA0 ≤ n && n ≤ 0xD7FF) ||
    (0xE000 ≤ n && n ≤ 0xFFFD && n ≠ 0xFEFF) || 0x10000 ≤ n

/-- What a scalar's text looks like. `markup` says that it could be taken for
markup; the positions of spaces and breaks are at the ends or next to one
another. -/
structure Shape where
  empty : Bool
  markup : Bool
  special : Bool
  multiline : Bool
  edgeSpaceOrBreak : Bool
  trailingSpace : Bool
  spaceAfterBreak : Bool
  spaceBeforeBreak : Bool

namespace Shape

/-- Whether a character, with its neighbours, reads as markup in a block. -/
def isMarkupAt (before here after : Option Char) : Bool :=
  match before, here with
  | none, some c =>
    c = '#' || isFlowIndicator c || c = '&' || c = '*' || c = '!' || c = '|' || c = '>' ||
      c = '\'' || c = '"' || c = '%' || c = '@' || c = '\x60' ||
      ((c = '?' || c = ':' || c = '-') && isBlankOrEnd after)
  | some b, some c =>
    (c = ':' && isBlankOrEnd after) || (c = '#' && isBlankOrEnd (some b))
  | _, none => false

/-- Whether the text has markup anywhere, given the character before it. -/
def hasMarkup (before : Option Char) : List Char → Bool
  | [] => false
  | c :: rest => isMarkupAt before (some c) rest.head? || hasMarkup (some c) rest

/-- Whether two neighbours have the one property and then the other. -/
def hasPair (p q : Char → Bool) : List Char → Bool
  | a :: b :: rest => (p a && q b) || hasPair p q (b :: rest)
  | _ => false

/-- The shape of a text. -/
def of (s : List Char) : Shape :=
  let isSpace (c : Char) := c = ' '
  { empty := s.isEmpty
    markup := hasMarkup none s || s.take 3 = ['-', '-', '-'] || s.take 3 = ['.', '.', '.']
    special := s.any (!isPrintable ·)
    multiline := s.any isBreakChar
    edgeSpaceOrBreak :=
      s.head?.any (fun c => c = ' ' || isBreakChar c) ||
        s.getLast?.any (fun c => c = ' ' || isBreakChar c)
    trailingSpace := s.getLast? = some ' '
    spaceAfterBreak := hasPair isBreakChar isSpace s
    spaceBeforeBreak := hasPair isSpace isBreakChar s }

/-- Whether the text can be written without quotes. -/
def allowsPlain (shape : Shape) : Bool :=
  !(shape.markup || shape.special || shape.multiline || shape.edgeSpaceOrBreak ||
    shape.spaceAfterBreak || shape.spaceBeforeBreak)

/-- Whether the text can be written in single quotes. -/
def allowsSingleQuotes (shape : Shape) : Bool :=
  !(shape.special || shape.spaceAfterBreak || shape.spaceBeforeBreak)

/-- Whether the text can be written as a block. -/
def allowsBlock (shape : Shape) : Bool :=
  !(shape.empty || shape.special || shape.trailingSpace || shape.spaceBeforeBreak)

end Shape

/-- The style that is wished for: a text of several lines is a block, one that
would not be read as a string is quoted, and any other is plain. -/
def wishedStyle (text : String) : ScalarStyle :=
  if text.toList.contains '\n' then .block
  else if Plain.needsQuotes text then .singleQuoted
  else .plain

/-- The style in which a text is written. The key of a mapping on one line with
its value allows no block and no line break. -/
def chooseStyle (shape : Shape) (simpleKey : Bool) (wished : ScalarStyle) : ScalarStyle :=
  let first : ScalarStyle := if simpleKey && shape.multiline then .doubleQuoted else wished
  let second : ScalarStyle :=
    if first = .plain && (!shape.allowsPlain || (shape.empty && simpleKey)) then .singleQuoted
    else first
  match second with
  | .singleQuoted => if shape.allowsSingleQuotes then .singleQuoted else .doubleQuoted
  | .block => if shape.allowsBlock && !simpleKey then .block else .doubleQuoted
  | style => style

end CloudCluster.Yaml
