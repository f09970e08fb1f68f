/-!
The character classes of YAML texts. Each class is a predicate on the next
character, which is none at the end of the text.
-/

namespace CloudCluster.Yaml.Character

/-- Whether a text may contain the character at all. -/
def isReadable (c : Char) : Bool :=
  let n := c.toNat
  n = 0x9 || n = 0xA || n = 0xD || (0x20 ≤ n && n ≤ 0x7E) || n = 0x85 ||
    (0xA0 ≤ n && n ≤ 0xD7FF) || (0xE000 ≤ n && n ≤ 0xFFFD) || 0x10000 ≤ n

/-- The byte order mark. -/
def byteOrderMark : Char := '\uFEFF'

/-- Whether the character ends a line. -/
def isBreakChar (c : Char) : Bool :=
  c = '\r' || c = '\n' || c = '\u0085' || c = '\u2028' || c = '\u2029'

/-- Whether the character is a space or a tab. -/
def isBlankChar (c : Char) : Bool :=
  c = ' ' || c = '\t'

/-- Whether the character may stand in an anchor or in a tag's handle. -/
def isWordChar (c : Char) : Bool :=
  c.isAlphanum || c = '_' || c = '-'

/-- Whether the text ends or a line ends here. -/
def isBreakOrEnd : Option Char → Bool
  | none => true
  | some c => isBreakChar c

/-- Whether there is a space or a tab here. -/
def isBlank (c : Option Char) : Bool :=
  c.any isBlankChar

/-- Whether a line ends here. -/
def isBreak (c : Option Char) : Bool :=
  c.any isBreakChar

/-- Whether a word ends here. -/
def isBlankOrEnd (c : Option Char) : Bool :=
  isBlank c || isBreakOrEnd c

/-- The characters that mark flow collections. -/
def isFlowIndicator (c : Char) : Bool :=
  c = ',' || c = '[' || c = ']' || c = '\x7b' || c = '\x7d'

/-- The characters that no plain scalar begins with, whatever follows. -/
def isIndicator (c : Char) : Bool :=
  isFlowIndicator c || c = '-' || c = '?' || c = ':' || c = '#' || c = '&' || c = '*' ||
    c = '!' || c = '|' || c = '>' || c = '\'' || c = '"' || c = '%' || c = '@' || c = '\x60'

/-- The characters of a tag that stand for themselves. -/
def isTagChar (c : Char) : Bool :=
  isWordChar c || ";/?:@&=+$.!~*'()".toList.contains c

end CloudCluster.Yaml.Character
