import CloudCluster.Text.Utf8
import CloudCluster.Yaml.Cursor
import CloudCluster.Yaml.Plain
import CloudCluster.Yaml.Token.Basic

/-!
Reading anchors, tags and directives.
-/

namespace CloudCluster.Yaml.Token

open Character

/-- Reads the name of an anchor or an alias, behind its mark. -/
def readAnchor (c : Cursor) : Except Error (String × Cursor) :=
  let (name, c) := (c.skip 1).takeWhile isWordChar
  let ends := isBlankOrEnd c.peek ||
    c.peek.any fun x => "?:,]%@".toList.contains x || x = '\x7d' || x = '\x60'
  if name.isEmpty || !ends then .error .badAnchor else .ok (String.ofList name, c)

/-- The byte that two hexadecimal digits behind a percent sign stand for. -/
def escapedByte? : List Char → Option UInt8
  | '%' :: a :: b :: _ => do
    let high ← Plain.digit? 16 a
    let low ← Plain.digit? 16 b
    return UInt8.ofNat (high * 16 + low)
  | _ => none

/-- How many bytes the character takes that begins with this byte. -/
def escapedWidth (lead : UInt8) : Nat :=
  if lead < 0x80 then 1
  else if 0xC0 ≤ lead && lead < 0xE0 then 2
  else if 0xE0 ≤ lead && lead < 0xF0 then 3
  else if 0xF0 ≤ lead && lead < 0xF8 then 4
  else 0

/-- Reads `count` escaped continuation bytes. -/
def readContinuations : Nat → Cursor → Except Error (List UInt8 × Cursor)
  | 0, c => .ok ([], c)
  | count + 1, c =>
    match escapedByte? c.rest with
    | none => .error .badTag
    | some b =>
      if Text.isContinuation b then do
        let (bytes, c) ← readContinuations count (c.skip 3)
        return (b :: bytes, c)
      else .error .badTag

/-- Reads one escaped character as its bytes. -/
def readEscaped (c : Cursor) : Except Error (List UInt8 × Cursor) :=
  match escapedByte? c.rest with
  | none => .error .badTag
  | some lead =>
    match escapedWidth lead with
    | 0 => .error .badTag
    | width + 1 => do
      let (bytes, c) ← readContinuations width (c.skip 3)
      return (lead :: bytes, c)

/-- Reads the characters of a tag as bytes; the brackets and the comma are
allowed in a verbatim tag and in a directive. -/
def readTagBytes (verbatim : Bool) : Nat → Cursor → Except Error (List UInt8 × Cursor)
  | 0, c => .ok ([], c)
  | fuel + 1, c =>
    match c.peek with
    | none => .ok ([], c)
    | some x =>
      if x = '%' then do
        let (bytes, c) ← readEscaped c
        let (more, c) ← readTagBytes verbatim fuel c
        return (bytes ++ more, c)
      else if isTagChar x || (verbatim && (x = ',' || x = '[' || x = ']')) then do
        let (more, c) ← readTagBytes verbatim fuel (c.skip 1)
        return (String.utf8EncodeChar x ++ more, c)
      else .ok ([], c)

/-- Reads the characters of a tag as text, up to a NUL. -/
def readTagText (verbatim : Bool) (c : Cursor) : Except Error (String × Cursor) := do
  let (bytes, c) ← readTagBytes verbatim c.rest.length c
  return (Text.decodeLossyText (bytes.takeWhile (· ≠ 0)).toByteArray, c)

/-- Reads the handle of a tag: an exclamation mark, and if word characters
and another mark follow, these too. -/
def readHandle (c : Cursor) : Except Error (String × Cursor) :=
  if !c.isAt '!' then .error .badTag
  else
    let (word, c) := (c.skip 1).takeWhile isWordChar
    if c.isAt '!' then .ok (String.ofList ('!' :: word ++ ['!']), c.skip 1)
    else .ok (String.ofList ('!' :: word), c)

/-- Reads a tag as its handle and its suffix. A verbatim tag and the single
exclamation mark have the empty handle. -/
def readTag (inFlow : Bool) (c : Cursor) : Except Error (Token × Cursor) := do
  let (handle, suffix, c) ←
    if c.peekAt 1 = some '<' then do
      let (suffix, c) ← readTagText true (c.skip 2)
      if suffix.isEmpty || !c.isAt '>' then throw .badTag
      pure ("", suffix, c.skip 1)
    else do
      let (handle, c) ← readHandle c
      if handle ≠ "!" && handle.toList.getLast? = some '!' then do
        let (suffix, c) ← readTagText false c
        if suffix.isEmpty then throw .badTag
        pure (handle, suffix, c)
      else do
        let (more, c) ← readTagText false c
        let suffix := String.ofList (handle.toList.drop 1) ++ more
        pure (if suffix.isEmpty then ("", "!", c) else ("!", suffix, c))
  if isBlankOrEnd c.peek || (inFlow && c.isAt ',') then return (.tag handle suffix, c)
  else throw .badTag

/-- Reads a part of a version: one to nine digits. -/
def readVersionNumber (c : Cursor) : Except Error (Nat × Cursor) :=
  let (digits, c) := c.takeWhile Char.isDigit
  if digits.isEmpty || 9 < digits.length then .error .badDirective
  else .ok (Decimal.Binary64.natOfDigits digits, c)

/-- Reads the version behind `%YAML`. -/
def readVersion (c : Cursor) : Except Error (Token × Cursor) := do
  let (major, c) ← readVersionNumber (c.skipWhile isBlankChar)
  if !c.isAt '.' then throw .badDirective
  let (minor, c) ← readVersionNumber (c.skip 1)
  return (.versionDirective major minor, c)

/-- Reads the handle and the expansion behind `%TAG`. -/
def readTagDirective (c : Cursor) : Except Error (Token × Cursor) := do
  let (handle, c) ← readHandle (c.skipWhile isBlankChar)
  if handle.toList.getLast? ≠ some '!' then throw .badDirective
  if !isBlank c.peek then throw .badDirective
  let (expansion, c) ← readTagText true (c.skipWhile isBlankChar)
  if expansion.isEmpty || !isBlankOrEnd c.peek then throw .badDirective
  return (.tagDirective handle expansion, c)

/-- Reads a directive with the line that it stands on. -/
def readDirective (c : Cursor) : Except Error (Token × Cursor) := do
  let (name, c) := (c.skip 1).takeWhile isWordChar
  if name.isEmpty || !isBlankOrEnd c.peek then throw .badDirective
  let (token, c) ←
    if name = "YAML".toList then readVersion c
    else if name = "TAG".toList then readTagDirective c
    else throw .badDirective
  let c := c.skipBlanksAndComment
  if !isBreakOrEnd c.peek then throw .badDirective
  return (token, c.skipBreak)

end CloudCluster.Yaml.Token
