import CloudCluster.Decimal.Shortest
import CloudCluster.Yaml.Value
import CloudCluster.Yaml.Writer

/-!
The YAML text of a value.

Collections are written in block style, one entry on a line, and the entries of
a sequence inside a mapping stand at the mapping's own indentation. Mapping
entries keep their order. Not every value has a text: a tag may not follow a
tag, and a mapping of one entry without a tag may not have a mapping of one
entry, or a tagged value, as its key.
-/

namespace CloudCluster.Yaml

open CloudCluster.Decimal

/-- Floats have a point or an exponent; the point stands after at most sixteen
digits and before at most four zeros. -/
def floatLayout : Layout where
  maxWhole := 16
  maxZeros := 4
  infinity := ".inf"
  negativeInfinity := "-.inf"
  nan := ".nan"

/-- The text of a scalar and the style that is wished for it. -/
def scalarForm : Value → String × ScalarStyle
  | .null => ("null", .plain)
  | .bool b => (if b then "true" else "false", .plain)
  | .integer n => (toString n, .plain)
  | .float x => (floatLayout.write x, .plain)
  | .string text => (text, wishedStyle text)
  | _ => ("", .plain)

/-- The longest key, in bytes with its tag, that stands on a line with its value. -/
def maxSimpleKey : Nat := 128

/-- The length of a tag, in bytes with its exclamation mark. -/
def tagLength (name : String) : Nat :=
  if name.startsWith "!" then name.utf8ByteSize else name.utf8ByteSize + 1

/-- The length of a key that fits on one line. -/
def keyLength? : Value → Option Nat
  | .tagged tag value => (keyLength? value).map (tagLength tag.name + ·)
  | .sequence items => if items.isEmpty then some 0 else none
  | .mapping entries => if entries.isEmpty then some 0 else none
  | scalar =>
    let text := (scalarForm scalar).1
    if (Shape.of text.toList).multiline then none else some text.utf8ByteSize

/-- Whether a key stands on a line with its value. -/
def isSimpleKey (key : Value) : Bool :=
  (keyLength? key).any (· ≤ maxSimpleKey)

/-- Whether a key cannot be told from a tag when it is the only key of a mapping. -/
def isAmbiguousKey : Value → Bool
  | .mapping [_] => true
  | .tagged .. => true
  | _ => false

/-- Whether a mapping without a tag cannot be written because of its only key. -/
def isUnwritable : Entries → Bool
  | [(key, _)] => isAmbiguousKey key
  | _ => false

mutual

/-- Writes a value behind its tag. -/
def writeValue (tag : Option String) (inMapping simpleKey : Bool) :
    Value → Writer → Except Error Writer
  | .tagged inner value, w =>
    if tag.isSome then .error .nestedTag
    else writeValue (some inner.name) inMapping simpleKey value w
  | .sequence items, w =>
    let w := w.putTag tag
    if items.isEmpty then .ok (w.separate.putText ['[', ']'])
    else
      let aligned := inMapping && !w.inIndentation && 0 ≤ w.indent
      w.nested (if aligned then w.indent else w.blockIndent) (writeItems items)
  | .mapping entries, w =>
    if tag.isNone && isUnwritable entries then .error .keyNotWritable
    else
      let w := w.putTag tag
      if entries.isEmpty then .ok (w.separate.putText ['\x7b', '\x7d'])
      else w.nested w.blockIndent (writeEntries entries)
  | scalar, w =>
    let (text, wished) := scalarForm scalar
    let chars := text.toList
    .ok ((w.putTag tag).putScalar chars (chooseStyle (Shape.of chars) simpleKey wished))

/-- Writes the items of a sequence. -/
def writeItems : List Value → Writer → Except Error Writer
  | [], w => .ok w
  | item :: rest, w => do
    let w ← writeValue none false false item (w.newLine.putMark '-')
    writeItems rest w

/-- Writes the entries of a mapping. -/
def writeEntries : Entries → Writer → Except Error Writer
  | [], w => .ok w
  | (key, value) :: rest, w => do
    let w ←
      if isSimpleKey key then do
        let w ← writeValue none true true key w.newLine
        pure (w.putText [':'])
      else do
        let w ← writeValue none true false key (w.newLine.putMark '?')
        pure (w.newLine.putMark ':')
    let w ← writeValue none true false value w
    writeEntries rest w

end

/-- The text of a value. -/
def write (value : Value) : Except Error String := do
  let w ← writeValue none false false value {}
  return w.newLine.text

end CloudCluster.Yaml
