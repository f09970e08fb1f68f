import CloudCluster.Toml.Moment
import CloudCluster.Toml.Number
import CloudCluster.Toml.Quoted
import CloudCluster.Toml.Table

/-!
Reading TOML documents.

`Toml.read` answers the fields of a document's root. Arrays and inline tables
may be nested, and keys may be dotted, up to a limit.
-/

namespace CloudCluster.Toml

/-- A reader of a part of a text. -/
abbrev Reader (α : Type) := StateT (List Char) (Except Error) α

namespace Reader

/-- Takes the characters up to the first that a condition does not hold of. -/
def takeWhile (p : Char → Bool) : Reader (List Char) :=
  fun s => .ok (s.takeWhile p, s.dropWhile p)

/-- Takes a word, if it comes next. -/
def accept (word : String) : Reader Bool :=
  fun s =>
    if word.toList.isPrefixOf s then .ok (true, s.drop word.length) else .ok (false, s)

/-- Takes a word that has to come next. -/
def expect (word : String) : Reader Unit := do
  if !(← accept word) then throw (.expected word)

/-- The next character. -/
def peek? : Reader (Option Char) :=
  fun s => .ok (s.head?, s)

/-- Takes a string, with what is known of strings. -/
def quoted (read : List Char → Quoted.Result) : Reader String :=
  fun s => do
    let (text, rest) ← read s
    return (String.ofList text, rest)

/-! ### White space -/

/-- Whether a character is a space or a tab. -/
def isSpace (c : Char) : Bool :=
  c = ' ' || c = '\t'

/-- Takes spaces. -/
def spaces : Reader Unit := do
  let _ ← takeWhile isSpace

/-- Takes a line break, if it comes next. -/
def acceptBreak : Reader Bool := do
  if ← accept "\n" then return true else accept "\r\n"

/-- Takes a comment, if it comes next. -/
def comment : Reader Unit := do
  if ← accept "#" then
    let _ ← takeWhile Quoted.isText

/-- Takes what may stand behind the end of a line. -/
def lineEnd : Reader Unit := do
  spaces
  comment
  if !(← acceptBreak) then
    if (← peek?).isSome then throw (.expected "a line break")

/-- Takes spaces, comments and line breaks, with at most this many breaks. -/
def gap : Nat → Reader Unit
  | 0 => spaces
  | fuel + 1 => do
    spaces
    comment
    if ← acceptBreak then gap fuel

/-- `gap`, with as many breaks as there are. -/
def blanks : Reader Unit := do
  gap (← get).length

/-! ### Keys -/

/-- The greatest number of names in a dotted key, and of arrays and inline
tables around a value. -/
def maxDepth : Nat := 79

/-- Whether a character may stand in a name without quotes. -/
def isBare (c : Char) : Bool :=
  c.isAlphanum || c = '_' || c = '-'

/-- Takes one name of a key. -/
def name : Reader String := do
  match ← peek? with
  | some '"' | some '\'' => quoted Quoted.readShort
  | _ =>
    let word ← takeWhile isBare
    if word.isEmpty then throw (.expected "a key")
    return String.ofList word

/-- Takes a dotted key of at most this many names. -/
def names : Nat → Reader (List String)
  | 0 => throw .tooDeep
  | fuel + 1 => do
    spaces
    let first ← name
    spaces
    if ← accept "." then return first :: (← names fuel) else return [first]

/-- Takes a key. -/
def key : Reader (List String) :=
  names maxDepth

/-! ### Values -/

/-- Whether a character may stand in a word: it ends no value. -/
def isWord (c : Char) : Bool :=
  !(isSpace c || c = '\n' || c = '\r' || c = '#' || c = ',' || c = ']' || c = '\x7d')

/-- The value of a word. -/
def valueOfWord (word : List Char) : Except Error Value :=
  if word = "true".toList then .ok (.boolean true)
  else if word = "false".toList then .ok (.boolean false)
  else if Moment.isMoment word then .ok (.moment (String.ofList word))
  else Number.read word

/-- Takes a word; a date goes on behind a space if a digit comes there. -/
def word : Reader (List Char) := do
  let first ← takeWhile isWord
  match ← get with
  | ' ' :: c :: rest =>
    if Moment.isDate first && c.isDigit then
      let second := (c :: rest).takeWhile isWord
      set ((c :: rest).dropWhile isWord)
      return first ++ ' ' :: second
    else return first
  | _ => return first

mutual

/-- Takes a value that lies in at most `depth` more arrays and inline tables.
The fuel is used up with the text. -/
def value : Nat → Nat → Reader Value
  | 0, _ => throw .tooDeep
  | fuel + 1, depth => do
    match ← peek? with
    | some '"' | some '\'' => return .string (← quoted Quoted.read)
    | some '[' =>
      let _ ← accept "["
      match depth with
      | 0 => throw .tooDeep
      | depth + 1 => return .array (← items fuel depth)
    | some '\x7b' =>
      let _ ← accept "\x7b"
      match depth with
      | 0 => throw .tooDeep
      | depth + 1 =>
        spaces
        if ← accept "\x7d" then return .table []
        tableOf (← entries fuel depth)
    | _ => valueOfWord (← word)

/-- Takes the items of an array, with its closing bracket. -/
def items : Nat → Nat → Reader (List Value)
  | 0, _ => throw .tooDeep
  | fuel + 1, depth => do
    blanks
    if ← accept "]" then return []
    let first ← value fuel depth
    blanks
    if ← accept "," then return first :: (← items fuel depth)
    expect "]"
    return [first]

/-- Takes the entries of an inline table that has some, with its closing
brace. -/
def entries : Nat → Nat → Reader (List (List String × Value))
  | 0, _ => throw .tooDeep
  | fuel + 1, depth => do
    let path ← key
    expect "="
    spaces
    let first ← value fuel depth
    spaces
    if ← accept "," then return (path, first) :: (← entries fuel depth)
    expect "\x7d"
    return [(path, first)]

end

/-! ### Documents -/

/-- Takes the key of a header, with what closes it. -/
def headerKey (closing : String) : Reader (List String × String) := do
  let path ← key
  expect closing
  lineEnd
  return (path.dropLast, path.getLast?.getD "")

/-- Takes a line that is neither blank nor a comment. -/
def line : Reader Line := do
  if ← accept "[[" then
    let (path, last) ← headerKey "]]"
    return .arrayHeader path last
  if ← accept "[" then
    let (path, last) ← headerKey "]"
    return .header path last
  let path ← key
  expect "="
  spaces
  let first ← value (2 * (← get).length + 2) maxDepth
  lineEnd
  return .entry path first

/-- Takes at most this many lines, to the end of the text. -/
def lines : Nat → Reader (List Line)
  | 0 => return []
  | fuel + 1 => do
    blanks
    if (← peek?).isNone then return []
    return (← line) :: (← lines fuel)

/-- Takes a document. -/
def document : Reader (List Line) := do
  let _ ← accept "\uFEFF"
  lines ((← get).length + 1)

end Reader

/-- Reads a document: the fields of its root. -/
def read (text : String) : Except Error Fields := do
  let (lines, _) ← Reader.document text.toList
  Draft.ofLines lines

end CloudCluster.Toml
