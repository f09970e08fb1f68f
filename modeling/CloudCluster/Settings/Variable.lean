import CloudCluster.Settings.Layer
import CloudCluster.Text.Blank
import CloudCluster.Toml.Quoted

/-!
Settings in environment variables.

A variable whose name begins with `STRATUS_`, in either case, sets the field
that the rest of its name leads to, in lower case; two underscores or a dot
lead into a table. Its text is read as a value: a truth value, a number, a
string in double quotes, a character in single quotes, a list in brackets or a
table in braces. A text that is none of these, as a whole, stands for itself.
-/

namespace CloudCluster.Settings.Variable

open Toml Decimal

/-! ### Names -/

/-- What the name of a variable begins with, in lower case. -/
def nameStart : List Char := "stratus_".toList

/-- Writes a dot for every two underscores. -/
def dotted : List Char → List Char
  | '_' :: '_' :: rest => '.' :: dotted rest
  | c :: rest => c :: dotted rest
  | [] => []

/-- Cuts characters at dots. -/
def cutDots : List Char → List (List Char)
  | [] => [[]]
  | c :: rest =>
    if c = '.' then [] :: cutDots rest
    else match cutDots rest with
      | [] => [[c]]
      | first :: more => (c :: first) :: more

/-- The keys that the name of a variable leads through; none of them may be
empty. -/
def path? (name : String) : Option (List String) :=
  let name := Text.trim name.toList
  if (name.take nameStart.length).map Char.toLower = nameStart then
    let keys := cutDots (Text.trim (dotted (name.drop nameStart.length)))
    if keys.any List.isEmpty then none
    else some (keys.map fun key => String.ofList (key.map Char.toLower))
  else none

/-! ### Values -/

/-- Whether a character is white space between values. -/
def isSpace (c : Char) : Bool :=
  c = ' ' || c = '\t' || c = '\n' || c = '\x0c' || c = '\r'

/-- Whether a character may stand in a value without quotes. -/
def isPlain (c : Char) : Bool :=
  !(c = ',' || c = '\x7b' || c = '\x7d' || c = '[' || c = ']')

/-- Whether a character may stand in a key without quotes. -/
def isKeyChar (c : Char) : Bool :=
  c.isAlphanum || c = '_' || c = '-'

/-- Reads an integer of 64 bits, with or without sign. -/
def readInteger? (s : List Char) : Option Int :=
  let (negative, digits) := Binary64.splitSign s
  let n := Binary64.natOfDigits digits
  if digits.isEmpty || !digits.all Char.isDigit then none
  else if negative then if n ≤ 0x8000000000000000 then some (-n) else none
  else if n < 0x10000000000000000 then some n else none

/-- The value of a word without quotes. -/
def valueOfWord (word : List Char) : Value :=
  match if word.contains '.' then Binary64.read? word else none with
  | some x => .float x
  | none =>
    match readInteger? word with
    | some n => .integer n
    | none => .string (String.ofList word)

/-- Reads a key. -/
def readKey : List Char → Option (String × List Char)
  | '"' :: rest => (Quoted.readBasic rest).toOption.map fun (text, rest) =>
    (String.ofList text, rest)
  | s =>
    let key := s.takeWhile isKeyChar
    if key.isEmpty then none else some (String.ofList key, s.dropWhile isKeyChar)

/-- Reads a value that holds no others. -/
def readSimple (s : List Char) : Option (Value × List Char) :=
  if "true".toList.isPrefixOf s then some (.boolean true, s.drop 4)
  else if "false".toList.isPrefixOf s then some (.boolean false, s.drop 5)
  else match s with
    | '"' :: rest => (Quoted.readBasic rest).toOption.map fun (text, rest) =>
      (.string (String.ofList text), rest)
    | '\'' :: c :: '\'' :: rest => some (.string (String.singleton c), rest)
    | '\'' :: _ => none
    | s => some (valueOfWord (Text.trim (s.takeWhile isPlain)), s.dropWhile isPlain)

mutual

/-- Reads a value with the white space around it. The fuel is used up with the
text. -/
def readValue : Nat → List Char → Option (Value × List Char)
  | 0, _ => none
  | fuel + 1, s => do
    let (value, rest) ← match s.dropWhile isSpace with
      | '[' :: rest => do
        let (items, rest) ← readItems fuel rest
        some (.array items, rest)
      | '\x7b' :: rest => do
        let (fields, rest) ← readFields fuel [] rest
        some (.table fields, rest)
      | s => readSimple s
    return (value, rest.dropWhile isSpace)

/-- Reads the items of a list, with its closing bracket. -/
def readItems : Nat → List Char → Option (List Value × List Char)
  | _, ']' :: rest => some ([], rest)
  | 0, _ => none
  | fuel + 1, s => do
    let (first, rest) ← readValue fuel s
    match rest with
    | ',' :: rest =>
      let (others, rest) ← readItems fuel rest
      return (first :: others, rest)
    | ']' :: rest => return ([first], rest)
    | _ => none

/-- Reads the fields of a table, with its closing brace; of two fields with one
key the latter counts. -/
def readFields : Nat → Fields → List Char → Option (Fields × List Char)
  | _, fields, '\x7d' :: rest => some (fields, rest)
  | 0, _, _ => none
  | fuel + 1, fields, s => do
    let (key, rest) ← readKey (s.dropWhile isSpace)
    match rest.dropWhile isSpace with
    | '=' :: rest =>
      let (value, rest) ← readValue fuel rest
      match rest with
      | ',' :: rest => readFields fuel (put key value fields) rest
      | '\x7d' :: rest => return (put key value fields, rest)
      | _ => none
    | _ => none

end

/-- The value of a variable's text. -/
def value (text : String) : Value :=
  match readValue (2 * text.length + 2) text.toList with
  | some (value, []) => value
  | _ => .string text

/-! ### Layers -/

/-- The layer that sets a value only. -/
def nest (value : Value) : List String → Fields
  | [] => []
  | [key] => [(key, value)]
  | key :: rest => [(key, .table (nest value rest))]

/-- The layer of variables, in ascending order of name. -/
def layer (bindings : List (String × String)) : Fields :=
  (bindings.mergeSort fun a b => a.1 ≤ b.1).foldl (fun under (name, text) =>
    match path? name with
    | some path => overlay under (nest (value text) path)
    | none => under) []

end CloudCluster.Settings.Variable
