import CloudCluster.Toml.Value

/-!
Strings in TOML.

Between double quotes a backslash begins an escape; between single quotes
nothing is special. Behind three quotes of either kind a string may go over
several lines. It loses a line break right at its start, every line break in it
counts as a line feed, and one or two quotes in it, also at its end, are text.
-/

namespace CloudCluster.Toml.Quoted

/-- Whether a character may stand in comments and strings: no control character
but the tab may. -/
def isText (c : Char) : Bool :=
  c = '\t' || (0x20 ≤ c.toNat && c.toNat ≠ 0x7F)

/-- A string, and the text behind its closing quotes. -/
abbrev Result := Except Error (List Char × List Char)

/-- Puts a character in front of a string. -/
def push (c : Char) (result : Result) : Result :=
  result.map fun (text, rest) => (c :: text, rest)

/-- The character that a letter behind a backslash stands for. -/
def escape? : Char → Option Char
  | 'b' => some '\x08'
  | 't' => some '\t'
  | 'n' => some '\n'
  | 'f' => some '\x0c'
  | 'r' => some '\r'
  | '"' => some '"'
  | '\\' => some '\\'
  | _ => none

/-- The value of a hexadecimal digit. -/
def hexDigit? (c : Char) : Option Nat :=
  if c.isDigit then some (c.toNat - 48)
  else if 'a' ≤ c.toLower && c.toLower ≤ 'f' then some (c.toLower.toNat - 87)
  else none

/-- The character whose number is written in hexadecimal digits. -/
def character? (digits : List Char) : Option Char := do
  let code ← digits.foldlM (fun n c => return n * 16 + (← hexDigit? c)) 0
  if code < 0xD800 || (0xE000 ≤ code && code ≤ 0x10FFFF) then some (Char.ofNat code) else none

/-- Puts an escaped character in front of a string, if there is one. -/
def pushEscaped (c : Option Char) (result : Result) : Result :=
  match c with
  | some c => push c result
  | none => .error (.expected "an escape sequence")

/-- A string that is not closed. -/
def unclosed : Result := .error (.expected "a closing quote")

/-- Reads a string behind its double quote. -/
def readBasic : List Char → Result
  | [] => unclosed
  | '"' :: rest => .ok ([], rest)
  | '\\' :: 'u' :: a :: b :: c :: d :: rest =>
    pushEscaped (character? [a, b, c, d]) (readBasic rest)
  | '\\' :: 'U' :: a :: b :: c :: d :: e :: f :: g :: h :: rest =>
    pushEscaped (character? [a, b, c, d, e, f, g, h]) (readBasic rest)
  | '\\' :: c :: rest => pushEscaped (escape? c) (readBasic rest)
  | c :: rest => if isText c then push c (readBasic rest) else unclosed

/-- Reads a string behind its single quote. -/
def readLiteral : List Char → Result
  | [] => unclosed
  | '\'' :: rest => .ok ([], rest)
  | c :: rest => if isText c then push c (readLiteral rest) else unclosed

/-- Where the reader is in a string of several lines: in its text, behind a
backslash at the end of a line, or in the white space of the lines below. -/
inductive Place where
  | text
  | lineEnd
  | gap
  deriving DecidableEq, Repr

/-- Reads a string of several lines behind its double quotes. -/
def readLongBasic : Place → List Char → Result
  | _, [] => unclosed
  | .lineEnd, ' ' :: rest | .lineEnd, '\t' :: rest => readLongBasic .lineEnd rest
  | .lineEnd, '\n' :: rest | .lineEnd, '\r' :: '\n' :: rest => readLongBasic .gap rest
  | .lineEnd, _ => .error (.expected "a line break")
  | .gap, ' ' :: rest | .gap, '\t' :: rest => readLongBasic .gap rest
  | .gap, '\n' :: rest | .gap, '\r' :: '\n' :: rest => readLongBasic .gap rest
  | _, '"' :: '"' :: '"' :: rest =>
    match rest with
    | '"' :: '"' :: rest => .ok (['"', '"'], rest)
    | '"' :: rest => .ok (['"'], rest)
    | rest => .ok ([], rest)
  | _, '\r' :: '\n' :: rest | _, '\n' :: rest => push '\n' (readLongBasic .text rest)
  | _, '\\' :: ' ' :: rest | _, '\\' :: '\t' :: rest => readLongBasic .lineEnd rest
  | _, '\\' :: '\n' :: rest | _, '\\' :: '\r' :: '\n' :: rest => readLongBasic .gap rest
  | _, '\\' :: 'u' :: a :: b :: c :: d :: rest =>
    pushEscaped (character? [a, b, c, d]) (readLongBasic .text rest)
  | _, '\\' :: 'U' :: a :: b :: c :: d :: e :: f :: g :: h :: rest =>
    pushEscaped (character? [a, b, c, d, e, f, g, h]) (readLongBasic .text rest)
  | _, '\\' :: c :: rest => pushEscaped (escape? c) (readLongBasic .text rest)
  | _, c :: rest => if isText c then push c (readLongBasic .text rest) else unclosed

/-- Reads a string of several lines behind its single quotes. -/
def readLongLiteral : List Char → Result
  | [] => unclosed
  | '\'' :: '\'' :: '\'' :: rest =>
    match rest with
    | '\'' :: '\'' :: rest => .ok (['\'', '\''], rest)
    | '\'' :: rest => .ok (['\''], rest)
    | rest => .ok ([], rest)
  | '\r' :: '\n' :: rest | '\n' :: rest => push '\n' (readLongLiteral rest)
  | c :: rest => if isText c then push c (readLongLiteral rest) else unclosed

/-- Removes a line break from the start of a text. -/
def dropBreak : List Char → List Char
  | '\n' :: rest | '\r' :: '\n' :: rest => rest
  | s => s

/-- Reads a string on one line, at its quote. -/
def readShort : List Char → Result
  | '"' :: rest => readBasic rest
  | '\'' :: rest => readLiteral rest
  | _ => .error (.expected "a string")

/-- Reads a string, at its first quote. -/
def read : List Char → Result
  | '"' :: '"' :: '"' :: rest => readLongBasic .text (dropBreak rest)
  | '\'' :: '\'' :: '\'' :: rest => readLongLiteral (dropBreak rest)
  | s => readShort s

end CloudCluster.Toml.Quoted
