import CloudCluster.Yaml.Cursor
import CloudCluster.Yaml.Plain

/-!
Reading quoted scalars.

In single quotes a quote is written twice and nothing else is special; in
double quotes a backslash begins an escape. Line breaks are folded in both.
-/

namespace CloudCluster.Yaml.Quoted

open Character

/-- The character that a letter behind a backslash stands for. -/
def escape? (c : Char) : Option Char :=
  match c with
  | '0' => some '\x00'
  | 'a' => some '\x07'
  | 'b' => some '\x08'
  | 't' => some '\t'
  | '\t' => some '\t'
  | 'n' => some '\n'
  | 'v' => some '\x0b'
  | 'f' => some '\x0c'
  | 'r' => some '\r'
  | 'e' => some '\x1b'
  | ' ' => some ' '
  | '"' => some '"'
  | '/' => some '/'
  | '\\' => some '\\'
  | 'N' => some '\u0085'
  | '_' => some '\u00a0'
  | 'L' => some '\u2028'
  | 'P' => some '\u2029'
  | _ => none

/-- The number of hexadecimal digits behind an escape letter. -/
def codeLength? (c : Char) : Option Nat :=
  match c with
  | 'x' => some 2
  | 'u' => some 4
  | 'U' => some 8
  | _ => none

/-- Reads an escape, at its backslash. -/
def readEscape (c : Cursor) : Except Error (Char × Cursor) :=
  match c.peekAt 1 with
  | none => .error .badEscape
  | some letter =>
    match escape? letter with
    | some x => .ok (x, c.skip 2)
    | none =>
      match codeLength? letter with
      | none => .error .badEscape
      | some length =>
        let digits := (c.rest.drop 2).take length
        match if digits.length = length then Plain.natural? 16 digits else none with
        | some code =>
          if code < 0xD800 || (0xE000 ≤ code && code ≤ 0x10FFFF) then
            .ok (Char.ofNat code, c.skip (2 + length))
          else .error .badEscape
        | none => .error .badEscape

/-- Reads the white space between two words. -/
def readGap : Nat → Gap → Cursor → Gap × Cursor
  | 0, gap, c => (gap, c)
  | fuel + 1, gap, c =>
    match c.peek with
    | none => (gap, c)
    | some x =>
      if isBlankChar x then readGap fuel (gap.addBlank x) (c.skip 1)
      else if isBreakChar x then
        let (text, c) := c.takeBreak
        readGap fuel (gap.addBreak text) c
      else (gap, c)

/-- Reads a quoted scalar behind its opening quote; `done` is what is read
already, last character first. -/
def readBody (quote : Char) : Nat → List Char → Cursor → Except Error (List Char × Cursor)
  | 0, _, _ => .error .unterminatedScalar
  | fuel + 1, done, c =>
    if c.isAtDocumentMarker then .error .documentMarkerInScalar
    else match c.peek with
      | none => .error .unterminatedScalar
      | some x =>
        if x = quote then
          if quote = '\'' && c.peekAt 1 = some '\'' then
            readBody quote fuel ('\'' :: done) (c.skip 2)
          else .ok (done.reverse, c.skip 1)
        else if isBlankChar x || isBreakChar x then
          let (gap, c) := readGap c.rest.length {} c
          readBody quote fuel (gap.fold.reverse ++ done) c
        else if quote = '"' && x = '\\' then
          if isBreak (c.peekAt 1) then
            let c := (c.skip 1).skipBreak
            let (gap, c) := readGap c.rest.length { broken := true } c
            readBody quote fuel (gap.fold.reverse ++ done) c
          else do
            let (y, c) ← readEscape c
            readBody quote fuel (y :: done) c
        else readBody quote fuel (x :: done) (c.skip 1)

/-- Reads a quoted scalar, at its opening quote. -/
def read (quote : Char) (c : Cursor) : Except Error (String × Cursor) := do
  let (text, c) ← readBody quote c.rest.length [] (c.skip 1)
  return (String.ofList text, c)

end CloudCluster.Yaml.Quoted
