import CloudCluster.Toml.Value

/-!
Numbers in TOML.

An integer is decimal, or hexadecimal, octal or binary behind `0x`, `0o` and
`0b`; it has to fit into 64 bits. A float has a fraction or an exponent, or is
one of the words `inf` and `nan`. Single underscores may stand between digits.
-/

namespace CloudCluster.Toml.Number

open Decimal

/-- The digits of a text in which single underscores may stand between digits. -/
def digits? (isDigit : Char → Bool) : List Char → Option (List Char)
  | [] => none
  | [c] => if isDigit c then some [c] else none
  | c :: '_' :: rest => if isDigit c then (digits? isDigit rest).map (c :: ·) else none
  | c :: rest => if isDigit c then (digits? isDigit rest).map (c :: ·) else none

/-- Like `digits?`, for decimal digits without a zero in front. -/
def wholeDigits? (s : List Char) : Option (List Char) :=
  match digits? Char.isDigit s with
  | some ['0'] => some ['0']
  | some ('0' :: _) => none
  | digits => digits

/-- The value of a digit, hexadecimal ones in either case. -/
def digitValue (c : Char) : Nat :=
  if c.isDigit then c.toNat - 48 else c.toLower.toNat - 87

/-- Whether a character is a digit to a base of at most sixteen. -/
def isDigitOf (base : Nat) (c : Char) : Bool :=
  (c.isDigit || ('a' ≤ c.toLower && c.toLower ≤ 'f')) && digitValue c < base

/-- The value of digits to a base. -/
def valueOf (base : Nat) (digits : List Char) : Int :=
  (digits.foldl (fun n c => n * base + digitValue c) 0 : Nat)

/-- An integer that fits into 64 bits. -/
def bounded (n : Int) : Except Error Value :=
  if -0x8000000000000000 ≤ n ∧ n < 0x8000000000000000 then .ok (.integer n)
  else .error .outOfRange

/-- The base that a second character behind a zero stands for. -/
def base? : Char → Option Nat
  | 'x' => some 16
  | 'o' => some 8
  | 'b' => some 2
  | _ => none

/-- Reads a decimal integer. -/
def readDecimal? (s : List Char) : Option Int := do
  let (negative, s) := Binary64.splitSign s
  let n := valueOf 10 (← wholeDigits? s)
  return if negative then -n else n

/-- Reads an integer. -/
def readInteger? (s : List Char) : Option Int :=
  match s with
  | '0' :: c :: rest =>
    match base? c with
    | some base => (digits? (isDigitOf base) rest).map (valueOf base)
    | none => readDecimal? s
  | _ => readDecimal? s

/-- Whether a character begins an exponent. -/
def isExponentMark (c : Char) : Bool :=
  c = 'e' || c = 'E'

/-- The digits of an exponent, with its sign. -/
def exponent? (s : List Char) : Option (List Char) :=
  match s with
  | '-' :: rest => (digits? Char.isDigit rest).map ('-' :: ·)
  | '+' :: rest => digits? Char.isDigit rest
  | rest => digits? Char.isDigit rest

/-- The text of a float without sign and without underscores. -/
def magnitude? (s : List Char) : Option (List Char) := do
  let mantissa := s.takeWhile (!isExponentMark ·)
  let exponent ← match s.dropWhile (!isExponentMark ·) with
    | [] => some []
    | _ :: rest => (exponent? rest).map ('e' :: ·)
  let whole ← wholeDigits? (mantissa.takeWhile (· ≠ '.'))
  match mantissa.dropWhile (· ≠ '.') with
  | [] => if exponent.isEmpty then none else some (whole ++ exponent)
  | _ :: rest =>
    let fraction ← digits? Char.isDigit rest
    some (whole ++ '.' :: fraction ++ exponent)

/-- Reads a float. -/
def readFloat? (s : List Char) : Option Binary64 :=
  let (negative, word) := Binary64.splitSign s
  if word = "inf".toList then some (.infinite negative)
  else if word = "nan".toList then some .nan
  else do
    let word ← magnitude? word
    Binary64.readDecimal (if negative then '-' :: word else word)

/-- A float that is written with digits. One too large for the format is out
of range, if it is positive. -/
def finiteOrBelow (word : List Char) (x : Binary64) : Except Error Value :=
  if x = .infinite false && word.any Char.isDigit then .error .outOfRange else .ok (.float x)

/-- Reads a number. -/
def read (word : List Char) : Except Error Value :=
  match readInteger? word, readFloat? word with
  | some n, _ => bounded n
  | none, some x => finiteOrBelow word x
  | none, none => .error (.expected "a value")

end CloudCluster.Toml.Number
