import CloudCluster.Yaml.Error
import CloudCluster.Yaml.Value

/-!
What a plain scalar means.

An unquoted text is null, a boolean, an integer, a float or else a string, in
this order of preference. Integers are decimal, or in base 16, 8 or 2 behind
`0x`, `0o` or `0b`. An integer of more than 64 and at most 128 bits is refused;
a longer decimal one is a float. Digits with a superfluous leading zero are a
string.
-/

namespace CloudCluster.Yaml.Plain

open CloudCluster.Decimal

/-- Reads a null other than the empty text. -/
def isNullWord (s : List Char) : Bool :=
  s = "null".toList || s = "Null".toList || s = "NULL".toList || s = ['~']

/-- Reads a boolean. -/
def bool? (s : List Char) : Option Bool :=
  if s = "true".toList || s = "True".toList || s = "TRUE".toList then some true
  else if s = "false".toList || s = "False".toList || s = "FALSE".toList then some false
  else none

/-- Whether the text is digits with a superfluous leading zero, after at most
one sign. -/
def isPaddedNumber (s : List Char) : Bool :=
  match (Binary64.splitSign s).2 with
  | '0' :: c :: rest => (c :: rest).all Char.isDigit
  | _ => false

/-- The value of a digit in a base of at most 16. -/
def digit? (base : Nat) (c : Char) : Option Nat :=
  let n :=
    if '0' ≤ c ∧ c ≤ '9' then c.toNat - '0'.toNat
    else if 'a' ≤ c ∧ c ≤ 'f' then c.toNat - 'a'.toNat + 10
    else if 'A' ≤ c ∧ c ≤ 'F' then c.toNat - 'A'.toNat + 10
    else 16
  if n < base then some n else none

/-- Reads at least one digit of a base, to the end of the text. -/
def natural? (base : Nat) (s : List Char) : Option Nat :=
  if s.isEmpty then none
  else s.foldlM (fun n c => (digit? base c).map (n * base + ·)) 0

/-- The base that a number's marker announces, and the digits behind it. -/
def marker? : List Char → Option (Nat × List Char)
  | '0' :: 'x' :: rest => some (16, rest)
  | '0' :: 'o' :: rest => some (8, rest)
  | '0' :: 'b' :: rest => some (2, rest)
  | _ => none

/-- Reads an integer of any size. -/
def integer? (s : List Char) : Option Int :=
  let (negative, magnitude) := Binary64.splitSign s
  let natural :=
    match marker? magnitude with
    | some (base, digits) => natural? base digits
    | none => if isPaddedNumber s then none else natural? 10 magnitude
  natural.map fun n => if negative then -n else n

/-- Whether a 64-bit integer, with or without sign, holds the value. -/
def fitsWord (n : Int) : Bool :=
  -0x8000000000000000 ≤ n && n < 0x10000000000000000

/-- Whether a 128-bit integer, with or without sign, holds the value. -/
def fitsDoubleWord (n : Int) : Bool :=
  -0x80000000000000000000000000000000 ≤ n && n < 0x100000000000000000000000000000000

/-- Reads a float: one of the spellings of the infinities and NaN, or a decimal
number within the finite range. -/
def float? (s : List Char) : Option Binary64 :=
  let unsigned := match s with
    | '+' :: rest => rest
    | _ => s
  let isInfinity (w : List Char) :=
    w = ".inf".toList || w = ".Inf".toList || w = ".INF".toList
  if s.head? = some '+' && (unsigned.head? = some '+' || unsigned.head? = some '-') then none
  else if isInfinity unsigned then some (.infinite false)
  else if s.head? = some '-' && isInfinity s.tail then some (.infinite true)
  else if s = ".nan".toList || s = ".NaN".toList || s = ".NAN".toList then some .nan
  else (Binary64.readDecimal unsigned).filter Binary64.isFinite

/-- The value of a plain scalar. -/
def resolve (text : String) : Except Error Value :=
  let s := text.toList
  if s.isEmpty || isNullWord s then .ok .null
  else match bool? s with
    | some b => .ok (.bool b)
    | none =>
      match (integer? s).filter fitsDoubleWord with
      | some n => if fitsWord n then .ok (.integer n) else .error .integerOutOfRange
      | none =>
        if isPaddedNumber s then .ok (.string text)
        else match float? s with
          | some x => .ok (.float x)
          | none => .ok (.string text)

/-- Whether an unquoted text would be read as something else than a string, or
looks like a padded number, so that a string has to be quoted. -/
def needsQuotes (text : String) : Bool :=
  isPaddedNumber text.toList ||
    match resolve text with
    | .ok (.string _) => false
    | _ => true

end CloudCluster.Yaml.Plain
