import CloudCluster.Decimal.Binary64

/-!
The shortest decimal text of a binary number.

The reals that round to a finite number form an interval, whose ends belong to
it iff the mantissa is even. `shortest` finds the fewest digits that name a
real of the interval and, among these, the digits nearest to the number.
`Layout` says how digits and an exponent are written.
-/

namespace CloudCluster.Decimal

/-- A positive rational number. -/
structure Ratio where
  num : Nat
  den : Nat

namespace Ratio

/-- `n · 2 ^ e`. -/
def ofBinary (n : Nat) (e : Int) : Ratio :=
  ⟨n * Nat.pow 2 e.toNat, Nat.pow 2 (-e).toNat⟩

/-- `n · 10 ^ e`. -/
def ofDecimal (n : Nat) (e : Int) : Ratio :=
  ⟨n * Nat.pow 10 e.toNat, Nat.pow 10 (-e).toNat⟩

/-- Whether `a < b`. -/
def lt (a b : Ratio) : Bool :=
  a.num * b.den < b.num * a.den

/-- Whether `a ≤ b`. -/
def le (a b : Ratio) : Bool :=
  a.num * b.den ≤ b.num * a.den

/-- The greatest `n` with `n · 10 ^ e ≤ a`. -/
def floorAt (a : Ratio) (e : Int) : Nat :=
  a.num * Nat.pow 10 (-e).toNat / (a.den * Nat.pow 10 e.toNat)

/-- The number of digits before the decimal point of a positive number, zero or
less if it is below one. -/
def pointPosition (a : Ratio) : Int :=
  let estimate : Int := Binary64.digitCount a.num - Binary64.digitCount a.den
  if le (ofDecimal 1 estimate) a then estimate + 1 else estimate

/-- The distance of `a` to `n · 10 ^ e`. -/
def distance (a : Ratio) (n : Nat) (e : Int) : Ratio :=
  let b := ofDecimal n e
  let x := a.num * b.den
  let y := b.num * a.den
  ⟨if x ≤ y then y - x else x - y, a.den * b.den⟩

end Ratio

/-- The reals that round to a finite number. -/
structure Interval where
  low : Ratio
  high : Ratio
  closed : Bool

namespace Interval

/-- The interval of `mantissa · 2 ^ exponent`: it reaches half-way to both
neighbours, and the lower one is nearer below a power of two. -/
def ofNumber (mantissa : Nat) (exponent : Int) : Interval where
  low :=
    if mantissa = Binary64.hiddenBit && exponent > Binary64.minExponent then
      .ofBinary (4 * mantissa - 1) (exponent - 2)
    else .ofBinary (2 * mantissa - 1) (exponent - 1)
  high := .ofBinary (2 * mantissa + 1) (exponent - 1)
  closed := mantissa % 2 = 0

/-- Whether `n · 10 ^ e` is in the interval. -/
def contains (interval : Interval) (n : Nat) (e : Int) : Bool :=
  let r := Ratio.ofDecimal n e
  if interval.closed then interval.low.le r && r.le interval.high
  else interval.low.lt r && r.lt interval.high

end Interval

/-- The point of the grid `10 ^ e` that lies in the interval, the nearer one to
`value` if there are two; on a tie the even one. -/
def gridPoint? (value : Ratio) (interval : Interval) (e : Int) : Option Nat :=
  let below := value.floorAt e
  let above := below + 1
  match below ≠ 0 && interval.contains below e, interval.contains above e with
  | false, false => none
  | true, false => some below
  | false, true => some above
  | true, true =>
    let down := value.distance below e
    let up := value.distance above e
    if down.lt up then some below
    else if up.lt down then some above
    else if below % 2 = 0 then some below else some above

/-- Moves the zeros at the end of `n` into the exponent. -/
def dropZeros : Nat → Nat → Int → Nat × Int
  | 0, n, e => (n, e)
  | fuel + 1, n, e =>
    if n % 10 = 0 && n ≠ 0 then dropZeros fuel (n / 10) (e + 1) else (n, e)

/-- Tries grids of more and more digits. -/
def searchGrid (value : Ratio) (interval : Interval) (position : Int) :
    Nat → Nat → Nat × Int
  | 0, count =>
    let e := position - count
    (value.floorAt e, e)
  | more + 1, count =>
    let e := position - count
    match gridPoint? value interval e with
    | some n => dropZeros 20 n e
    | none => searchGrid value interval position more (count + 1)

/-- The digits and the exponent of the shortest decimal that rounds to the
positive number `mantissa · 2 ^ exponent`. Seventeen digits always suffice. -/
def shortest (mantissa : Nat) (exponent : Int) : Nat × Int :=
  let value := Ratio.ofBinary mantissa exponent
  searchGrid value (.ofNumber mantissa exponent) value.pointPosition 17 1

/-- How a number is written: without an exponent if its point stands after at
most `maxWhole` digits and before at most `maxZeros` zeros, and with the given
texts for what has no digits. -/
structure Layout where
  maxWhole : Int
  maxZeros : Int
  infinity : String
  negativeInfinity : String
  nan : String

namespace Layout

/-- Writes `digits · 10 ^ exponent`. A whole number gets `.0`, and an exponent
follows the first digit. -/
def writeDigits (layout : Layout) (digits : Nat) (exponent : Int) : String :=
  let text := Nat.toDigits 10 digits
  let position : Int := text.length + exponent
  if 0 ≤ exponent && position ≤ layout.maxWhole then
    String.ofList (text ++ List.replicate exponent.toNat '0') ++ ".0"
  else if 0 < position && position ≤ layout.maxWhole then
    String.ofList (text.take position.toNat ++ ['.'] ++ text.drop position.toNat)
  else if -layout.maxZeros ≤ position && position ≤ 0 then
    "0." ++ String.ofList (List.replicate (-position).toNat '0' ++ text)
  else match text with
    | [digit] => String.singleton digit ++ "e" ++ toString (position - 1)
    | digit :: more =>
      String.ofList (digit :: '.' :: more) ++ "e" ++ toString (position - 1)
    | [] => ""

/-- Writes a number. -/
def write (layout : Layout) : Binary64 → String
  | .nan => layout.nan
  | .infinite negative => if negative then layout.negativeInfinity else layout.infinity
  | .finite negative mantissa exponent =>
    let sign := if negative then "-" else ""
    if mantissa = 0 then sign ++ "0.0"
    else
      let (digits, exponent) := shortest mantissa exponent
      sign ++ layout.writeDigits digits exponent

end Layout

end CloudCluster.Decimal
