import CloudCluster.Decimal.Binary64

/-!
Dates and times in TOML.

A moment is a date, a time, or a date and a time with an optional offset
between them a `T`, in either case, or a space.
-/

namespace CloudCluster.Toml.Moment

/-- The value of `n` decimal digits at the start of a text, and the rest. -/
def digits? (n : Nat) (s : List Char) : Option (Nat × List Char) :=
  let word := s.take n
  if word.length = n && word.all Char.isDigit then
    some (Decimal.Binary64.natOfDigits word, s.drop n)
  else none

/-- The text behind a character. -/
def behind? (c : Char) : List Char → Option (List Char)
  | [] => none
  | first :: rest => if first = c then some rest else none

/-- Whether a year has a 29 February. -/
def isLeap (year : Nat) : Bool :=
  year % 4 = 0 && (year % 100 ≠ 0 || year % 400 = 0)

/-- The number of days in a month. -/
def daysIn (year month : Nat) : Nat :=
  if month = 2 then if isLeap year then 29 else 28
  else if month = 4 || month = 6 || month = 9 || month = 11 then 30
  else 31

/-- The text behind a date. -/
def date? (s : List Char) : Option (List Char) := do
  let (year, s) ← digits? 4 s
  let (month, s) ← digits? 2 (← behind? '-' s)
  let (day, s) ← digits? 2 (← behind? '-' s)
  if 1 ≤ month && month ≤ 12 && 1 ≤ day && day ≤ daysIn year month then some s else none

/-- The text behind hours and minutes. -/
def clock? (s : List Char) : Option (List Char) := do
  let (hour, s) ← digits? 2 s
  let (minute, s) ← digits? 2 (← behind? ':' s)
  if hour ≤ 23 && minute ≤ 59 then some s else none

/-- The text behind a time; its second may be a leap second, and have a
fraction. -/
def time? (s : List Char) : Option (List Char) := do
  let (second, s) ← digits? 2 (← behind? ':' (← clock? s))
  if second ≤ 60 then
    match s with
    | '.' :: rest =>
      if (rest.takeWhile Char.isDigit).isEmpty then none else some (rest.dropWhile Char.isDigit)
    | _ => some s
  else none

/-- Whether a text is nothing or an offset. -/
def isOffset (s : List Char) : Bool :=
  match s with
  | [] | ['Z'] | ['z'] => true
  | '+' :: rest | '-' :: rest => clock? rest = some []
  | _ => false

/-- Whether a text is a date. -/
def isDate (s : List Char) : Bool :=
  date? s = some []

/-- Whether a text is a moment. -/
def isMoment (s : List Char) : Bool :=
  match date? s with
  | some [] => true
  | some (c :: rest) =>
    (c = 'T' || c = 't' || c = ' ') &&
      match time? rest with
      | some rest => isOffset rest
      | none => false
  | none => time? s = some []

end CloudCluster.Toml.Moment
