/-!
Digests: 64 lower-case hexadecimal digits.

The store of configs takes the function from texts to digests as a parameter
and assumes nothing of it.
-/

namespace CloudCluster

/-- The hexadecimal digit of a number below 16. -/
def hexDigit (n : Fin 16) : Char :=
  if n.val < 10 then Char.ofNat (48 + n.val) else Char.ofNat (87 + n.val)

/-- Whether a character is a lower-case hexadecimal digit. -/
def isHexDigit (c : Char) : Bool :=
  ('0' ≤ c && c ≤ '9') || ('a' ≤ c && c ≤ 'f')

theorem isHexDigit_hexDigit : ∀ n : Fin 16, isHexDigit (hexDigit n) = true := by
  decide

/-- A digest of a text. -/
structure Digest where
  digits : List Char
  length_digits : digits.length = 64
  all_digits : digits.all isHexDigit = true
  deriving DecidableEq

namespace Digest

/-- The digest as a text. -/
def text (digest : Digest) : String :=
  String.ofList digest.digits

/-- The first `n` digits. -/
def prefixText (digest : Digest) (n : Nat) : String :=
  String.ofList (digest.digits.take n)

end Digest

end CloudCluster
