/-!
Reading bytes as text.

`decode?` accepts exactly the UTF-8 texts; `decodeLossy` accepts all bytes and
puts one replacement character where a maximal part of a character is broken
off, so that `decodeLossy` agrees with `decode?` on every text.
-/

namespace CloudCluster.Text

/-- The bytes of a text. -/
def encode (s : String) : ByteArray :=
  s.toUTF8

/-- The text that the bytes encode, if they encode one. -/
def decode? (bytes : ByteArray) : Option String :=
  String.fromUTF8? bytes

theorem decode?_encode (s : String) : decode? (encode s) = some s := by
  simp [decode?, encode, String.fromUTF8?, s.isValidUTF8, String.fromUTF8]

/-- U+FFFD, which stands for bytes that encode no character. -/
def replacement : Char := '\uFFFD'

/-- Whether `b` can only continue a character. -/
def isContinuation (b : UInt8) : Bool :=
  0x80 ≤ b && b ≤ 0xBF

/-- The length of the character that `lead` begins, with the bytes that may
stand second; `none` if no character begins so. Overlong forms, surrogates and
values past the last code point are excluded by the second byte. -/
def leadByte (lead : UInt8) : Option (Nat × UInt8 × UInt8) :=
  if lead ≤ 0x7F then some (1, 0x80, 0xBF)
  else if 0xC2 ≤ lead && lead ≤ 0xDF then some (2, 0x80, 0xBF)
  else if lead = 0xE0 then some (3, 0xA0, 0xBF)
  else if lead = 0xED then some (3, 0x80, 0x9F)
  else if 0xE1 ≤ lead && lead ≤ 0xEF then some (3, 0x80, 0xBF)
  else if lead = 0xF0 then some (4, 0x90, 0xBF)
  else if lead = 0xF4 then some (4, 0x80, 0x8F)
  else if 0xF1 ≤ lead && lead ≤ 0xF3 then some (4, 0x80, 0xBF)
  else none

/-- The six payload bits of a continuation byte. -/
def payload (b : UInt8) : Nat :=
  b.toNat % 64

/-- The character at the head of the bytes, or the replacement for its longest
well-formed beginning, and how many bytes after the first it takes. -/
def decodeHead (lead : UInt8) (rest : List UInt8) : Char × Nat :=
  match leadByte lead with
  | none => (replacement, 0)
  | some (len, low, high) =>
    if len = 1 then (Char.ofNat lead.toNat, 0)
    else match rest with
      | [] => (replacement, 0)
      | second :: rest =>
        if second < low || high < second then (replacement, 0)
        else if len = 2 then
          (Char.ofNat (lead.toNat % 32 * 64 + payload second), 1)
        else match rest with
          | [] => (replacement, 1)
          | third :: rest =>
            if !isContinuation third then (replacement, 1)
            else if len = 3 then
              (Char.ofNat (lead.toNat % 16 * 4096 + payload second * 64 + payload third), 2)
            else match rest with
              | [] => (replacement, 2)
              | fourth :: _ =>
                if !isContinuation fourth then (replacement, 2)
                else
                  (Char.ofNat (lead.toNat % 8 * 262144 + payload second * 4096
                    + payload third * 64 + payload fourth), 3)

/-- The text of any bytes, with replacement characters for what is no text. -/
def decodeLossy : List UInt8 → List Char
  | [] => []
  | lead :: rest =>
    let head := decodeHead lead rest
    head.1 :: decodeLossy (rest.drop head.2)
termination_by bytes => bytes.length
decreasing_by simp only [List.length_cons, List.length_drop]; omega

/-- `decodeLossy` on byte arrays. -/
def decodeLossyText (bytes : ByteArray) : String :=
  String.ofList (decodeLossy bytes.toList)

end CloudCluster.Text
