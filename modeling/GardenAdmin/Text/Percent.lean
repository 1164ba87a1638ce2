/-!
# Percent-encoded path segments

`encodeSegment` writes the UTF-8 bytes of a text: the unreserved URL characters as they are and
every other byte as `%` and two upper-case hexadecimal digits. `decodeSegment?` reads the bytes back.
-/

namespace GardenAdmin.Text

/-- The bytes of a text in UTF-8. -/
def utf8 (s : String) : List UInt8 := s.toList.flatMap String.utf8EncodeChar

/-- The bytes that stand for themselves in a URL: letters, digits and `-._~`. -/
def isUnreserved (b : UInt8) : Bool :=
  (0x30 ≤ b && b ≤ 0x39) || (0x41 ≤ b && b ≤ 0x5A) || (0x61 ≤ b && b ≤ 0x7A) ||
    b == 0x2D || b == 0x2E || b == 0x5F || b == 0x7E

/-- The upper-case hexadecimal digit of a number below 16. -/
def upperHexDigit (n : Nat) : Char :=
  if n < 10 then Char.ofNat (0x30 + n) else Char.ofNat (0x37 + n)

/-- The value of an upper-case hexadecimal digit. -/
def upperHexValue? (c : Char) : Option Nat :=
  if '0' ≤ c ∧ c ≤ '9' then some (c.toNat - 0x30)
  else if 'A' ≤ c ∧ c ≤ 'F' then some (c.toNat - 0x37)
  else none

def encodeByte (b : UInt8) : List Char :=
  if isUnreserved b then [Char.ofNat b.toNat]
  else ['%', upperHexDigit (b.toNat / 16), upperHexDigit (b.toNat % 16)]

/-- The text as one path segment. -/
def encodeSegment (s : String) : String := .ofList ((utf8 s).flatMap encodeByte)

/-- The bytes an encoded segment stands for; `none` where a `%` lacks its two digits. -/
def decodeSegment? : List Char → Option (List UInt8)
  | [] => some []
  | '%' :: h :: l :: cs => do
    let high ← upperHexValue? h
    let low ← upperHexValue? l
    return UInt8.ofNat (16 * high + low) :: (← decodeSegment? cs)
  | c :: cs => if c = '%' then none else (String.utf8EncodeChar c ++ ·) <$> decodeSegment? cs

end GardenAdmin.Text
