/-!
# Percent-encoding

A text put into a URL's query is written byte by byte in UTF-8: the unreserved characters stand for
themselves and every other byte becomes `%` and two upper-case hexadecimal digits. `decode` reads
such a text back as bytes.
-/

namespace StackWatch.Percent

/-- The upper-case hexadecimal digit of a number below sixteen. -/
def hexDigit (n : Nat) : Char := Char.ofNat (if n < 10 then 48 + n else 55 + n)

/-- The value of a hexadecimal digit of either case. -/
def hexValue? (c : Char) : Option Nat :=
  let n := c.toNat
  if 48 ≤ n ∧ n ≤ 57 then some (n - 48)
  else if 65 ≤ n ∧ n ≤ 70 then some (n - 55)
  else if 97 ≤ n ∧ n ≤ 102 then some (n - 87)
  else none

/-- A byte as `%` and two digits. -/
def escapeByte (b : UInt8) : List Char :=
  ['%', hexDigit (b.toNat / 16), hexDigit (b.toNat % 16)]

/-- Letters and digits of ASCII and the four marks `-`, `.`, `_` and `~`. -/
def isUnreserved (b : UInt8) : Bool :=
  let n := b.toNat
  (48 ≤ n && n ≤ 57) || (65 ≤ n && n ≤ 90) || (97 ≤ n && n ≤ 122) ||
    n == 45 || n == 46 || n == 95 || n == 126

/-- The bytes of a text in UTF-8. -/
def bytesOf (s : String) : List UInt8 := s.toByteArray.data.toList

/-- Writes the bytes for which `keep` holds as their ASCII characters and escapes the others. -/
def encodeBytes (keep : UInt8 → Bool) (bytes : List UInt8) : List Char :=
  bytes.flatMap fun b => if keep b then [Char.ofNat b.toNat] else escapeByte b

/-- A text with everything but the unreserved characters escaped. -/
def encode (s : String) : String := String.ofList (encodeBytes isUnreserved (bytesOf s))

/-- The bytes that an escaped text stands for; a `%` without two digits after it stands for
itself. -/
def decode : List Char → List UInt8
  | [] => []
  | '%' :: h :: l :: rest =>
    match hexValue? h, hexValue? l with
    | some hi, some lo => UInt8.ofNat (16 * hi + lo) :: decode rest
    | _, _ => '%'.toNat.toUInt8 :: decode (h :: l :: rest)
  | c :: rest => c.toNat.toUInt8 :: decode rest
termination_by cs => cs.length

end StackWatch.Percent
