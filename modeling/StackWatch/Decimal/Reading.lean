/-!
# Reading a decimal as a binary64 number

`parse?` reads a numeral as the nearest binary64 number, half-way cases to the even neighbour:
digits with at most one point and at least one digit, an optional exponent, an optional sign, or one
of the words `inf`, `infinity` and `nan` in any letter case. A magnitude beyond the range reads as
infinity, one below it as zero. No blanks and no digit separators are allowed.
-/

namespace StackWatch.Decimal

/-- Whether a character is a digit of ASCII. -/
def isDigit (c : Char) : Bool := 48 ≤ c.toNat && c.toNat ≤ 57

/-- The value of a digit. -/
def digitValue (c : Char) : Nat := c.toNat - 48

/-- The number that a list of digits writes. -/
def natOfDigits (digits : List Char) : Nat :=
  digits.foldl (fun n c => 10 * n + digitValue c) 0

/-- Reads a sign, if there is one, and then a magnitude. -/
def signed {α : Type} [Neg α] (magnitude? : List Char → Option α) : List Char → Option α
  | '+' :: cs => magnitude? cs
  | '-' :: cs => (magnitude? cs).map (- ·)
  | cs => magnitude? cs

/-- A non-empty list of digits as a number. -/
def whole? (digits : List Char) : Option Int :=
  if digits.isEmpty || !digits.all isDigit then none else some (natOfDigits digits)

/-- The digits behind a point, if there is one at the front, and what follows them. -/
def fraction : List Char → List Char × List Char
  | '.' :: rest => (rest.takeWhile isDigit, rest.dropWhile isDigit)
  | rest => ([], rest)

/-- The power of ten that a numeral ends in: zero if it ends without one. -/
def power? : List Char → Option Int
  | [] => some 0
  | c :: rest => if c = 'e' || c = 'E' then signed whole? rest else none

/-- The magnitude written by digits with at most one point and an optional exponent. -/
def magnitude? (cs : List Char) : Option Float :=
  let whole := cs.takeWhile isDigit
  let (places, rest) := fraction (cs.dropWhile isDigit)
  if whole.isEmpty && places.isEmpty then none
  else
    (power? rest).map fun power =>
      let exponent : Int := power - places.length
      Float.ofScientific (natOfDigits (whole ++ places)) (exponent < 0) exponent.natAbs

/-- A numeral without its sign. -/
def unsigned? (cs : List Char) : Option Float :=
  let word := cs.map Char.toLower
  if word = "inf".toList ∨ word = "infinity".toList then some (Float.ofBits 0x7FF0000000000000)
  else if word = "nan".toList then some (Float.ofBits 0x7FF8000000000000)
  else magnitude? cs

/-- The number that a numeral writes. -/
def parse? (s : String) : Option Float := signed unsigned? s.toList

end StackWatch.Decimal
