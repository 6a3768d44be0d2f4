/-!
# The shortest decimal of a binary64 number

Every finite positive binary64 number is `m · 2^q`. The reals that round to it form an interval
around it, whose ends belong to it when `m` is even. `shortest` finds the decimal `d · 10^k` with
the fewest digits in that interval and, among those, the nearest to the number: it tries one, two,
… seventeen digits and looks, on the grid of each, at the two points next to the number. If any
point of a grid lies in the interval, one of these two does. The number may lie exactly halfway
between the two, as `1125899906842624.25` does on the grid of sixteen digits; a `Tie` then names
the point.

Everything is exact arithmetic on natural numbers.
-/

namespace StackWatch.Decimal

/-- Which of two equally near decimals stands for a number. -/
inductive Tie where
  /-- the one with the even last digit -/
  | toEven
  /-- the one of the greater magnitude -/
  | awayFromZero
  deriving DecidableEq, Inhabited

/-- Whether `d` is preferred to `d + 1` when both are equally near. -/
def Tie.keeps : Tie → Nat → Bool
  | toEven, d => d % 2 == 0
  | awayFromZero, _ => false

/-- A positive number `numerator / denominator` with the ends of the interval of reals that round to
it, over the same denominator. -/
structure Interval where
  numerator : Nat
  low : Nat
  high : Nat
  denominator : Nat
  /-- whether the ends belong to the interval -/
  closed : Bool

/-- The interval of a finite positive binary64 number, given by the fields of its bits. The spacing
below a power of two is half the spacing above it, except at the smallest normal number. -/
def Interval.ofFields (exponent fraction : Nat) : Interval :=
  let m := if exponent = 0 then fraction else Nat.pow 2 52 + fraction
  let below := if fraction = 0 ∧ exponent > 1 then 1 else 2
  -- a quarter of the number's unit is `2 ^ (max exponent 1 - 1077)`
  let e := max exponent 1
  let scale := Nat.pow 2 (e - 1077)
  { numerator := 4 * m * scale
    low := (4 * m - below) * scale
    high := (4 * m + 2) * scale
    denominator := Nat.pow 2 (1077 - e)
    closed := m % 2 == 0 }

/-- The interval multiplied by `10 ^ (-k)`. -/
def Interval.scale (i : Interval) (k : Int) : Interval :=
  match k with
  | .ofNat n => { i with denominator := i.denominator * Nat.pow 10 n }
  | .negSucc n =>
    let f := Nat.pow 10 (n + 1)
    { i with numerator := i.numerator * f, low := i.low * f, high := i.high * f }

/-- Whether the natural number `d` lies in the interval. -/
def Interval.holds (i : Interval) (d : Nat) : Bool :=
  if i.closed then i.low ≤ d * i.denominator && d * i.denominator ≤ i.high
  else i.low < d * i.denominator && d * i.denominator < i.high

/-- The nearest natural number of those next to the interval's number that lie in the interval; of
two equally near, the one that `tie` names. -/
def Interval.nearest? (i : Interval) (tie : Tie) : Option Nat :=
  let d := i.numerator / i.denominator
  let rest := i.numerator % i.denominator
  match i.holds d, i.holds (d + 1) with
  | true, true =>
    if 2 * rest < i.denominator || (2 * rest == i.denominator && tie.keeps d) then some d
    else some (d + 1)
  | true, false => some d
  | false, true => some (d + 1)
  | false, false => none

/-- The power of ten of the first digit of `numerator / denominator`, sought downwards from
`start`. -/
def leadingPower (numerator denominator : Nat) : Nat → Int → Int
  | 0, k => k
  | fuel + 1, k =>
    let reached : Bool := match k with
      | .ofNat n => denominator * Nat.pow 10 n ≤ numerator
      | .negSucc n => denominator ≤ numerator * Nat.pow 10 (n + 1)
    if reached then k else leadingPower numerator denominator fuel (k - 1)

/-- Tries grids with `digits`, `digits + 1`, … digits. -/
def Interval.shortestFrom (i : Interval) (tie : Tie) (leading : Int) : Nat → Nat → Nat × Int
  | 0, digits =>
    let k := leading + 1 - digits
    let j := i.scale k
    (j.numerator / j.denominator, k)
  | fuel + 1, digits =>
    let k := leading + 1 - digits
    match (i.scale k).nearest? tie with
    | some d => (d, k)
    | none => i.shortestFrom tie leading fuel (digits + 1)

/-- Moves trailing zeros of the digits into the exponent. -/
def dropZeros : Nat → Nat × Int → Nat × Int
  | 0, r => r
  | fuel + 1, (d, k) => if d ≠ 0 ∧ d % 10 = 0 then dropZeros fuel (d / 10, k + 1) else (d, k)

/-- The exponent field of the bits of a binary64 number. -/
def exponentField (bits : UInt64) : Nat := (bits.toNat / Nat.pow 2 52) % Nat.pow 2 11

/-- The fraction field of the bits of a binary64 number. -/
def fractionField (bits : UInt64) : Nat := bits.toNat % Nat.pow 2 52

/-- The sign bit. -/
def signField (bits : UInt64) : Bool := bits.toNat / Nat.pow 2 63 == 1

/-- The shortest decimal `d · 10^k` of the magnitude of a finite binary64 number that is not zero:
the pair `(d, k)`, where `d` does not end in a zero. -/
def shortest (tie : Tie) (bits : UInt64) : Nat × Int :=
  let i := Interval.ofFields (exponentField bits) (fractionField bits)
  let leading := leadingPower i.numerator i.denominator 640 309
  dropZeros 20 (i.shortestFrom tie leading 17 1)

/-- How a decimal is written out. -/
structure Style where
  /-- the lowest power of ten that a first digit after the point may have in positional form -/
  lowest : Int
  /-- the highest power of ten that a first digit may have in positional form -/
  highest : Int
  /-- which of two equally near decimals is written -/
  tie : Tie

/-- The decimal digits of a number. -/
def digitsOf (n : Nat) : List Char := Nat.toDigits 10 n

/-- A decimal `d · 10^k` in positional form, with at least one digit after the point. -/
def positional (digits : List Char) (k : Int) : List Char :=
  let point : Int := digits.length + k
  if 0 ≤ k then digits ++ List.replicate k.toNat '0' ++ ['.', '0']
  else if 0 < point then digits.take point.toNat ++ '.' :: digits.drop point.toNat
  else '0' :: '.' :: List.replicate (-point).toNat '0' ++ digits

/-- A decimal `d · 10^k` with one digit before the point and a signed exponent. -/
def scientific (digits : List Char) (k : Int) : List Char :=
  let power : Int := digits.length + k - 1
  let mantissa := match digits with
    | [] => []
    | [d] => [d]
    | d :: rest => d :: '.' :: rest
  let sign := if power < 0 then '-' else '+'
  mantissa ++ 'e' :: sign :: digitsOf power.natAbs

/-- A finite number in the given style: always with a point or an exponent, and with the sign of a
negative zero. -/
def Style.write (style : Style) (x : Float) : List Char :=
  let bits := x.toBits
  let sign := if signField bits then ['-'] else []
  if exponentField bits = 0 ∧ fractionField bits = 0 then sign ++ ['0', '.', '0']
  else
    let (d, k) := shortest style.tie bits
    let digits := digitsOf d
    let power : Int := digits.length + k - 1
    let body :=
      if style.lowest ≤ power ∧ power ≤ style.highest then positional digits k
      else scientific digits k
    sign ++ body

end StackWatch.Decimal
