import StackWatch.Decimal.Reading
import StackWatch.Json.Basic

/-!
# JSON numerals

A numeral is an optional minus sign, an integer part without leading zeros, an optional
fraction and an optional exponent. `Numeral.scan` cuts one off the front of a text.
`Numeral.value?` is the number it stands for: an integer when it has neither fraction nor
exponent and fits 64 bits, otherwise a float.

A float is read in one step of scaling: the leading digits that fit 64 bits are rounded to a float,
and that is multiplied or divided by a power of ten. So a numeral of up to fifteen digits with a
small exponent reads as the nearest float, and longer ones may be off in the last place. A numeral
beyond the range of floats has no value.
-/

namespace StackWatch.Json

/-- The parts of a numeral. -/
structure Numeral where
  negative : Bool
  /-- digits before the point -/
  whole : List Char
  /-- digits after the point, when there is a point -/
  fraction : Option (List Char)
  /-- sign and digits of the exponent, when there is one -/
  exponent : Option (Bool × List Char)

namespace Numeral

/-- A non-empty run of digits and what follows it. -/
def digits? (cs : List Char) : Option (List Char × List Char) :=
  match cs.takeWhile Decimal.isDigit with
  | [] => none
  | digits => some (digits, cs.dropWhile Decimal.isDigit)

/-- The integer part: a lone zero, or digits that do not begin with a zero. -/
def whole? (cs : List Char) : Option (List Char × List Char) :=
  match digits? cs with
  | some (['0'], rest) => some (['0'], rest)
  | some ('0' :: _ :: _, _) => none
  | other => other

/-- The exponent after its letter: an optional sign and digits. -/
def exponent? (cs : List Char) : Option ((Bool × List Char) × List Char) :=
  match cs with
  | '-' :: rest => (digits? rest).map fun (digits, rest) => ((true, digits), rest)
  | '+' :: rest => (digits? rest).map fun (digits, rest) => ((false, digits), rest)
  | rest => (digits? rest).map fun (digits, rest) => ((false, digits), rest)

/-- Cuts a numeral off the front of a text. -/
def scan (cs : List Char) : Option (Numeral × List Char) :=
  let negative := cs.head? == some '-'
  match whole? (if negative then cs.tail else cs) with
  | none => none
  | some (whole, rest) =>
    let fractionPart : Option (Option (List Char) × List Char) := match rest with
      | '.' :: rest => (digits? rest).map fun (digits, rest) => (some digits, rest)
      | rest => some (none, rest)
    match fractionPart with
    | none => none
    | some (fraction, rest) =>
      let exponentPart : Option (Option (Bool × List Char) × List Char) := match rest with
        | 'e' :: rest => (exponent? rest).map fun (exponent, rest) => (some exponent, rest)
        | 'E' :: rest => (exponent? rest).map fun (exponent, rest) => (some exponent, rest)
        | rest => some (none, rest)
      match exponentPart with
      | none => none
      | some (exponent, rest) => some (⟨negative, whole, fraction, exponent⟩, rest)

/-- Appends digits to a number as long as it fits 64 bits; also how many digits were taken. -/
def absorb (start : Nat) (digits : List Char) : Nat × Nat :=
  match digits with
  | [] => (start, 0)
  | c :: rest =>
    let next := 10 * start + Decimal.digitValue c
    if next < Nat.pow 2 64 then
      let (n, taken) := absorb next rest
      (n, taken + 1)
    else (start, 0)

/-- A float of up to 64 bits scaled by a power of ten; nothing when the result is beyond the range.
Powers below `10^(-308)` are divided out in steps, of which three reach zero from any start. -/
def scale (significand : Nat) (power : Int) : Option Float :=
  go 4 significand.toUInt64.toFloat power
where
  /-- At most `fuel` steps. -/
  go : Nat → Float → Int → Option Float
    | 0, x, _ => some x
    | fuel + 1, x, power =>
      if power.natAbs ≤ 308 then
        let ten := Float.ofScientific 1 false power.natAbs
        if 0 ≤ power then
          let y := x * ten
          if y.toBits == 0x7FF0000000000000 then none else some y
        else some (x / ten)
      else if x == 0 then some x
      else if 0 ≤ power then none
      else go fuel (x / Float.ofScientific 1 false 308) (power + 308)

/-- The float that a numeral stands for. -/
def float? (n : Numeral) : Option Float :=
  let (whole, taken) := absorb 0 n.whole
  let dropped : Int := n.whole.length - taken
  let (significand, places) := absorb whole (n.fraction.getD [])
  let start : Int := dropped - places
  let magnitude := match n.exponent with
    | none => scale significand start
    | some (negative, digits) =>
      let e := Decimal.natOfDigits digits
      if e ≥ Nat.pow 2 31 then
        if significand ≠ 0 ∧ negative = false then none else some 0
      else scale significand (if negative then start - e else start + e)
  magnitude.map fun x => if n.negative then -x else x

/-- The number that a numeral stands for. -/
def value? (n : Numeral) : Option Json :=
  let magnitude := Decimal.natOfDigits n.whole
  if n.fraction.isNone && n.exponent.isNone then
    if !n.negative && magnitude < Nat.pow 2 64 then some (.int magnitude)
    else if n.negative && magnitude ≠ 0 && magnitude ≤ Nat.pow 2 63 then some (.int (-magnitude))
    else n.float?.map .float
  else n.float?.map .float

end Numeral

end StackWatch.Json
