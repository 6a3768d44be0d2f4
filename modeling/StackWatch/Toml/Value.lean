import StackWatch.Decimal.Reading
import StackWatch.Json.Basic
import StackWatch.Text.Percent

/-!
# Values in TOML

The values that a configuration is written with: strings on one line, basic or literal, numbers,
truth values and arrays of them. A value is read into the `Json` value that it stands for.

Arrays nest less than `depthLimit` deep. In a number, underscores may separate digits. An integer
fits 64 bits with its sign; one that does not is no value at all, and neither is a decimal number
above the range of floats.
-/

namespace StackWatch.Toml

/-- Whether a character may stand between tokens of a line. -/
def isBlank (c : Char) : Bool := c == ' ' || c == '\t'

/-- A text without the blanks at its front. -/
def skipBlanks (cs : List Char) : List Char := cs.dropWhile isBlank

/-- Whether a character may stand in a comment or in a string: no control except the tab. -/
def isPlain (c : Char) : Bool := c == '\t' || (32 ≤ c.toNat && c.toNat != 127)

/-- What follows a comment, if there is one at the front. -/
def skipComment : List Char → List Char
  | '#' :: rest => rest.dropWhile isPlain
  | cs => cs

/-- What follows a line break. -/
def lineBreak? : List Char → Option (List Char)
  | '\n' :: rest => some rest
  | '\r' :: '\n' :: rest => some rest
  | _ => none

/-- What follows blanks, line breaks and comments; nothing if a comment runs on. -/
def skipLines : Nat → List Char → Option (List Char)
  | 0, _ => none
  | fuel + 1, cs =>
    match skipBlanks cs with
    | '#' :: rest =>
      match lineBreak? (rest.dropWhile isPlain) with
      | some rest => skipLines fuel rest
      | none => none
    | cs =>
      match lineBreak? cs with
      | some rest => skipLines fuel rest
      | none => some cs

/-! ## Strings -/

/-- The value of hexadecimal digits, as many as asked for, and what follows them. -/
def hexNumber? : Nat → Nat → List Char → Option (Nat × List Char)
  | 0, n, cs => some (n, cs)
  | _ + 1, _, [] => none
  | count + 1, n, c :: rest =>
    match Percent.hexValue? c with
    | some d => hexNumber? count (16 * n + d) rest
    | none => none

/-- The character of an escape by number, which is no half of a surrogate pair. -/
def numberEscape? (digits : Nat) (cs : List Char) : Option (Char × List Char) :=
  match hexNumber? digits 0 cs with
  | some (code, rest) => if code.isValidChar then some (Char.ofNat code, rest) else none
  | none => none

/-- The character of a backslash and what follows it. -/
def escape? : List Char → Option (Char × List Char)
  | 'b' :: rest => some ('\x08', rest)
  | 't' :: rest => some ('\t', rest)
  | 'n' :: rest => some ('\n', rest)
  | 'f' :: rest => some ('\x0c', rest)
  | 'r' :: rest => some ('\r', rest)
  | '"' :: rest => some ('"', rest)
  | '\\' :: rest => some ('\\', rest)
  | 'u' :: rest => numberEscape? 4 rest
  | 'U' :: rest => numberEscape? 8 rest
  | _ => none

/-- The rest of a basic string after its opening quote, read into the characters `read`, the last
first. -/
def basicTail : Nat → List Char → List Char → Option (String × List Char)
  | 0, _, _ => none
  | fuel + 1, read, cs =>
    match cs with
    | [] => none
    | '"' :: rest => some (String.ofList read.reverse, rest)
    | '\\' :: rest =>
      match escape? rest with
      | some (c, rest) => basicTail fuel (c :: read) rest
      | none => none
    | c :: rest => if isPlain c then basicTail fuel (c :: read) rest else none

/-- A basic string after its opening quote. -/
def basic? (cs : List Char) : Option (String × List Char) := basicTail (cs.length + 1) [] cs

/-- A literal string after its opening quote. -/
def literal? (cs : List Char) : Option (String × List Char) :=
  let within (c : Char) : Bool := c != '\'' && isPlain c
  match cs.dropWhile within with
  | '\'' :: rest => some (String.ofList (cs.takeWhile within), rest)
  | _ => none

/-! ## Numbers -/

/-- Digits without the underscores between them. -/
def ungroup? (digit : Char → Bool) : List Char → Option (List Char)
  | [] => none
  | [c] => if digit c then some [c] else none
  | c :: '_' :: rest => if digit c then (ungroup? digit rest).map (c :: ·) else none
  | c :: rest => if digit c then (ungroup? digit rest).map (c :: ·) else none

/-- Digits of a whole number in decimal, which do not begin with a zero for nothing. -/
def whole? (cs : List Char) : Option (List Char) :=
  match ungroup? Decimal.isDigit cs with
  | some ('0' :: _ :: _) => none
  | digits => digits

/-- An integer in the range of 64 bits with a sign. -/
def int64? (n : Int) : Option Json :=
  if -(Nat.pow 2 63 : Nat) ≤ n ∧ n < (Nat.pow 2 63 : Nat) then some (.int n) else none

/-- The digits of a base, and the number that they spell. -/
def inBase? (base : Nat) (cs : List Char) : Option Json :=
  match ungroup? (fun c => (Percent.hexValue? c).any (· < base)) cs with
  | none => none
  | some digits =>
    let n : Nat := digits.foldl (fun n c => n * base + (Percent.hexValue? c).getD 0) 0
    int64? n

/-- A sign, if there is one, as whether it is a minus, and the rest. -/
def signOf : List Char → Bool × List Char
  | '-' :: rest => (true, rest)
  | '+' :: rest => (false, rest)
  | cs => (false, cs)

/-- The digits of an exponent, with its sign. -/
def exponent? (cs : List Char) : Option (List Char) :=
  let (negative, digits) := signOf cs
  (ungroup? Decimal.isDigit digits).map fun digits => if negative then '-' :: digits else digits

/-- The characters of a decimal number without sign in the form that `Decimal.parse?` reads. -/
def decimal? (cs : List Char) : Option (List Char) :=
  let isMark (c : Char) : Bool := c == 'e' || c == 'E'
  let body := cs.takeWhile (!isMark ·)
  let whole := body.takeWhile (· != '.')
  let places : Option (List Char) :=
    match body.dropWhile (· != '.') with
    | [] => some []
    | _ :: digits => (ungroup? Decimal.isDigit digits).map ('.' :: ·)
  let power : Option (List Char) :=
    match cs.dropWhile (!isMark ·) with
    | [] => some []
    | _ :: rest => (exponent? rest).map ('e' :: ·)
  match whole? whole, places, power with
  | some whole, some places, some power => some (whole ++ places ++ power)
  | _, _, _ => none

/-- A float, given its sign and what follows it. -/
def float? (negative : Bool) (cs : List Char) : Option Float :=
  let signed (x : Float) : Float := if negative then -x else x
  if cs = "inf".toList then some (signed (1.0 / 0.0))
  else if cs = "nan".toList then some (signed (0.0 / 0.0))
  else
    match (decimal? cs).bind fun text => Decimal.parse? (String.ofList text) with
    | some x => if signed x == 1.0 / 0.0 then none else some (signed x)
    | none => none

/-- A number. -/
def number? (cs : List Char) : Option Json :=
  match cs with
  | '0' :: 'x' :: digits => inBase? 16 digits
  | '0' :: 'o' :: digits => inBase? 8 digits
  | '0' :: 'b' :: digits => inBase? 2 digits
  | cs =>
    let (negative, digits) := signOf cs
    match whole? digits with
    | some digits =>
      let n : Nat := Decimal.natOfDigits digits
      int64? (if negative then -n else n)
    | none => (float? negative digits).map .float

/-! ## Values -/

/-- Whether a character may stand in a word: a number or a truth value. -/
def inWord (c : Char) : Bool := c.isAlphanum || c == '+' || c == '-' || c == '.' || c == '_'

/-- The value of a word. -/
def word? (cs : List Char) : Option Json :=
  if cs = "true".toList then some (.bool true)
  else if cs = "false".toList then some (.bool false)
  else number? cs

/-- The depth that arrays do not reach. -/
def depthLimit : Nat := 80

mutual

/-- A value at the front of a text that has no blanks in front, inside of so many arrays. -/
def valueAt : Nat → Nat → List Char → Option (Json × List Char)
  | 0, _, _ => none
  | fuel + 1, depth, cs =>
    match cs with
    | '"' :: rest => (basic? rest).map fun (s, rest) => (.str s, rest)
    | '\'' :: rest => (literal? rest).map fun (s, rest) => (.str s, rest)
    | '[' :: rest =>
      if depth + 1 < depthLimit then
        (itemsAt fuel (depth + 1) rest).map fun (items, rest) => (.arr items, rest)
      else none
    | cs => (word? (cs.takeWhile inWord)).map fun value => (value, cs.dropWhile inWord)

/-- The items of an array up to its closing bracket, which a comma may precede, inside of so many
arrays with itself. -/
def itemsAt : Nat → Nat → List Char → Option (List Json × List Char)
  | 0, _, _ => none
  | fuel + 1, depth, cs =>
    match skipLines (cs.length + 1) cs with
    | none => none
    | some (']' :: rest) => some ([], rest)
    | some rest =>
      match valueAt fuel depth rest with
      | none => none
      | some (item, rest) =>
        match skipLines (rest.length + 1) rest with
        | some (',' :: rest) =>
          (itemsAt fuel depth rest).map fun (items, rest) => (item :: items, rest)
        | some (']' :: rest) => some ([item], rest)
        | _ => none

end

/-- A value and what follows it. -/
def value? (cs : List Char) : Option (Json × List Char) :=
  valueAt (2 * cs.length + 2) 0 (skipBlanks cs)

end StackWatch.Toml
