import StackWatch.Decimal.Shortest
import StackWatch.Json.Basic

/-!
# Writing JSON

`Json.text` writes a value on one line without spaces, `Json.prettyText` over several lines with an
indentation of two spaces. Strings escape the quote, the backslash and the controls; everything else
stands for itself. A float is written with the fewest digits that read back as the same number;
JSON has no form for an infinity or for what is not a number, and `null` stands for these.
-/

namespace StackWatch.Json

/-- Floats are positional from `1e-5` up to below `1e16`, and have an exponent outside; of two
equally near decimals the even one is written. -/
def floatStyle : Decimal.Style := ⟨-5, 15, .toEven⟩

/-- Whether a float is neither infinite nor undefined. -/
def isFinite (x : Float) : Bool := Decimal.exponentField x.toBits != 2047

/-- A float as JSON text. -/
def floatText (x : Float) : String :=
  if isFinite x then String.ofList (floatStyle.write x) else "null"

/-- The escape of a control character by number. -/
def controlEscape (c : Char) : List Char :=
  ['\\', 'u', '0', '0'] ++ [Nat.digitChar (c.toNat / 16), Nat.digitChar (c.toNat % 16)]

/-- One character inside a JSON string. -/
def stringChar (c : Char) : List Char :=
  if c = '"' then ['\\', '"']
  else if c = '\\' then ['\\', '\\']
  else if c = '\x08' then ['\\', 'b']
  else if c = '\t' then ['\\', 't']
  else if c = '\n' then ['\\', 'n']
  else if c = '\x0c' then ['\\', 'f']
  else if c = '\r' then ['\\', 'r']
  else if c.toNat < 32 then controlEscape c
  else [c]

/-- A JSON string. -/
def stringText (s : String) : String :=
  String.ofList ('"' :: s.toList.flatMap stringChar ++ ['"'])

/-- A number as it stands in text. -/
def intText (n : Int) : String :=
  if n < 0 then "-" ++ String.ofList (Decimal.digitsOf n.natAbs)
  else String.ofList (Decimal.digitsOf n.natAbs)

mutual

/-- A value on one line. -/
def text : Json → String
  | .null => "null"
  | .bool true => "true"
  | .bool false => "false"
  | .int n => intText n
  | .float x => floatText x
  | .str s => stringText s
  | .arr [] => "[]"
  | .arr (item :: items) => "[" ++ text item ++ itemsText items ++ "]"
  | .obj [] => "\x7b\x7d"
  | .obj ((key, value) :: members) =>
    "\x7b" ++ stringText key ++ ":" ++ text value ++ membersText members ++ "\x7d"

/-- The items after the first. -/
def itemsText : List Json → String
  | [] => ""
  | item :: items => "," ++ text item ++ itemsText items

/-- The members after the first. -/
def membersText : List (String × Json) → String
  | [] => ""
  | (key, value) :: members =>
    "," ++ stringText key ++ ":" ++ text value ++ membersText members

end

/-- A line break followed by an indentation of `depth` steps. -/
def newLine (depth : Nat) : String := "\n" ++ String.ofList (List.replicate (2 * depth) ' ')

mutual

/-- A value over several lines; `depth` is the indentation of the line it starts on. -/
def prettyAt (depth : Nat) : Json → String
  | .arr (item :: items) =>
    "[" ++ newLine (depth + 1) ++ prettyAt (depth + 1) item ++ prettyItems (depth + 1) items ++
      newLine depth ++ "]"
  | .obj ((key, value) :: members) =>
    "\x7b" ++ newLine (depth + 1) ++ stringText key ++ ": " ++ prettyAt (depth + 1) value ++
      prettyMembers (depth + 1) members ++ newLine depth ++ "\x7d"
  | value => text value

/-- The items after the first, each on a line of its own. -/
def prettyItems (depth : Nat) : List Json → String
  | [] => ""
  | item :: items => "," ++ newLine depth ++ prettyAt depth item ++ prettyItems depth items

/-- The members after the first, each on a line of its own. -/
def prettyMembers (depth : Nat) : List (String × Json) → String
  | [] => ""
  | (key, value) :: members =>
    "," ++ newLine depth ++ stringText key ++ ": " ++ prettyAt depth value ++
      prettyMembers depth members

end

/-- A value over several lines. -/
def prettyText (value : Json) : String := prettyAt 0 value

end StackWatch.Json
