/-!
# Names of fields

Services spell the names of their fields in several ways: `maxTotalCores`, `vcpus`,
`OS-EXT-STS:power_state`. `snakeCase` brings them into one form, in which words are in lower
case with underscores between them; a namespace in front of a colon stays until
`stripNamespace` removes it.

The separators `.` and `:` are untouched, and a word never runs across one.
-/

namespace StackWatch

/-- Whether a word begins at a capital, by its neighbours: the capital follows a small letter or a
digit, or it is the last of several capitals and a small letter follows. -/
def beginsWord (before : Option Char) (after : List Char) : Bool :=
  match before with
  | none => false
  | some p =>
    p.isLower || p.isDigit ||
      p.isUpper && match after with
        | [] => false
        | n :: _ => n.isLower

/-- One character in the common form: small, and an underscore for a hyphen. -/
def plainChar (c : Char) : Char := if c = '-' then '_' else c.toLower

/-- The characters in the common form, given the one before them. -/
def snakeChars (before : Option Char) : List Char → List Char
  | [] => []
  | c :: rest =>
    if c.isUpper && beginsWord before rest then '_' :: plainChar c :: snakeChars (some c) rest
    else plainChar c :: snakeChars (some c) rest

/-- A name in the common form. Only the letters of ASCII have a case here. -/
def snakeCase (name : String) : String := String.ofList (snakeChars none name.toList)

/-- What follows the last occurrence of a character, all if there is none. -/
def afterLast (separator : Char) (cs : List Char) : List Char :=
  (cs.reverse.takeWhile (· != separator)).reverse

/-- A name without the namespace in front of its last colon. -/
def stripNamespace (name : String) : String := String.ofList (afterLast ':' name.toList)

end StackWatch
