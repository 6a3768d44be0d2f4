import StackWatch.Json.Number

/-!
# Reading JSON

`Json.parse?` reads a text that is one JSON value with blanks around it. The grammar is the
strict one: no comments, no trailing commas, no control characters inside strings, no
escapes that name half of a surrogate pair, and no number beyond the range of floats.
Containers nest at most `depthLimit` deep. The members of an object are put in key order,
and of two with one key the later counts.

`skipValue` passes over a value that nobody will look at. It keeps to the same grammar
but does not mind what only matters for the value itself: half a surrogate pair, a number
out of range, the depth.
-/

namespace StackWatch.Json

/-- How deep arrays and objects may nest. -/
def depthLimit : Nat := 127

/-- Whether a character may stand between tokens. -/
def isSpace (c : Char) : Bool := c == ' ' || c == '\t' || c == '\n' || c == '\r'

/-- A text without the blanks at its front. -/
def skipSpace (cs : List Char) : List Char := cs.dropWhile isSpace

/-- The value of four hexadecimal digits and what follows them. -/
def hexQuad? : List Char → Option (Nat × List Char)
  | a :: b :: c :: d :: rest => do
    let a ← digit? a
    let b ← digit? b
    let c ← digit? c
    let d ← digit? d
    some (((a * 16 + b) * 16 + c) * 16 + d, rest)
  | _ => none
where
  /-- The value of one hexadecimal digit. -/
  digit? (c : Char) : Option Nat :=
    let n := c.toNat
    if 48 ≤ n ∧ n ≤ 57 then some (n - 48)
    else if 65 ≤ n ∧ n ≤ 70 then some (n - 55)
    else if 97 ≤ n ∧ n ≤ 102 then some (n - 87)
    else none

/-- The character of a backslash and one letter. -/
def simpleEscape? : Char → Option Char
  | '"' => some '"'
  | '\\' => some '\\'
  | '/' => some '/'
  | 'b' => some '\x08'
  | 'f' => some '\x0c'
  | 'n' => some '\n'
  | 'r' => some '\r'
  | 't' => some '\t'
  | _ => none

/-- The character of an escape by number, given the digits after `\u`: one that is half of a
surrogate pair needs the other half right after it. -/
def numberEscape? (cs : List Char) : Option (Char × List Char) :=
  match hexQuad? cs with
  | none => none
  | some (code, rest) =>
    if 0xD800 ≤ code ∧ code < 0xDC00 then
      match rest with
      | '\\' :: 'u' :: rest =>
        match hexQuad? rest with
        | some (low, rest) =>
          if 0xDC00 ≤ low ∧ low < 0xE000 then
            some (Char.ofNat (0x10000 + (code - 0xD800) * 0x400 + (low - 0xDC00)), rest)
          else none
        | none => none
      | _ => none
    else if 0xDC00 ≤ code ∧ code < 0xE000 then none
    else some (Char.ofNat code, rest)

/-- The rest of a string after its opening quote, read into the characters `read`, the last first.
When `lenient`, an escape by number may name anything. -/
def stringTail (lenient : Bool) : Nat → List Char → List Char → Option (String × List Char)
  | 0, _, _ => none
  | fuel + 1, read, cs =>
    match cs with
    | [] => none
    | '"' :: rest => some (String.ofList read.reverse, rest)
    | '\\' :: 'u' :: rest =>
      if lenient then
        match hexQuad? rest with
        | some (_, rest) => stringTail lenient fuel read rest
        | none => none
      else
        match numberEscape? rest with
        | some (c, rest) => stringTail lenient fuel (c :: read) rest
        | none => none
    | '\\' :: c :: rest =>
      match simpleEscape? c with
      | some c => stringTail lenient fuel (c :: read) rest
      | none => none
    | '\\' :: [] => none
    | c :: rest => if c.toNat < 32 then none else stringTail lenient fuel (c :: read) rest

/-- A string after its opening quote, and what follows its closing quote. -/
def string? (cs : List Char) : Option (String × List Char) := stringTail false (cs.length + 1) [] cs

/-- Passes over a string after its opening quote. -/
def skipString? (cs : List Char) : Option (List Char) :=
  (stringTail true (cs.length + 1) [] cs).map (·.2)

mutual

/-- A value at the front of a text that has no blanks in front. -/
def valueAt : Nat → Nat → List Char → Option (Json × List Char)
  | 0, _, _ => none
  | fuel + 1, depth, cs =>
    match cs with
    | 'n' :: 'u' :: 'l' :: 'l' :: rest => some (.null, rest)
    | 't' :: 'r' :: 'u' :: 'e' :: rest => some (.bool true, rest)
    | 'f' :: 'a' :: 'l' :: 's' :: 'e' :: rest => some (.bool false, rest)
    | '"' :: rest => (string? rest).map fun (s, rest) => (.str s, rest)
    | '[' :: rest =>
      match depth with
      | 0 => none
      | depth + 1 =>
        match skipSpace rest with
        | ']' :: rest => some (.arr [], rest)
        | rest => (itemsAt fuel depth rest).map fun (items, rest) => (.arr items, rest)
    | '\x7b' :: rest =>
      match depth with
      | 0 => none
      | depth + 1 =>
        match skipSpace rest with
        | '\x7d' :: rest => some (.obj [], rest)
        | rest => (membersAt fuel depth rest).map fun (members, rest) => (object members, rest)
    | cs =>
      match Numeral.scan cs with
      | some (n, rest) => n.value?.map fun value => (value, rest)
      | none => none

/-- The items of an array up to its closing bracket; there is at least one. -/
def itemsAt : Nat → Nat → List Char → Option (List Json × List Char)
  | 0, _, _ => none
  | fuel + 1, depth, cs =>
    match valueAt fuel depth cs with
    | none => none
    | some (item, rest) =>
      match skipSpace rest with
      | ',' :: rest =>
        (itemsAt fuel depth (skipSpace rest)).map fun (items, rest) => (item :: items, rest)
      | ']' :: rest => some ([item], rest)
      | _ => none

/-- The members of an object up to its closing brace; there is at least one. -/
def membersAt : Nat → Nat → List Char → Option (List (String × Json) × List Char)
  | 0, _, _ => none
  | fuel + 1, depth, cs =>
    match cs with
    | '"' :: rest =>
      match string? rest with
      | none => none
      | some (key, rest) =>
        match skipSpace rest with
        | ':' :: rest =>
          match valueAt fuel depth (skipSpace rest) with
          | none => none
          | some (value, rest) =>
            match skipSpace rest with
            | ',' :: rest =>
              (membersAt fuel depth (skipSpace rest)).map fun (members, rest) =>
                ((key, value) :: members, rest)
            | '\x7d' :: rest => some ([(key, value)], rest)
            | _ => none
        | _ => none
    | _ => none

end

/-- Steps that suffice to read a text: a value, and a place in a container, per character. -/
def enoughFor (cs : List Char) : Nat := 2 * cs.length + 2

/-- A value at the front of a text, and what follows it. -/
def value? (depth : Nat) (cs : List Char) : Option (Json × List Char) :=
  valueAt (enoughFor cs) depth (skipSpace cs)

/-- The value of a text whose containers nest at most `depth` deep. -/
def parseWithin? (depth : Nat) (cs : List Char) : Option Json :=
  match value? depth cs with
  | some (value, rest) => if (skipSpace rest).isEmpty then some value else none
  | none => none

/-- The value of a text. -/
def parse? (s : String) : Option Json := parseWithin? depthLimit s.toList

mutual

/-- Passes over a value at the front of a text that has no blanks in front. -/
def skipAt : Nat → List Char → Option (List Char)
  | 0, _ => none
  | fuel + 1, cs =>
    match cs with
    | 'n' :: 'u' :: 'l' :: 'l' :: rest => some rest
    | 't' :: 'r' :: 'u' :: 'e' :: rest => some rest
    | 'f' :: 'a' :: 'l' :: 's' :: 'e' :: rest => some rest
    | '"' :: rest => skipString? rest
    | '[' :: rest =>
      match skipSpace rest with
      | ']' :: rest => some rest
      | rest => skipItemsAt fuel rest
    | '\x7b' :: rest =>
      match skipSpace rest with
      | '\x7d' :: rest => some rest
      | rest => skipMembersAt fuel rest
    | cs => (Numeral.scan cs).map (·.2)

/-- Passes over the items of an array and its closing bracket. -/
def skipItemsAt : Nat → List Char → Option (List Char)
  | 0, _ => none
  | fuel + 1, cs =>
    match skipAt fuel cs with
    | none => none
    | some rest =>
      match skipSpace rest with
      | ',' :: rest => skipItemsAt fuel (skipSpace rest)
      | ']' :: rest => some rest
      | _ => none

/-- Passes over the members of an object and its closing brace. -/
def skipMembersAt : Nat → List Char → Option (List Char)
  | 0, _ => none
  | fuel + 1, cs =>
    match cs with
    | '"' :: rest =>
      match skipString? rest with
      | none => none
      | some rest =>
        match skipSpace rest with
        | ':' :: rest =>
          match skipAt fuel (skipSpace rest) with
          | none => none
          | some rest =>
            match skipSpace rest with
            | ',' :: rest => skipMembersAt fuel (skipSpace rest)
            | '\x7d' :: rest => some rest
            | _ => none
        | _ => none
    | _ => none

end

/-- Passes over a value at the front of a text. -/
def skipValue (cs : List Char) : Option (List Char) := skipAt (enoughFor cs) (skipSpace cs)

end StackWatch.Json
