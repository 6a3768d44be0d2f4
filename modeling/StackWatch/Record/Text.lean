import StackWatch.Json.Parser
import StackWatch.Record

/-!
# Reading a record out of JSON text

A file is not read into a value first: its text is mapped onto the record from front to back, so
the first fault of the text counts, be it one of the grammar or of the record. Other than a
value, a text can give a field twice, and what it says under unknown names is passed over
without being looked at.

Only records whose fields are texts, numbers and truth values are read in this way. An array or
object in the place of such a field is a mismatch as soon as its bracket is seen.
-/

namespace StackWatch

/-- Why a text gives no record. -/
inductive TextFault where
  /-- the text is not JSON -/
  | malformed
  | mismatch (fault : Mismatch)
  deriving Inhabited

namespace Schema

variable {ρ : Type} (schema : Schema ρ)

/-- The value of a field. Arrays and objects are told by their brackets. -/
def fieldValue? (cs : List Char) : Option (Json × List Char) :=
  match Json.skipSpace cs with
  | '[' :: rest => some (.arr [], rest)
  | '\x7b' :: rest => some (.obj [], rest)
  | cs => Json.value? Json.depthLimit cs

/-- Stores the value of a field. -/
def storeText (field : Field ρ) (record : ρ) (cs : List Char) :
    Except TextFault (ρ × List Char) :=
  match fieldValue? cs with
  | none => .error .malformed
  | some (value, rest) =>
    match field.store value record with
    | .error e => .error (.mismatch e)
    | .ok record => .ok (record, rest)

/-- What follows the colon after a name. -/
def afterColon? (cs : List Char) : Option (List Char) :=
  match Json.skipSpace cs with
  | ':' :: rest => some rest
  | _ => none

/-- Reads one member, given the names before it. Comes to the record, the names and the rest. -/
def memberText (given : List String) (record : ρ) (cs : List Char) :
    Except TextFault (List String × ρ × List Char) :=
  match cs with
  | '"' :: rest =>
    match Json.string? rest with
    | none => .error .malformed
    | some (name, rest) =>
      match schema.field? name with
      | none =>
        match (afterColon? rest).bind Json.skipValue with
        | none => .error .malformed
        | some rest => .ok (given, record, rest)
      | some field =>
        if given.contains name then .error (.mismatch (.duplicate name))
        else
          match afterColon? rest with
          | none => .error .malformed
          | some rest => (storeText field record rest).map fun r => (name :: given, r.1, r.2)
  | _ => .error .malformed

/-- Reads members up to the closing brace, which is left; there is at least one. -/
def membersText : Nat → List String → ρ → List Char →
    Except TextFault (List String × ρ × List Char)
  | 0, _, _, _ => .error .malformed
  | fuel + 1, given, record, cs =>
    match schema.memberText given record (Json.skipSpace cs) with
    | .error e => .error e
    | .ok (given, record, rest) =>
      match Json.skipSpace rest with
      | ',' :: rest => membersText fuel given record rest
      | '\x7d' :: rest => .ok (given, record, '\x7d' :: rest)
      | _ => .error .malformed

/-- Reads the elements of an array into the fields, up to its closing bracket, which is left;
`index` counts the elements read. -/
def elementsText (index : Nat) (record : ρ) :
    List (Field ρ) → List Char → Except TextFault (ρ × List Char)
  | [], cs => .ok (record, cs)
  | field :: fields, cs =>
    let store (cs : List Char) : Except TextFault (ρ × List Char) :=
      match storeText field record cs with
      | .error e => .error e
      | .ok (record, rest) => elementsText (index + 1) record fields rest
    match Json.skipSpace cs with
    | ']' :: rest =>
      if field.required then .error (.mismatch (.wrongLength index schema.lengthTitle))
      else elementsText (index + 1) record fields (']' :: rest)
    | ',' :: rest =>
      if index = 0 then .error .malformed
      else
        match Json.skipSpace rest with
        | ']' :: _ => .error .malformed
        | rest => store rest
    | cs => if index = 0 then store cs else .error .malformed

/-- A record that is the whole of a text, given its closing bracket and what remains. -/
def closeText (bracket : Char) (record : ρ) (cs : List Char) : Except TextFault ρ :=
  match Json.skipSpace cs with
  | c :: rest =>
    if c = bracket ∧ Json.skipSpace rest = [] then .ok record else .error .malformed
  | [] => .error .malformed

/-- Reads the record that a text consists of. -/
def readText (text : String) : Except TextFault ρ :=
  match Json.skipSpace text.toList with
  | '\x7b' :: rest =>
    let members : Except TextFault (List String × ρ × List Char) :=
      match Json.skipSpace rest with
      | '\x7d' :: rest => .ok ([], schema.blank, '\x7d' :: rest)
      | rest => schema.membersText (rest.length + 1) [] schema.blank rest
    match members with
    | .error e => .error e
    | .ok (given, record, rest) =>
      match schema.complete given record with
      | .error e => .error (.mismatch e)
      | .ok record => closeText '\x7d' record rest
  | '[' :: rest =>
    match schema.elementsText 0 schema.blank schema.fields rest with
    | .error e => .error e
    | .ok (record, rest) => closeText ']' record rest
  | cs =>
    match Json.value? Json.depthLimit cs with
    | none => .error .malformed
    | some (value, _) => .error (.mismatch (.wrongType (.ofJson value) schema.title))

end Schema

end StackWatch
