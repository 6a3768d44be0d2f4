import StackWatch.Json.Printer
import StackWatch.Text.Quoted

/-!
# Reading records

A configuration, a catalog and a token are records with named fields. A `Schema` lists the fields of
a record in the order of their declaration; `Schema.read` maps a JSON value onto it.

* An object gives fields by name. Its members are visited in order, unknown ones are passed over,
  and the first that does not fit is the fault; then the first required field that was not given.
* An array gives the fields by position. Fields that are not required may be left off at the end.
* Anything else is of the wrong type.

A fault is a `Mismatch`; its wording is `Mismatch.message`.
-/

namespace StackWatch

/-- What a reader came upon, as far as a message names it. -/
inductive Found where
  | null
  | bool (value : Bool)
  | int (value : Int)
  | float (value : Float)
  | str (value : String)
  | sequence
  | map
  deriving Inhabited

/-- The kind of a JSON value. -/
def Found.ofJson : Json → Found
  | .null => .null
  | .bool b => .bool b
  | .int n => .int n
  | .float x => .float x
  | .str s => .str s
  | .arr _ => .sequence
  | .obj _ => .map

/-- Why a value does not map onto a record. -/
inductive Mismatch where
  | wrongType (found : Found) (expected : String)
  | wrongValue (found : Found) (expected : String)
  | wrongLength (length : Nat) (expected : String)
  | missing (field : String)
  | duplicate (field : String)
  | unknownVariant (name : String) (variants : List String)
  deriving Inhabited

/-- A word between backquotes. -/
def backquoted (word : String) : String := "\x60" ++ word ++ "\x60"

/-- What was found, given how floats are written. -/
def Found.text (floatText : Float → String) : Found → String
  | .null => "null"
  | .bool true => "boolean " ++ backquoted "true"
  | .bool false => "boolean " ++ backquoted "false"
  | .int n => "integer " ++ backquoted (Json.intText n)
  | .float x => "floating point " ++ backquoted (floatText x)
  | .str s => "string " ++ Text.quoted s
  | .sequence => "sequence"
  | .map => "map"

/-- The wording of a mismatch, given how floats are written. -/
def Mismatch.message (floatText : Float → String) : Mismatch → String
  | .wrongType found expected =>
    "invalid type: " ++ found.text floatText ++ ", expected " ++ expected
  | .wrongValue found expected =>
    "invalid value: " ++ found.text floatText ++ ", expected " ++ expected
  | .wrongLength length expected =>
    "invalid length " ++ Json.intText length ++ ", expected " ++ expected
  | .missing field => "missing field " ++ backquoted field
  | .duplicate field => "duplicate field " ++ backquoted field
  | .unknownVariant name variants =>
    "unknown variant " ++ backquoted name ++ ", expected one of " ++
      String.intercalate ", " (variants.map backquoted)

/-- Reads one kind of value out of JSON. -/
abbrev Reader (α : Type) := Json → Except Mismatch α

namespace Reader

/-- Reads a string. -/
def string : Reader String
  | .str s => .ok s
  | value => .error (.wrongType (.ofJson value) "a string")

/-- Reads a truth value. -/
def bool : Reader Bool
  | .bool b => .ok b
  | value => .error (.wrongType (.ofJson value) "a boolean")

/-- Reads an unsigned 64-bit number. -/
def nat64 : Reader Nat
  | .int n =>
    if 0 ≤ n ∧ n < (Nat.pow 2 64 : Nat) then .ok n.toNat else .error (.wrongValue (.int n) "u64")
  | value => .error (.wrongType (.ofJson value) "u64")

/-- Reads null as nothing and any other value with `read`. -/
def optional {α : Type} (read : Reader α) : Reader (Option α)
  | .null => .ok none
  | value => (read value).map some

/-- Reads the items of an array in turn, up to the first fault. -/
def items {α : Type} (read : Reader α) : List Json → Except Mismatch (List α)
  | [] => .ok []
  | item :: rest =>
    match read item with
    | .error e => .error e
    | .ok a =>
      match items read rest with
      | .error e => .error e
      | .ok as => .ok (a :: as)

/-- Reads an array of values. -/
def list {α : Type} (read : Reader α) : Reader (List α)
  | .arr values => items read values
  | value => .error (.wrongType (.ofJson value) "a sequence")

/-- Reads one of several named values: its name alone, or an object whose only member has that name
and null for its value. -/
def variant {α : Type} (variants : List (String × α)) : Reader α
  | .str name => named name
  | .obj [(name, value)] =>
    match named name with
    | .error e => .error e
    | .ok a =>
      match value with
      | .null => .ok a
      | value => .error (.wrongType (.ofJson value) "unit")
  | .obj _ => .error (.wrongValue .map "map with a single key")
  | value => .error (.wrongType (.ofJson value) "string or map")
where
  /-- The value of a name. -/
  named (name : String) : Except Mismatch α :=
    match findEntry name variants with
    | some a => .ok a
    | none => .error (.unknownVariant name (variants.map (·.1)))

end Reader

/-- A field of a record of type `ρ`: how a value is stored in a record that is being filled. -/
structure Field (ρ : Type) where
  name : String
  /-- whether the field has no default -/
  required : Bool
  store : Json → ρ → Except Mismatch ρ

/-- A field read with `read` and put in place with `set`. -/
def Field.of {ρ α : Type} (name : String) (required : Bool) (read : Reader α) (set : α → ρ → ρ) :
    Field ρ :=
  ⟨name, required, fun value record => (read value).map fun a => set a record⟩

/-- A record type: its name, the record before any field is given, and its fields. -/
structure Schema (ρ : Type) where
  name : String
  /-- the defaults; required fields are always overwritten -/
  blank : ρ
  fields : List (Field ρ)

namespace Schema

variable {ρ : Type}

/-- What a message calls the record. -/
def title (schema : Schema ρ) : String := "struct " ++ schema.name

/-- What a message calls the record's form as an array. -/
def lengthTitle (schema : Schema ρ) : String :=
  schema.title ++ " with " ++ Json.intText schema.fields.length ++ " elements"

/-- The field of a name. -/
def field? (schema : Schema ρ) (name : String) : Option (Field ρ) :=
  schema.fields.find? fun field => field.name = name

/-- Stores the members of an object in turn, passing over unknown names. -/
def storeMembers (schema : Schema ρ) (record : ρ) : List (String × Json) → Except Mismatch ρ
  | [] => .ok record
  | (key, value) :: rest =>
    match schema.field? key with
    | none => schema.storeMembers record rest
    | some field =>
      match field.store value record with
      | .error e => .error e
      | .ok record => schema.storeMembers record rest

/-- The first required field that is not among the given names. -/
def firstMissing? (schema : Schema ρ) (given : List String) : Option String :=
  (schema.fields.find? fun field => field.required && !given.contains field.name).map (·.name)

/-- A record that is complete if every required field was given. -/
def complete (schema : Schema ρ) (given : List String) (record : ρ) : Except Mismatch ρ :=
  match schema.firstMissing? given with
  | some name => .error (.missing name)
  | none => .ok record

/-- Stores the items of an array in the fields in turn; `index` counts the items stored. -/
def storeItems (schema : Schema ρ) (index : Nat) (record : ρ) :
    List (Field ρ) → List Json → Except Mismatch (ρ × List Json)
  | [], items => .ok (record, items)
  | field :: fields, item :: items =>
    match field.store item record with
    | .error e => .error e
    | .ok record => schema.storeItems (index + 1) record fields items
  | field :: fields, [] =>
    if field.required then .error (.wrongLength index schema.lengthTitle)
    else schema.storeItems (index + 1) record fields []

/-- Maps a value onto the record. -/
def read (schema : Schema ρ) : Reader ρ
  | .obj members =>
    match schema.storeMembers schema.blank members with
    | .error e => .error e
    | .ok record => schema.complete (members.map (·.1)) record
  | .arr items =>
    match schema.storeItems 0 schema.blank schema.fields items with
    | .error e => .error e
    | .ok (record, []) => .ok record
    | .ok (_, _ :: _) => .error (.wrongLength items.length "fewer elements in array")
  | value => .error (.wrongType (.ofJson value) schema.title)

end Schema

end StackWatch
