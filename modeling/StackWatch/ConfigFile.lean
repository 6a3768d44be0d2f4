import StackWatch.Error
import StackWatch.FileTree
import StackWatch.Record.Text
import StackWatch.Text.LowerCase
import StackWatch.Toml.Document

/-!
# Configuration files

A configuration is kept in a file, in JSON or in TOML, which its extension tells. `ConfigFile.read`
makes the file's path and content into a validated configuration, and says why it cannot: the path
gives no content, the content is no text, the extension means nothing, the text is malformed, does
not map onto the configuration, or maps onto one that is refused.

JSON is mapped while it is read, TOML once it has been read; so a text that is malformed at its end
has only this fault in TOML, but in JSON possibly another before it.
-/

namespace StackWatch.ConfigFile

/-- What a configuration is written in. -/
inductive Format where
  | json
  | toml
  deriving DecidableEq, Inhabited

/-- Why a file gives no configuration. -/
inductive Fault where
  /-- the file cannot be read -/
  | unreadable (fault : PathFault)
  /-- the content is not UTF-8 -/
  | notText
  | unsupported (extension : String)
  | malformed (format : Format)
  | mismatch (format : Format) (fault : Mismatch)
  /-- a key that a TOML document sets twice, in a table if that is told -/
  | duplicateKey (key : String) (table : Option (List String))
  | invalid (fault : ConfigFault)
  deriving Inhabited

/-- How floats are written in messages about a format: as JSON writes them, or in full
length, where a tie goes away from zero. -/
def Format.floatText : Format → Float → String
  | json, x => Json.floatText x
  | toml, x =>
    if x.isNaN then "NaN"
    else if x.isInf then (if x < 0 then "-inf" else "inf")
    else String.ofList (Decimal.Style.write ⟨-400, 400, .awayFromZero⟩ x)

/-- Where a message says that a key stands. -/
def placeText : Option (List String) → String
  | none => ""
  | some [] => " in document root"
  | some table => " in table " ++ backquoted (String.intercalate "." table)

/-- The wording of a fault. -/
def Fault.message : Fault → String
  | unreadable fault => fault.message
  | notText => "the file is not UTF-8"
  | unsupported extension => "Unsupported config file extension: " ++ extension
  | malformed .json => "malformed JSON"
  | malformed .toml => "malformed TOML"
  | mismatch format fault => fault.message format.floatText
  | duplicateKey key table => "duplicate key " ++ backquoted key ++ placeText table
  | invalid fault => (ApiError.invalidConfig fault).message

/-- What follows the last point of a file's name, unless that point is its first character. -/
def extension (name : String) : String :=
  match (name.toList.reverse.dropWhile (· != '.')).drop 1 with
  | [] => ""
  | _ => String.ofList (name.toList.reverse.takeWhile (· != '.')).reverse

/-- The format that an extension means, in letters of either case. -/
def format? (extension : String) : Option Format :=
  if Text.lower extension = "json" then some .json
  else if Text.lower extension = "toml" then some .toml
  else none

/-- Maps a text onto a configuration. -/
def parse (text : String) : Format → Except Fault Config
  | .json =>
    match Config.schema.readText text with
    | .error .malformed => .error (.malformed .json)
    | .error (.mismatch e) => .error (.mismatch .json e)
    | .ok config => .ok config
  | .toml =>
    match Toml.parse? text with
    | .error .malformed => .error (.malformed .toml)
    | .error (.duplicate key table) => .error (.duplicateKey key table)
    | .ok members =>
      match Config.schema.read (.obj members) with
      | .error e => .error (.mismatch .toml e)
      | .ok config => .ok config

/-- The configuration of a file, given its path and what reading that gave. -/
def read (path : String) (content : Except PathFault ByteArray) : Except Fault Config :=
  match content with
  | .error e => .error (.unreadable e)
  | .ok bytes =>
    match String.fromUTF8? bytes with
    | none => .error .notText
    | some text =>
      let extension := extension (FileTree.lastName path)
      match format? extension with
      | none => .error (.unsupported extension)
      | some format =>
        match parse text format with
        | .error e => .error e
        | .ok config =>
          match config.validate with
          | .error e => .error (.invalid e)
          | .ok config => .ok config

end StackWatch.ConfigFile
