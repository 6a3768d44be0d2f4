import StackWatch.KeyMap

/-!
# JSON values

What a service answers, and what a configuration file or a token holds, is a `Json` value. A number
keeps its kind: one written without fraction and exponent that fits 64 bits is an `int`, any other a
binary64 `float`. The members of an object are a list of entries; `Json.object` builds the form that
reading a text yields — in key order, of two members with one key the later.

The accessors never fail: asking a value that is no object for a member is the same as asking an
object that lacks it.
-/

namespace StackWatch

/-- A JSON value. -/
inductive Json where
  | null
  | bool (value : Bool)
  /-- a number without fraction or exponent that fits 64 bits, signed or unsigned -/
  | int (value : Int)
  /-- every other number -/
  | float (value : Float)
  | str (value : String)
  | arr (items : List Json)
  /-- the members in the order in which they are walked and written -/
  | obj (members : List (String × Json))
  deriving BEq, Inhabited

namespace Json

/-- The object with the given members, in key order; of two members with one
key the later counts. -/
def object (members : List (String × Json)) : Json := .obj (KeyMap.ofList members).entries

/-- The member under a key. -/
def get? (key : String) : Json → Option Json
  | .obj members => findEntry key members
  | _ => none

/-- The text of a string value. -/
def str? : Json → Option String
  | .str s => some s
  | _ => none

/-- The items of an array. -/
def items? : Json → Option (List Json)
  | .arr items => some items
  | _ => none

/-- Whether the value is an object. -/
def isObject : Json → Bool
  | .obj _ => true
  | _ => false

/-- The member under a key, null when there is none. -/
def getOrNull (key : String) (value : Json) : Json := (value.get? key).getD .null

@[simp] theorem get?_obj (key : String) (members : List (String × Json)) :
    (Json.obj members).get? key = findEntry key members := rfl

@[simp] theorem get?_object (key : String) (members : List (String × Json)) :
    (Json.object members).get? key = (KeyMap.ofList members).get? key := rfl

end Json

end StackWatch
