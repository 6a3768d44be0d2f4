import StackWatch.Decimal.Reading
import StackWatch.Json.Basic
import StackWatch.Metrics.Key
import StackWatch.Metrics.Spec

/-!
# From an object to its metrics

The leaves of an object are the values in it that are no objects themselves, each under its path:
the names on the way, in the common form, joined by points. `leaves` lists them depth first in the
order of the members. `project` keeps the leaves whose path, renamed, is a listed field and whose
value, transformed, counts as a number. Where several leaves come to one field, the last counts.

The transformation is applied first, to the path as it stands in the object, so that a rule may
depend on it.
-/

namespace StackWatch

mutual

/-- The leaves of a value that stands under a path. -/
def leavesAt (path : String) : Json → List (String × Json)
  | .obj members => leavesOf (path ++ ".") members
  | value => [(path, value)]

/-- The leaves of the members of an object; `before` stands in front of their names. -/
def leavesOf (before : String) : List (String × Json) → List (String × Json)
  | [] => []
  | (name, value) :: rest => leavesAt (before ++ snakeCase name) value ++ leavesOf before rest

end

/-- The leaves of an object. Another value has no leaves. -/
def leaves : Json → List (String × Json)
  | .obj members => leavesOf "" members
  | _ => []

/-- An integer as a metric: the nearest float, of two equally near the even one. -/
def floatOfInt (n : Int) : Float := Float.ofInt n

/-- What a value counts as: a number as itself, a truth value as one or zero, the empty text as
zero, another text as the number that it spells. -/
def number? : Json → Option Float
  | .int n => some (floatOfInt n)
  | .float x => some x
  | .bool b => some (if b then 1.0 else 0.0)
  | .str s => if s = "" then some 0.0 else Decimal.parse? s
  | _ => none

/-- How the leaves of an object are read. -/
structure Lens where
  /-- the field that a path is reported as -/
  rename : String → String
  /-- the value to use for a value under a path -/
  transform : String → Json → Json

/-- Paths and values as they are. -/
def Lens.plain : Lens := ⟨id, fun _ value => value⟩

/-- Paths without their namespace, values as they are. -/
def Lens.unqualified : Lens := ⟨stripNamespace, fun _ value => value⟩

/-- What a leaf contributes: a metric, if its field is listed and its value is a number. -/
def Spec.entry? (spec : Spec) (lens : Lens) (leaf : String × Json) : Option (String × Float) :=
  let field := lens.rename leaf.1
  if spec.fields.contains field then
    (number? (lens.transform leaf.1 leaf.2)).map fun x => (spec.metricName field, x)
  else none

/-- The metrics of an object: those of its leaves, of two under one name the later. -/
def Spec.project (spec : Spec) (lens : Lens) (object : Json) : KeyMap Float :=
  KeyMap.ofList ((leaves object).filterMap (spec.entry? lens))

end StackWatch
