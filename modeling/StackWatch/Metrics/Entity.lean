import StackWatch.Error
import StackWatch.Metrics.Projection

/-!
# Entities

An `Entity` is one polled resource: attributes that describe it, which become tags, and its metrics.
A `Form` says how the entity of an object is made: which members are copied as attributes, which
attributes are derived from the object, and which metrics it has.
-/

namespace StackWatch

/-- One polled resource. -/
structure Entity where
  attributes : KeyMap Json
  metrics : KeyMap Float
  deriving Inhabited

namespace Entity

/-- Copies attributes out of an object; one that is absent is null. -/
def ofObject (object : Json) (names : List String) (metrics : KeyMap Float) : Entity :=
  ⟨KeyMap.ofList (names.map fun name => (name, object.getOrNull name)), metrics⟩

/-- Sets one attribute. -/
def withAttribute (e : Entity) (name : String) (value : Json) : Entity :=
  { e with attributes := e.attributes.insert name value }

/-- Adds metrics, which count before those of the same name. -/
def withMetrics (e : Entity) (metrics : KeyMap Float) : Entity :=
  { e with metrics := e.metrics.union metrics }

/-- The text of an attribute that is one. -/
def attributeText? (e : Entity) (name : String) : Option String :=
  (e.attributes.get? name).bind Json.str?

end Entity

/-- The identifier of an object that came from a URL: its member `id`, a text or a number. -/
def entityId (url : String) (object : Json) : Except ApiError String :=
  match object.get? "id" with
  | some (.str id) => .ok id
  | some (.int n) => .ok (Json.intText n)
  | some (.float x) => .ok (Json.floatText x)
  | _ => .error (.decode url (.missing "id"))

/-- How the entity of an object is made. -/
structure Form where
  /-- members that are copied as attributes -/
  attributes : List String
  spec : Spec
  lens : Lens
  /-- attributes that are derived from the object, set after the copied ones -/
  derived : List (String × (Json → Json))

namespace Form

/-- A form without derived attributes that takes fields as they are. -/
def plain (attributes : List String) (spec : Spec) : Form := ⟨attributes, spec, .plain, []⟩

/-- The entity of an object. -/
def entity (form : Form) (object : Json) : Entity :=
  form.derived.foldl (fun e d => e.withAttribute d.1 (d.2 object))
    (Entity.ofObject object form.attributes (form.spec.project form.lens object))

end Form

end StackWatch
