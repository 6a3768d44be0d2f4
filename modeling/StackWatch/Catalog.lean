import StackWatch.Component
import StackWatch.Record

/-!
# Service catalogs

Keystone returns a catalog with every token: an ordered list of services, each with its endpoints.
`Catalog.findUrl?` is the first endpoint, by entry and then by position, whose entry has the wanted
type and which has the wanted interface; so order matters when a type is listed twice.

A catalog is read with `Catalog.read` and written with `Catalog.toJson`.
-/

namespace StackWatch

/-- From where an endpoint is meant to be reached. -/
inductive Interface where
  | «public»
  | internal
  | admin
  deriving DecidableEq, Inhabited

namespace Interface

/-- The name that a catalog uses. -/
def name : Interface → String
  | .public => "public"
  | .internal => "internal"
  | .admin => "admin"

/-- Every interface by its name. -/
def variants : List (String × Interface) :=
  [("public", .public), ("internal", .internal), ("admin", .admin)]

/-- Reads an interface. -/
def read : Reader Interface := Reader.variant variants

end Interface

/-- One URL of a service. -/
structure CatalogEndpoint where
  interface : Interface
  url : String
  region : Option String
  deriving DecidableEq, Inhabited

/-- A service and its endpoints. The type may be one that is not polled. -/
structure CatalogEntry where
  type : String
  name : Option String
  endpoints : List CatalogEndpoint
  deriving DecidableEq, Inhabited

/-- The services of a deployment, in the order in which keystone lists them. -/
structure Catalog where
  entries : List CatalogEntry
  deriving DecidableEq, Inhabited

namespace Catalog

/-- The catalog without services. -/
def empty : Catalog := ⟨[]⟩

/-- Whether any entry has the component's type, whatever its endpoints. -/
def contains (catalog : Catalog) (c : Component) : Bool :=
  catalog.entries.any fun entry => entry.type = c.name

/-- The endpoints of all entries of the component's type, in order. -/
def endpointsOf (catalog : Catalog) (c : Component) : List CatalogEndpoint :=
  (catalog.entries.filter fun entry => entry.type = c.name).flatMap (·.endpoints)

/-- The URL of the component: that of its first endpoint with the interface. -/
def findUrl? (catalog : Catalog) (c : Component) (interface : Interface) : Option String :=
  ((catalog.endpointsOf c).find? fun endpoint => endpoint.interface = interface).map (·.url)

@[simp] theorem findUrl?_empty (c : Component) (interface : Interface) :
    empty.findUrl? c interface = none := rfl

/-! ## Reading and writing -/

/-- The fields of an endpoint. -/
def endpointSchema : Schema CatalogEndpoint where
  name := "CatalogEndpoint"
  blank := ⟨.public, "", none⟩
  fields :=
    [.of "interface" true Interface.read fun interface e => { e with interface },
     .of "url" true Reader.string fun url e => { e with url },
     .of "region_id" false (Reader.optional Reader.string) fun region e => { e with region }]

/-- The fields of an entry. -/
def entrySchema : Schema CatalogEntry where
  name := "CatalogEntry"
  blank := ⟨"", none, []⟩
  fields :=
    [.of "type" true Reader.string fun type e => { e with type },
     .of "name" false (Reader.optional Reader.string) fun name e => { e with name },
     .of "endpoints" false (Reader.list endpointSchema.read) fun endpoints e =>
       { e with endpoints }]

/-- Reads a catalog: an array of entries. -/
def read : Reader Catalog := fun value => (Reader.list entrySchema.read value).map Catalog.mk

/-- An optional text, null when it is absent. -/
def textOrNull : Option String → Json
  | some s => .str s
  | none => .null

/-- An endpoint in the form in which it is written. -/
def endpointJson (e : CatalogEndpoint) : Json :=
  .obj [("interface", .str e.interface.name), ("url", .str e.url),
    ("region_id", textOrNull e.region)]

/-- An entry in the form in which it is written. -/
def entryJson (e : CatalogEntry) : Json :=
  .obj [("type", .str e.type), ("name", textOrNull e.name),
    ("endpoints", .arr (e.endpoints.map endpointJson))]

/-- A catalog in the form in which it is written. -/
def toJson (catalog : Catalog) : Json := .arr (catalog.entries.map entryJson)

end Catalog

end StackWatch
