import StackWatch.Json.Printer
import StackWatch.Metrics.Entity

/-!
# Reports

A `Report` is what one run of the check produces: gauges and service checks in the order in
which they were emitted, and the components that were found missing. `Report.toJson` is the
form in which it is printed.

A `Series` names the metrics of a collection: how many entities there are, and what an entity is
called in the tags of its own metrics.
-/

namespace StackWatch

/-- A gauge. -/
structure Metric where
  name : String
  value : Float
  /-- in the form `key:value` -/
  tags : List String
  deriving Inhabited

/-- The outcome of a service check. -/
inductive Status where
  /-- the API answered -/
  | ok
  /-- the API could not be reached, or answered with a failure -/
  | critical
  deriving DecidableEq, Inhabited

/-- The name of an outcome. -/
def Status.name : Status → String
  | ok => "OK"
  | critical => "CRITICAL"

/-- Whether an API is up. -/
structure ServiceCheck where
  name : String
  status : Status
  tags : List String
  deriving DecidableEq, Inhabited

/-- What one run produced. -/
structure Report where
  metrics : List Metric
  serviceChecks : List ServiceCheck
  /-- in the order in which they were found missing -/
  missing : List Component
  deriving Inhabited

namespace Report

/-- The first metric of a name. -/
def metric? (r : Report) (name : String) : Option Metric := r.metrics.find? (·.name = name)

/-- All metrics of a name. -/
def metricsNamed (r : Report) (name : String) : List Metric := r.metrics.filter (·.name = name)

/-- The first service check of a name. -/
def serviceCheck? (r : Report) (name : String) : Option ServiceCheck :=
  r.serviceChecks.find? (·.name = name)

/-- Tags as they are printed. -/
def tagsJson (tags : List String) : Json := .arr (tags.map .str)

/-- A metric as it is printed. -/
def metricJson (m : Metric) : Json :=
  .obj [("name", .str m.name), ("value", .float m.value), ("tags", tagsJson m.tags)]

/-- A service check as it is printed. -/
def serviceCheckJson (c : ServiceCheck) : Json :=
  .obj [("name", .str c.name), ("status", .str c.status.name), ("tags", tagsJson c.tags)]

/-- A report as it is printed. -/
def toJson (r : Report) : Json :=
  .obj [("metrics", .arr (r.metrics.map metricJson)),
    ("service_checks", .arr (r.serviceChecks.map serviceCheckJson)),
    ("missing_components", .arr (r.missing.map fun c => .str c.name))]

end Report

/-! ## Names and tags -/

/-- The metric of a component's response time. -/
def Component.responseTimeName (c : Component) : String := c.space ++ ".response_time"

/-- The service check of a component. -/
def Component.checkName (c : Component) : String := c.space ++ ".api.up"

/-- How a collection is reported. -/
structure Series where
  component : Component
  /-- what the collection is called in the name of its count -/
  noun : String
  /-- what an entity is called in its tags -/
  kind : String
  deriving DecidableEq, Inhabited

/-- The metric that counts the entities of a collection. -/
def Series.countName (s : Series) : String := s.component.space ++ "." ++ s.noun ++ ".count"

/-- A tag. -/
def tag (key value : String) : String := key ++ ":" ++ value

mutual

/-- The tags of an attribute: one for a value, one for each item of an array, none for null and for
an object. -/
def attributeTags (key : String) : Json → List String
  | .null | .obj _ => []
  | .str s => [tag key s]
  | .arr items => itemTags key items
  | value => [tag key value.text]

/-- The tags of the items of an attribute. -/
def itemTags (key : String) : List Json → List String
  | [] => []
  | item :: rest => attributeTags key item ++ itemTags key rest

end

/-- What an attribute is called in tags: a name is the name of something. -/
def Series.attributeKey (s : Series) (name : String) : String :=
  if name = "name" then s.kind ++ "_name" else name

/-- The tags of an entity. -/
def Series.entityTags (s : Series) (id : String) (entity : Entity) : List String :=
  tag (s.kind ++ "_id") id ::
    entity.attributes.entries.flatMap fun a => attributeTags (s.attributeKey a.1) a.2

/-- Gauges with the same tags. -/
def gauges (figures : KeyMap Float) (tags : List String) : List Metric :=
  figures.entries.map fun f => ⟨f.1, f.2, tags⟩

/-- The gauges of a collection: the count, also of an empty one, and the metrics of each entity. -/
def Series.gauges (s : Series) (entities : KeyMap Entity) (tags : List String) : List Metric :=
  ⟨s.countName, entities.size.toUInt64.toFloat, tags⟩ ::
    entities.entries.flatMap fun e =>
      StackWatch.gauges e.2.metrics (tags ++ s.entityTags e.1 e.2)

namespace Series

/-- Keystone domains. -/
def domains : Series := ⟨.identity, "domains", "domain"⟩

/-- Keystone projects. -/
def projects : Series := ⟨.identity, "projects", "project"⟩

/-- Keystone users. -/
def users : Series := ⟨.identity, "users", "user"⟩

/-- Keystone groups. -/
def groups : Series := ⟨.identity, "groups", "group"⟩

/-- Services registered in keystone. -/
def services : Series := ⟨.identity, "services", "service"⟩

/-- Limits of identity. -/
def limits : Series := ⟨.identity, "limits", "limit"⟩

/-- Nova services. -/
def computeServices : Series := ⟨.compute, "service", "service"⟩

/-- Flavors. -/
def flavors : Series := ⟨.compute, "flavor", "flavor"⟩

/-- Hypervisors. -/
def hypervisors : Series := ⟨.compute, "hypervisor", "hypervisor"⟩

/-- Host aggregates. -/
def aggregates : Series := ⟨.compute, "aggregate", "aggregate"⟩

/-- Quota sets. -/
def quotaSets : Series := ⟨.compute, "quota_set", "quota_set"⟩

/-- Servers. -/
def servers : Series := ⟨.compute, "server", "server"⟩

/-- Neutron agents. -/
def agents : Series := ⟨.network, "agents", "agent"⟩

/-- Ironic nodes. -/
def nodes : Series := ⟨.baremetal, "node", "node"⟩

/-- Ironic conductors. -/
def conductors : Series := ⟨.baremetal, "conductor", "conductor"⟩

/-- Amphorae. -/
def amphorae : Series := ⟨.loadBalancer, "amphora", "amphora"⟩

/-- The listeners of an amphora. -/
def amphoraListeners : Series := ⟨.loadBalancer, "amphora.listener", "listener"⟩

/-- Load balancers. -/
def loadBalancers : Series := ⟨.loadBalancer, "loadbalancer", "loadbalancer"⟩

/-- Listeners. -/
def listeners : Series := ⟨.loadBalancer, "listener", "listener"⟩

/-- Pools. -/
def pools : Series := ⟨.loadBalancer, "pool", "pool"⟩

/-- Members of a pool. -/
def members : Series := ⟨.loadBalancer, "pool.member", "member"⟩

/-- Health monitors. -/
def healthMonitors : Series := ⟨.loadBalancer, "healthmonitor", "healthmonitor"⟩

end Series

end StackWatch
