import StackWatch.Component
import StackWatch.Text.Percent

/-!
# Resources

A `Resource` is what one request of a query asks a component for: a collection of entities
(`Listing`), or one of a few collections and objects that are read in their own way. Each belongs to
a component, stands at a `Target` below the component's endpoint, and is found in the answer under a
`member`.

Identifiers of a path stand in it as they are. Those of the query part are percent-encoded.
-/

namespace StackWatch

/-- A collection of entities that one request reads. -/
inductive Listing where
  | domains
  | projects
  | users
  | groups
  /-- the members of a group -/
  | groupUsers (group : String)
  /-- the services registered in keystone -/
  | services
  | computeServices
  | flavors
  | hypervisors
  | aggregates
  | agents
  | nodes
  | conductors
  | loadBalancers (project : String)
  | listeners (project : String)
  | listenersOf (project loadBalancer : String)
  | pools (project : String)
  | poolsOf (project loadBalancer : String)
  | members (project pool : String)
  | healthMonitors (project : String)
  | healthMonitorsOf (project pool : String)
  | amphorae
  | amphoraeOf (loadBalancer : String)
  /-- the traffic counters of an amphora, by listener -/
  | amphoraStatistics (amphora : String)
  deriving DecidableEq, Inhabited

/-- What one request asks a component for. -/
inductive Resource where
  | listing (listing : Listing)
  /-- the defaults of identity's limits -/
  | registeredLimits
  /-- identity's limits of projects and domains -/
  | limits
  | computeLimits
  | flavor (id : String)
  | quotaSet (project : String)
  | servers (project : String)
  | networkQuotas (project : String)
  | loadBalancerStatistics (loadBalancer : String)
  | listenerStatistics (listener : String)
  deriving DecidableEq, Inhabited

/-- A place below an endpoint. -/
structure Target where
  /-- the segments of the path -/
  segments : List String
  /-- names and values of the query part, the values not yet encoded -/
  parameters : List (String × String)
  deriving DecidableEq, Inhabited

namespace Target

/-- One parameter as it is written. -/
def parameterText (parameter : String × String) : String :=
  parameter.1 ++ "=" ++ Percent.encode parameter.2

/-- The query part, with its mark; nothing if there are no parameters. -/
def queryText : List (String × String) → String
  | [] => ""
  | parameters => "?" ++ String.intercalate "&" (parameters.map parameterText)

/-- The path, each segment after a slash. -/
def pathText (segments : List String) : String := String.join (segments.map ("/" ++ ·))

/-- What follows the endpoint in a URL. -/
def text (t : Target) : String := pathText t.segments ++ queryText t.parameters

end Target

namespace Listing

/-- The component that keeps the collection. -/
def component : Listing → Component
  | domains | projects | users | groups | groupUsers _ | services => .identity
  | computeServices | flavors | hypervisors | aggregates => .compute
  | agents => .network
  | nodes | conductors => .baremetal
  | _ => .loadBalancer

/-- Where the collection stands. -/
def target : Listing → Target
  | domains => ⟨["v3", "domains"], []⟩
  | projects => ⟨["v3", "projects"], []⟩
  | users => ⟨["v3", "users"], []⟩
  | groups => ⟨["v3", "groups"], []⟩
  | groupUsers group => ⟨["v3", "groups", group, "users"], []⟩
  | services => ⟨["v3", "services"], []⟩
  | computeServices => ⟨["os-services"], []⟩
  | flavors => ⟨["flavors", "detail"], []⟩
  | hypervisors => ⟨["os-hypervisors", "detail"], [("with_servers", "true")]⟩
  | aggregates => ⟨["os-aggregates"], []⟩
  | agents => ⟨["v2.0", "agents"], []⟩
  | nodes => ⟨["v1", "nodes", "detail"], []⟩
  | conductors => ⟨["v1", "conductors"], []⟩
  | loadBalancers project => ⟨["v2", "lbaas", "loadbalancers"], [("project_id", project)]⟩
  | listeners project => ⟨["v2", "lbaas", "listeners"], [("project_id", project)]⟩
  | listenersOf project loadBalancer =>
    ⟨["v2", "lbaas", "listeners"], [("loadbalancer_id", loadBalancer), ("project_id", project)]⟩
  | pools project => ⟨["v2", "lbaas", "pools"], [("project_id", project)]⟩
  | poolsOf project loadBalancer =>
    ⟨["v2", "lbaas", "pools"], [("loadbalancer_id", loadBalancer), ("project_id", project)]⟩
  | members project pool =>
    ⟨["v2", "lbaas", "pools", pool, "members"], [("project_id", project)]⟩
  | healthMonitors project => ⟨["v2", "lbaas", "healthmonitors"], [("project_id", project)]⟩
  | healthMonitorsOf project pool =>
    ⟨["v2", "lbaas", "healthmonitors"], [("pool_id", pool), ("project_id", project)]⟩
  | amphorae => ⟨["v2", "octavia", "amphorae"], []⟩
  | amphoraeOf loadBalancer =>
    ⟨["v2", "octavia", "amphorae"], [("loadbalancer_id", loadBalancer)]⟩
  | amphoraStatistics amphora => ⟨["v2", "octavia", "amphorae", amphora, "stats"], []⟩

/-- The member of the answer that holds the collection. -/
def member : Listing → String
  | domains => "domains"
  | projects => "projects"
  | users | groupUsers _ => "users"
  | groups => "groups"
  | services | computeServices => "services"
  | flavors => "flavors"
  | hypervisors => "hypervisors"
  | aggregates => "aggregates"
  | agents => "agents"
  | nodes => "nodes"
  | conductors => "conductors"
  | loadBalancers _ => "loadbalancers"
  | listeners _ | listenersOf _ _ => "listeners"
  | pools _ | poolsOf _ _ => "pools"
  | members _ _ => "members"
  | healthMonitors _ | healthMonitorsOf _ _ => "healthmonitors"
  | amphorae | amphoraeOf _ => "amphorae"
  | amphoraStatistics _ => "amphora_stats"

end Listing

namespace Resource

/-- The component that is asked. -/
def component : Resource → Component
  | listing l => l.component
  | registeredLimits | limits => .identity
  | computeLimits | flavor _ | quotaSet _ | servers _ => .compute
  | networkQuotas _ => .network
  | loadBalancerStatistics _ | listenerStatistics _ => .loadBalancer

/-- Where the resource stands. -/
def target : Resource → Target
  | listing l => l.target
  | registeredLimits => ⟨["v3", "registered_limits"], []⟩
  | limits => ⟨["v3", "limits"], []⟩
  | computeLimits => ⟨["limits"], []⟩
  | flavor id => ⟨["flavors", id], []⟩
  | quotaSet project => ⟨["os-quota-sets", project], []⟩
  | servers project => ⟨["servers", "detail"], [("project_id", project)]⟩
  | networkQuotas project => ⟨["v2.0", "quotas", project], []⟩
  | loadBalancerStatistics loadBalancer =>
    ⟨["v2", "lbaas", "loadbalancers", loadBalancer, "stats"], []⟩
  | listenerStatistics listener => ⟨["v2", "lbaas", "listeners", listener, "stats"], []⟩

/-- The member of the answer that holds the resource. -/
def member : Resource → String
  | listing l => l.member
  | registeredLimits => "registered_limits"
  | limits | computeLimits => "limits"
  | flavor _ => "flavor"
  | quotaSet _ => "quota_set"
  | servers _ => "servers"
  | networkQuotas _ => "quota"
  | loadBalancerStatistics _ | listenerStatistics _ => "stats"

/-- The URL of the resource below an endpoint. -/
def url (r : Resource) (endpoint : String) : String := endpoint ++ r.target.text

/-- Whether the resource is read at most once in a run. The members of a group are read again on
every demand. -/
def isOnce : Resource → Bool
  | listing (.groupUsers _) | flavor _ => false
  | _ => true

end Resource

/-- The URL at which block storage is probed: its endpoint without the last segment, which names a
project. -/
def blockStorageRoot (endpoint : String) : String :=
  let cs := endpoint.toList
  if cs.contains '/' then
    String.ofList ((cs.reverse.dropWhile (· != '/')).drop 1).reverse
  else endpoint

end StackWatch
