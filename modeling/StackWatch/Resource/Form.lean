import StackWatch.Metrics.Entity
import StackWatch.Resource.Basic
import StackWatch.Text.LowerCase

/-!
# The forms of the resources

For each kind of resource, its `Form`: which members of an object become attributes of the entity
and which become metrics. Octavia's collections share a form between the whole collection and the
part of it that belongs to one load balancer or pool.
-/

namespace StackWatch

/-- A derived attribute that copies another member of the object. -/
def copyOf (name member : String) : String × (Json → Json) := (name, Json.getOrNull member)

/-- A derived attribute made of the text of a member, null if the member is no text. -/
def textOf (name member : String) (f : String → String) : String × (Json → Json) :=
  (name, fun object =>
    match object.getOrNull member with
    | .str s => .str (f s)
    | _ => .null)

/-- A swap that is unset, which nova reports as the empty text or as null, counts as none. -/
def swapOrZero (path : String) (value : Json) : Json :=
  if stripNamespace path = "swap" then
    match value with
    | .null | .str "" => .int 0
    | value => value
  else value

/-- The fields of a flavor: their names stand without namespace, and an unset swap is zero. -/
def flavorLens : Lens := ⟨stripNamespace, swapOrZero⟩

/-- The state of a compute service is reported as `up`: one for that state, zero for another. -/
def stateLens : Lens where
  rename path := if path = "state" then "up" else path
  transform path value :=
    if path = "state" then
      match value with
      | .str "up" => .int 1
      | _ => .int 0
    else value

/-- A limit is reported as `limit`, whatever member holds it. -/
def limitLens (member : String) : Lens :=
  ⟨fun path => if path = member then "limit" else path, fun _ value => value⟩

/-- A text with underscores for its hyphens. -/
def underscored (s : String) : String :=
  String.ofList (s.toList.map fun c => if c = '-' then '_' else c)

namespace Form

/-- Attributes alone. -/
def described (attributes : List String) (component : Component) : Form :=
  .plain attributes ⟨component, "", []⟩

/-- The limits whose value stands under a member. -/
def limit (member : String) : Form :=
  ⟨["resource_name", "service_id", "region_id", "domain_id", "project_id"], .identityLimits,
    limitLens member, []⟩

/-- A server by its own members. -/
def server : Form :=
  ⟨["name"], .servers, .unqualified,
    [textOf "status" "status" Text.lower,
     copyOf "hypervisor_hostname" "OS-EXT-SRV-ATTR:hypervisor_hostname",
     copyOf "instance_hostname" "OS-EXT-SRV-ATTR:hostname"]⟩

/-- A quota set. -/
def quotaSet : Form := .plain [] .quotaSets

/-- The network quota of a project. -/
def networkQuotas : Form := .plain [] .networkQuotas

end Form

/-- The form of a collection's items. -/
def Listing.form : Listing → Form
  | domains => .plain ["name", "tags"] .domains
  | projects => .plain ["name", "domain_id", "tags"] .projects
  | users => .plain ["name", "domain_id"] .users
  | groups => .plain ["name", "domain_id"] .groups
  | groupUsers _ => .described ["name"] .identity
  | services => .plain ["name", "type"] .services
  | computeServices =>
    ⟨["zone", "host", "status", "state"], .computeServices, stateLens,
      [textOf "name" "binary" underscored]⟩
  | flavors => ⟨["name"], .flavors, flavorLens, []⟩
  | hypervisors =>
    ⟨["state", "status"], .hypervisors, .plain,
      [copyOf "name" "hypervisor_hostname", copyOf "type" "hypervisor_type"]⟩
  | aggregates => .described ["name", "availability_zone", "hosts"] .compute
  | agents => .plain ["host", "availability_zone", "binary", "agent_type"] .agents
  | nodes => .plain ["name", "conductor_group", "power_state", "provision_state"] .nodes
  | conductors => .plain ["hostname", "conductor_group"] .conductors
  | loadBalancers _ =>
    .plain ["name", "provisioning_status", "operating_status", "vip_address", "provider"]
      .loadBalancers
  | listeners _ | listenersOf _ _ =>
    .plain ["name", "protocol", "protocol_port", "provisioning_status", "operating_status",
      "default_pool_id"] .listeners
  | pools _ | poolsOf _ _ =>
    .plain ["name", "protocol", "lb_algorithm", "provisioning_status", "operating_status"] .pools
  | members _ _ =>
    .plain ["name", "address", "protocol_port", "provisioning_status", "operating_status"] .members
  | healthMonitors _ | healthMonitorsOf _ _ =>
    .plain ["name", "type", "http_method", "url_path", "provisioning_status", "operating_status"]
      .healthMonitors
  | amphorae | amphoraeOf _ =>
    .plain ["loadbalancer_id", "compute_id", "status", "role", "lb_network_ip", "ha_ip"] .amphorae
  | amphoraStatistics _ => .plain ["loadbalancer_id", "listener_id"] .amphoraTraffic

/-- The metrics that a flavor adds to the entity of a server. -/
def flavorMetrics (flavor : Json) : KeyMap Float := Spec.serverFlavors.project flavorLens flavor

end StackWatch
