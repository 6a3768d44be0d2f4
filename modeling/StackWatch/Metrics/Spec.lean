import StackWatch.Component

/-!
# What becomes a metric

A `Spec` lists the fields of one kind of resource that are reported, by their names in the common
form, and under which name they are reported: the namespace of the component, the noun of the
resource, and the field, with points between them.
-/

namespace StackWatch

/-- The namespace of a component's metrics. -/
def Component.space (c : Component) : String := "openstack." ++ c.service

/-- Which fields of a resource are reported, and as what. -/
structure Spec where
  component : Component
  /-- what the resource is called in the names of its metrics -/
  noun : String
  fields : List String
  deriving DecidableEq, Inhabited

namespace Spec

/-- What the names of all metrics of the resource begin with. -/
def stem (spec : Spec) : String := spec.component.space ++ "." ++ spec.noun

/-- The name of the metric of one field. -/
def metricName (spec : Spec) (field : String) : String := spec.stem ++ "." ++ field

/-- The counters that octavia keeps of whatever passes traffic. -/
def trafficFields : List String :=
  ["active_connections", "bytes_in", "bytes_out", "request_errors", "total_connections"]

/-- Keystone domains. -/
def domains : Spec := ⟨.identity, "domains", ["enabled"]⟩

/-- Keystone projects. -/
def projects : Spec := ⟨.identity, "projects", ["enabled"]⟩

/-- Keystone users. -/
def users : Spec := ⟨.identity, "users", ["enabled"]⟩

/-- Keystone groups, which have no numbers of their own. -/
def groups : Spec := ⟨.identity, "groups", []⟩

/-- Services registered in keystone. -/
def services : Spec := ⟨.identity, "services", ["enabled"]⟩

/-- Registered limits and the limits of projects and domains. -/
def identityLimits : Spec := ⟨.identity, "limits", ["limit"]⟩

/-- Absolute limits of compute. -/
def computeLimits : Spec where
  component := .compute
  noun := "limits"
  fields :=
    ["absolute.max_image_meta", "absolute.max_personality", "absolute.max_personality_size",
     "absolute.max_security_group_rules", "absolute.max_security_groups",
     "absolute.max_server_group_members", "absolute.max_server_groups",
     "absolute.max_server_meta", "absolute.max_total_cores", "absolute.max_total_floating_ips",
     "absolute.max_total_instances", "absolute.max_total_keypairs", "absolute.max_total_ram_size",
     "absolute.total_cores_used", "absolute.total_floating_ips_used",
     "absolute.total_instances_used", "absolute.total_ram_used",
     "absolute.total_security_groups_used", "absolute.total_server_groups_used"]

/-- Nova services. -/
def computeServices : Spec := ⟨.compute, "service", ["up"]⟩

/-- Flavors. -/
def flavors : Spec :=
  ⟨.compute, "flavor", ["disk", "ephemeral", "ram", "rxtx_factor", "swap", "vcpus"]⟩

/-- Hypervisors. -/
def hypervisors : Spec where
  component := .compute
  noun := "hypervisor"
  fields :=
    ["current_workload", "disk_available_least", "free_disk_gb", "free_ram_mb", "local_gb",
     "local_gb_used", "memory_mb", "memory_mb_used", "running_vms", "vcpus", "vcpus_used"]

/-- Quota sets. -/
def quotaSets : Spec where
  component := .compute
  noun := "quota_set"
  fields :=
    ["cores", "fixed_ips", "floating_ips", "injected_file_content_bytes",
     "injected_file_path_bytes", "injected_files", "instances", "key_pairs", "metadata_items",
     "ram", "security_group_rules", "security_groups", "server_group_members", "server_groups"]

/-- Servers, by their own members. -/
def servers : Spec := ⟨.compute, "server", ["power_state"]⟩

/-- The flavor of a server, reported with the server. -/
def serverFlavors : Spec :=
  ⟨.compute, "server.flavor", ["disk", "ephemeral", "ram", "rxtx_factor", "swap", "vcpus"]⟩

/-- Network quotas. -/
def networkQuotas : Spec where
  component := .network
  noun := "quotas"
  fields :=
    ["floatingip", "network", "port", "rbac_policy", "router", "security_group",
     "security_group_rule", "subnet", "subnetpool"]

/-- Neutron agents. -/
def agents : Spec := ⟨.network, "agents", ["admin_state_up", "alive"]⟩

/-- Ironic nodes. -/
def nodes : Spec := ⟨.baremetal, "node", ["maintenance", "power_state", "retired"]⟩

/-- Ironic conductors. -/
def conductors : Spec := ⟨.baremetal, "conductor", ["alive"]⟩

/-- Load balancers. -/
def loadBalancers : Spec := ⟨.loadBalancer, "loadbalancer", ["admin_state_up"]⟩

/-- Listeners. -/
def listeners : Spec where
  component := .loadBalancer
  noun := "listener"
  fields :=
    ["admin_state_up", "connection_limit", "timeout_client_data", "timeout_member_connect",
     "timeout_member_data", "timeout_tcp_inspect"]

/-- Pools. -/
def pools : Spec := ⟨.loadBalancer, "pool", ["admin_state_up"]⟩

/-- Members of a pool. -/
def members : Spec := ⟨.loadBalancer, "pool.member", ["admin_state_up", "weight"]⟩

/-- Health monitors. -/
def healthMonitors : Spec where
  component := .loadBalancer
  noun := "healthmonitor"
  fields :=
    ["admin_state_up", "delay", "max_retries", "max_retries_down", "timeout"]

/-- Traffic counters of a load balancer. -/
def loadBalancerTraffic : Spec := ⟨.loadBalancer, "loadbalancer", trafficFields⟩

/-- Traffic counters of a listener. -/
def listenerTraffic : Spec := ⟨.loadBalancer, "listener", trafficFields⟩

/-- Amphorae, which have no numbers of their own. -/
def amphorae : Spec := ⟨.loadBalancer, "amphora", []⟩

/-- Traffic counters of an amphora. -/
def amphoraTraffic : Spec := ⟨.loadBalancer, "amphora", trafficFields⟩

end Spec

end StackWatch
