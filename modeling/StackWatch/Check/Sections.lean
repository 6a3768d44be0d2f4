import StackWatch.Check.Run

/-!
# The sections of a run

A run begins with a login and times every component. Then come the sections of the components, under
the token that is not bound to a project, and last the section of every project, each under a token
of its own. A section is passed over when its component is skipped.

`Check.run` is the whole. Only a configuration that cannot be used makes it fail; a login that fails
leaves the report empty, and any other failure takes away no more than the data that it concerns.
-/

namespace StackWatch

namespace Run

variable {σ : Type}

/-- Times a component and reports whether its API is up. -/
def reportResponseTime (c : Component) : Run σ Unit := do
  match ← step (.probe (.ofComponent c)) (Step.probe (.ofComponent c)) with
  | .ok none => pure ()
  | .ok (some elapsed) => do
    emit [⟨c.responseTimeName, elapsed, []⟩]
    emitCheck c .ok
  | .error (.componentNotFound c) => recordMissing c
  | .error e => do
    note (.unreachable c e)
    skip c
    emitCheck c .critical

/-- Reports how many members a group has. -/
def reportGroupUsers (group : String × Entity) : Run σ Unit := do
  match ← ask (.listing (.groupUsers group.1)) with
  | none => pure ()
  | some users =>
    let name := (group.2.attributeText? "name").toList.map (tag "group_name")
    emit [⟨Component.identity.space ++ ".groups.users", users.size.toUInt64.toFloat,
      tag "group_id" group.1 :: name⟩]

/-- Reports how many members each group has, if that is asked for. -/
def reportMembership (groups : KeyMap Entity) : Run σ Unit := do
  let p ← get
  if p.session.config.collectGroupUsers then forEach reportGroupUsers groups.entries else pure ()

/-- The section of identity. -/
def reportIdentity : Run σ Unit := unlessSkipped .identity do
  reportListing .domains .domains []
  reportListing .projects .projects []
  reportListing .users .users []
  let groups ← reportEntities (.listing .groups) .groups []
  reportMembership groups
  reportListing .services .services []
  let _ ← reportEntities .identityLimits .limits []
  pure ()

/-- The section of compute. -/
def reportCompute : Run σ Unit := unlessSkipped .compute do
  reportFigures .computeLimits []
  reportListing .computeServices .computeServices []
  reportListing .flavors .flavors []
  reportListing .hypervisors .hypervisors []
  reportListing .aggregates .aggregates []

/-- The section of the network. -/
def reportNetwork : Run σ Unit := unlessSkipped .network do
  reportListing .agents .agents []

/-- The section of baremetal. -/
def reportBaremetal : Run σ Unit := unlessSkipped .baremetal do
  reportListing .nodes .nodes []
  reportListing .conductors .conductors []

/-- The section of the load balancer that is not bound to a project. -/
def reportLoadBalancer : Run σ Unit := unlessSkipped .loadBalancer do
  reportListing .amphorae .amphorae []

/-! ## Projects -/

/-- Does a part if traffic counters are asked for. -/
def ifStatistics (part : Run σ Unit) : Run σ Unit := do
  let p ← get
  if p.session.config.collectStatistics then part else pure ()

/-- Reports the traffic of an amphora. -/
def reportAmphora (tags : List String) (amphora : String) : Run σ Unit :=
  reportListing (.amphoraStatistics amphora) .amphoraListeners
    (tags ++ [tag "amphora_id" amphora])

/-- Reports what belongs to a load balancer: its traffic and that of its amphorae. -/
def reportBalancer (tags : List String) (balancer : String) : Run σ Unit := do
  let tags := tags ++ [tag "loadbalancer_id" balancer]
  ifStatistics (reportFigures (.loadBalancerStatistics balancer) tags)
  match ← ask (.listing (.amphoraeOf balancer)) with
  | none => pure ()
  | some amphorae => ifStatistics (forEach (reportAmphora tags) amphorae.keys)

/-- Reports the traffic of a listener. -/
def reportListener (tags : List String) (listener : String) : Run σ Unit :=
  reportFigures (.listenerStatistics listener) (tags ++ [tag "listener_id" listener])

/-- Reports the members of a pool. -/
def reportPool (project : String) (tags : List String) (pool : String) : Run σ Unit :=
  reportListing (.members project pool) .members (tags ++ [tag "pool_id" pool])

/-- Reports what the load balancer keeps for a project. -/
def reportBalancers (project : String) (tags : List String) : Run σ Unit := do
  let balancers ← reportEntities (.listing (.loadBalancers project)) .loadBalancers tags
  forEach (reportBalancer tags) balancers.keys
  let listeners ← reportEntities (.listing (.listeners project)) .listeners tags
  ifStatistics (forEach (reportListener tags) listeners.keys)
  let pools ← reportEntities (.listing (.pools project)) .pools tags
  forEach (reportPool project tags) pools.keys
  reportListing (.healthMonitors project) .healthMonitors tags

/-- Reports what compute keeps for a project. -/
def reportServers (project : String) (tags : List String) : Run σ Unit := do
  let _ ← reportEntities (.quotaSet project) .quotaSets tags
  let _ ← reportEntities (.servers project) .servers tags
  pure ()

/-- Reports the network quota of a project, as figures of the project itself. -/
def reportNetworkQuotas (project : String) (tags : List String) : Run σ Unit := do
  match ← ask (.networkQuotas project) with
  | none => pure ()
  | some quotas => forEach (fun quota => emit (gauges quota.metrics tags)) quotas.values

/-- Reports what the components keep for a project. -/
def reportResources (project : AuthProject) : Run σ Unit := do
  let tags := [tag "project_id" project.id, tag "project_name" project.name]
  unlessSkipped .compute (reportServers project.id tags)
  unlessSkipped .network (reportNetworkQuotas project.id tags)
  unlessSkipped .loadBalancer (reportBalancers project.id tags)

/-- Chooses the project of the next login. -/
def chooseProject (project : Option String) : Run σ Unit := do
  let _ ← step (.setProject project) (Step.modify ({ · with project }))
  pure ()

/-- The section of one project: a login for it, and if that succeeds its resources. -/
def reportProject (project : AuthProject) : Run σ Unit := do
  chooseProject (some project.id)
  match ← step .authorize Step.authorize with
  | .error e => note (.projectLoginFailed project.id e)
  | .ok () => reportResources project

/-- The sections of all projects. -/
def reportProjects : Run σ Unit := do
  match ← ask .authProjects with
  | none => pure ()
  | some projects => do
    forEach reportProject projects
    chooseProject none

/-! ## The whole -/

/-- Everything after the first login. -/
def reportAll : Run σ Unit := do
  forEach reportResponseTime Component.all
  reportIdentity
  reportCompute
  reportNetwork
  reportBaremetal
  reportLoadBalancer
  reportProjects

/-- The first login and everything after it. -/
def reportDeployment : Run σ Unit := do
  match ← step .authorize Step.authorize with
  | .error e => note (.loginFailed e)
  | .ok () => do
    note .loggedIn
    reportAll

end Run

namespace Check

variable {σ : Type}

/-- A run that has not begun. -/
def start (s : Session) (w : σ) : Progress σ := ⟨s, w, []⟩

/-- One run of the check with a fresh session. -/
def run (config : Config) (d : Deployment σ) (w : σ) : Except ApiError (Progress σ) :=
  (Session.new config).map fun s => (Run.reportDeployment d (start s w)).2

end Check

end StackWatch
