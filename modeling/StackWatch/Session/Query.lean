import StackWatch.Resource.Collect
import StackWatch.Session.Login

/-!
# Queries

A `Query` is what a session can be asked. Its index says what comes back: the projects that the user
may log in to, a map of entities, or a map of figures. `Query.attempt` makes it once, and
`Query.perform` under the policy of new logins.

Every attempt, but for the one that lists the projects, goes through the same stations: the
client of the component, the ledger, the requests, the entities, and only then the entry in the
ledger. An attempt that fails anywhere on the way leaves the ledger as it was, so that a second
one starts from scratch.
-/

namespace StackWatch

/-- A project that the user may log in to. -/
structure AuthProject where
  id : String
  name : String
  deriving DecidableEq, Inhabited

/-- The kinds of data that come back. -/
inductive Shape where
  | projects
  | entities
  | figures
  deriving DecidableEq, Inhabited

/-- The data of a kind. -/
abbrev Shape.Value : Shape → Type
  | projects => List AuthProject
  | entities => KeyMap Entity
  | figures => KeyMap Float

/-- What a session can be asked. -/
inductive Query : Shape → Type where
  /-- the projects that the user may log in to -/
  | authProjects : Query .projects
  | listing (l : Listing) : Query .entities
  /-- registered limits together with those of projects and domains -/
  | identityLimits : Query .entities
  | quotaSet (project : String) : Query .entities
  /-- the servers of a project, each with its flavor -/
  | servers (project : String) : Query .entities
  | networkQuotas (project : String) : Query .entities
  | computeLimits : Query .figures
  | loadBalancerStatistics (loadBalancer : String) : Query .figures
  | listenerStatistics (listener : String) : Query .figures

/-- What a notice calls a collection. -/
def Listing.title : Listing → String
  | domains => "identity domains"
  | projects => "identity projects"
  | users => "identity users"
  | groups => "identity groups"
  | groupUsers _ => "identity group users"
  | services => "identity services"
  | computeServices => "compute services"
  | flavors => "compute flavors"
  | hypervisors => "compute hypervisors"
  | aggregates => "compute os-aggregates"
  | agents => "network agents"
  | nodes => "baremetal nodes"
  | conductors => "baremetal conductors"
  | loadBalancers _ => "load-balancer loadbalancers"
  | listeners _ => "load-balancer listeners"
  | listenersOf _ _ => "load-balancer listeners by loadbalancer"
  | pools _ => "load-balancer pools"
  | poolsOf _ _ => "load-balancer pools by loadbalancer"
  | members _ _ => "load-balancer members by pool"
  | healthMonitors _ => "load-balancer healthmonitors"
  | healthMonitorsOf _ _ => "load-balancer healthmonitors by pool"
  | amphorae => "load-balancer amphorae"
  | amphoraeOf _ => "load-balancer amphorae by loadbalancer"
  | amphoraStatistics _ => "load-balancer amphora statistics"

/-- What a notice calls a query. -/
def Query.title {shape : Shape} : Query shape → String
  | authProjects => "auth projects"
  | listing l => l.title
  | identityLimits => "identity limits"
  | quotaSet _ => "compute quota set"
  | servers _ => "compute servers"
  | networkQuotas _ => "network quotas"
  | computeLimits => "compute limits"
  | loadBalancerStatistics _ => "load-balancer loadbalancer statistics"
  | listenerStatistics _ => "load-balancer listener statistics"

/-- Whether a client's microversion offers a resource. -/
def Client.offers (client : Client) : Resource → Bool
  | .listing .conductors => client.listsConductors
  | _ => true

/-- A project of the list that came from a URL; one without a text for a name has the empty name. -/
def AuthProject.ofJson (url : String) (item : Json) : Except ApiError AuthProject :=
  (entityId url item).map fun id => ⟨id, ((item.get? "name").bind Json.str?).getD ""⟩

namespace Step

variable {σ α : Type}

/-! ## Stations of an attempt -/

/-- The endpoint of a component. -/
def endpointOf (c : Component) : Step σ String := do
  let s ← get
  let (result, resolver) := s.resolver.resolve c
  modify ({ · with resolver })
  ofExcept result

/-- A client if it is the component's. -/
def ownClient (c : Component) (client : Client) : Step σ Client :=
  if client.component = c then pure client
  else do
    note (.wrongClient c)
    fail (.componentNotFound c)

/-- The client of a component, built on first demand. -/
def clientOf (c : Component) : Step σ Client := do
  let s ← get
  match s.clients c with
  | some client => ownClient c client
  | none => do
    let endpoint ← endpointOf c
    let client := Client.build c endpoint s.config
    modify fun s => { s with clients := s.clients.insert c client }
    ownClient c client

/-- Whether a URL was read before. -/
def wasRead (url : String) : Step σ Bool := do
  let s ← get
  pure (s.ledger.contains url)

/-- Enters a URL in the ledger. -/
def enter (url : String) : Step σ Unit := modify fun s => { s with ledger := s.ledger.insert url }

/-- Asks a component for a resource. -/
def request (client : Client) (r : Resource) : Step σ Response :=
  send (.polling r.component) .get (r.url client.endpoint) none

/-- What is read off the response to the request for a resource. -/
def fetch (client : Client) (r : Resource) (read : Response → Except ApiError α) : Step σ α := do
  let response ← request client r
  ofExcept (read response)

/-- The array of a resource. -/
def fetchItems (client : Client) (r : Resource) : Step σ (List Json) :=
  fetch client r (·.array r.member)

/-- The object of a resource, or whatever stands in its place. -/
def fetchObject (client : Client) (r : Resource) : Step σ Json :=
  fetch client r (·.field r.member)

/-- Reads a resource, and enters it when all of it is there. Comes to nothing if the client's
microversion does not offer the resource, and if it was read before. -/
def reading (r : Resource) (read : Client → Step σ α) : Step σ (Option α) := do
  let client ← clientOf r.component
  if client.offers r then do
    let url := r.url client.endpoint
    let before ← wasRead url
    if r.isOnce && before then pure none
    else do
      let value ← read client
      enter url
      pure (some value)
  else do
    note .conductorsNotOffered
    pure none

/-! ## Attempts -/

/-- The projects of the user. -/
def authProjects : Step σ (Option (List AuthProject)) := do
  let s ← get
  let response ← send .projectList .get s.config.projectsUrl none
  let items ← ofExcept (response.array "projects")
  let projects ← ofExcept (items.mapM (AuthProject.ofJson s.config.projectsUrl))
  pure (some projects)

/-- A collection. -/
def listing (l : Listing) : Step σ (Option (KeyMap Entity)) :=
  reading (.listing l) fun client => do
    let items ← fetchItems client (.listing l)
    ofExcept (l.collect ((Resource.listing l).url client.endpoint) items)

/-- One of the two collections of limits, nothing if it was read before. -/
def limitsAt (client : Client) (r : Resource) (member : String) :
    Step σ (Option (KeyMap Entity)) := do
  let url := r.url client.endpoint
  let before ← wasRead url
  if before then pure none
  else do
    let items ← fetchItems client r
    let limits ← ofExcept (collectLimits member url items)
    pure (some limits)

/-- Enters a resource if it was read. -/
def enterIf (client : Client) (r : Resource) : Option (KeyMap Entity) → Step σ Unit
  | some _ => enter (r.url client.endpoint)
  | none => pure ()

/-- Enters what was read of both collections of limits, and joins it in one map, where a limit of a
project or domain counts before a registered one of the same identifier. -/
def joinLimits (client : Client) (registered limits : Option (KeyMap Entity)) :
    Step σ (Option (KeyMap Entity)) := do
  enterIf client .registeredLimits registered
  enterIf client .limits limits
  match registered, limits with
  | none, none => pure none
  | _, _ => pure (some ((registered.getD .empty).union (limits.getD .empty)))

/-- Both collections of limits. Neither is entered before both are there. -/
def limitsBy (client : Client) : Step σ (Option (KeyMap Entity)) := do
  let registered ← limitsAt client .registeredLimits "default_limit"
  let limits ← limitsAt client .limits "resource_limit"
  joinLimits client registered limits

/-- The limits of identity. -/
def identityLimits : Step σ (Option (KeyMap Entity)) := do
  let client ← clientOf .identity
  limitsBy client

/-- A quota set, by its own identifier. -/
def quotaSet (project : String) : Step σ (Option (KeyMap Entity)) :=
  reading (.quotaSet project) fun client => do
    let object ← fetchObject client (.quotaSet project)
    let id ← ofExcept (entityId ((Resource.quotaSet project).url client.endpoint) object)
    pure (KeyMap.ofList [(id, Form.quotaSet.entity object)])

/-- The name and the metrics of a server's flavor. An embedded flavor that has an identifier is
looked up; one that has none is read in place. -/
def flavorOf (client : Client) (flavor : Json) : Step σ (Json × KeyMap Float) :=
  match (flavor.get? "id").bind Json.str? with
  | some id => do
    let detail ← fetchObject client (.flavor id)
    pure (detail.getOrNull "name", flavorMetrics detail)
  | none => pure (flavor.getOrNull "original_name", flavorMetrics flavor)

/-- The entity of a server, with the name and the metrics of its flavor if it has one. -/
def serverEntity (client : Client) (server : Json) : Step σ Entity :=
  let entity := Form.server.entity server
  match server.get? "flavor" with
  | some (.obj members) => do
    let (name, metrics) ← flavorOf client (.obj members)
    pure ((entity.withAttribute "flavor_name" name).withMetrics metrics)
  | _ => pure entity

/-- The entities of servers that came from a URL, each with its identifier. -/
def serverEntries (client : Client) (url : String) : List Json → Step σ (List (String × Entity))
  | [] => pure []
  | server :: rest => do
    let entity ← serverEntity client server
    let id ← ofExcept (entityId url server)
    let entries ← serverEntries client url rest
    pure ((id, entity) :: entries)

/-- The servers of a project. -/
def servers (project : String) : Step σ (Option (KeyMap Entity)) :=
  reading (.servers project) fun client => do
    let items ← fetchItems client (.servers project)
    let entries ← serverEntries client ((Resource.servers project).url client.endpoint) items
    pure (KeyMap.ofList entries)

/-- The network quota of a project, by the project. -/
def networkQuotas (project : String) : Step σ (Option (KeyMap Entity)) :=
  reading (.networkQuotas project) fun client => do
    let object ← fetchObject client (.networkQuotas project)
    pure (KeyMap.ofList [(project, Form.networkQuotas.entity object)])

/-- The metrics of one object. -/
def figures (r : Resource) (spec : Spec) : Step σ (Option (KeyMap Float)) :=
  reading r fun client => do
    let object ← fetchObject client r
    pure (spec.project .plain object)

end Step

namespace Query

variable {σ : Type} {shape : Shape}

/-- Makes a query once. -/
def attempt : Query shape → Step σ (Option shape.Value)
  | authProjects => Step.authProjects
  | listing l => Step.listing l
  | identityLimits => Step.identityLimits
  | quotaSet project => Step.quotaSet project
  | servers project => Step.servers project
  | networkQuotas project => Step.networkQuotas project
  | computeLimits => Step.figures .computeLimits .computeLimits
  | loadBalancerStatistics loadBalancer =>
    Step.figures (.loadBalancerStatistics loadBalancer) .loadBalancerTraffic
  | listenerStatistics listener => Step.figures (.listenerStatistics listener) .listenerTraffic

/-- Makes a query, and after a refusal makes it again under a new login. -/
def perform (q : Query shape) : Step σ (Option shape.Value) := Step.withReauth q.title q.attempt

end Query

end StackWatch
