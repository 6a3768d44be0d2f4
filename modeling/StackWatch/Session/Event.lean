import StackWatch.Http.Client

/-!
# What a run leaves behind

Everything a session does can be told from its trace: the exchanges it had with the deployment, each
with the purpose it served, and the notices it wrote to its log.
-/

namespace StackWatch

/-- Why a request is sent. -/
inductive Purpose where
  /-- to obtain a token -/
  | authorization
  /-- to learn which projects the user may log in to -/
  | projectList
  /-- to poll a component, or to time it -/
  | polling (component : Component)
  deriving DecidableEq, Inhabited

/-- What is written to the log. -/
inductive Notice where
  | loginFailed (error : ApiError)
  | loggedIn
  | projectLoginFailed (project : String) (error : ApiError)
  | componentMissing (component : Component)
  | unreachable (component : Component) (error : ApiError)
  /-- a query failed, and the run does without its data -/
  | reportFailed (query : String) (error : ApiError)
  /-- a query was answered with a failing status that is no refusal -/
  | queryFailed (query : String) (error : ApiError)
  /-- a query failed again after a new login -/
  | retryFailed (query : String) (error : ApiError)
  | conductorsNotOffered
  /-- a remembered client is not the component's -/
  | wrongClient (component : Component)
  | runFinished (metrics serviceChecks : Nat)
  deriving Inhabited

namespace Notice

/-- The line of a notice: its level and its wording. -/
def text : Notice → String
  | loginFailed e => "ERROR Exception while authorizing user: " ++ e.message
  | loggedIn => "INFO User successfully authorized"
  | projectLoginFailed project e =>
    "ERROR Exception while authorizing user for project " ++ project ++ ": " ++ e.message
  | componentMissing c => "INFO " ++ (ApiError.componentNotFound c).message
  | unreachable c e => "WARN " ++ c.name ++ " is unreachable: " ++ e.message
  | reportFailed query e => "ERROR Exception while reporting " ++ query ++ ": " ++ e.message
  | queryFailed query e => "ERROR HTTPError while reporting " ++ query ++ ": " ++ e.message
  | retryFailed query e =>
    "ERROR HTTPError while reporting " ++ query ++ " after re-authorization: " ++ e.message
  | conductorsNotOffered =>
    "INFO Ironic conductors metrics are not available. Please specify an " ++
      backquoted "ironic_microversion" ++ " greater than 1.49 to receive these metrics"
  | wrongClient c => "INFO cached sub-client for " ++ c.name ++ " has the wrong kind"
  | runFinished metrics serviceChecks =>
    "INFO check run finished metrics=" ++ Json.intText metrics ++ " service_checks=" ++
      Json.intText serviceChecks

end Notice

/-- One entry of a trace. -/
inductive Event where
  | exchange (purpose : Purpose) (request : Request) (answer : Answer)
  | notice (notice : Notice)
  deriving Inhabited

end StackWatch
