import StackWatch.Session.Query

/-!
# Operations

An `Operation` is anything that may be done with a session: logging in, choosing the
project of the next login, looking up an endpoint, timing a component (`Probe`), and
every query. `Operation.perform` does it. A probe is not repeated under a new login: its
failure is what it has to tell.
-/

namespace StackWatch

/-- What is timed. -/
inductive Probe where
  /-- the endpoint of a component -/
  | apiRoot (component : Component)
  /-- the endpoint of block storage without its project -/
  | blockStorageRoot
  deriving DecidableEq, Inhabited

namespace Probe

/-- The component that is timed. -/
def component : Probe → Component
  | apiRoot c => c
  | blockStorageRoot => .blockStorage

/-- The probe by which a run times a component. -/
def ofComponent : Component → Probe
  | .blockStorage => blockStorageRoot
  | c => apiRoot c

end Probe

namespace Step

variable {σ : Type}

/-- The milliseconds of a round trip to a URL, nothing if the URL was read before. -/
def timed (c : Component) (url : String) : Step σ (Option Float) := do
  let before ← wasRead url
  if before then pure none
  else do
    let response ← send (.polling c) .get url none
    enter url
    pure (some response.milliseconds)

/-- Times a component. -/
def probe : Probe → Step σ (Option Float)
  | .apiRoot c => do
    let endpoint ← endpointOf c
    timed c endpoint
  | .blockStorageRoot => do
    let client ← clientOf .blockStorage
    timed .blockStorage (StackWatch.blockStorageRoot client.endpoint)

end Step

/-- Anything that may be done with a session. -/
inductive Operation where
  | authorize
  | setProject (project : Option String)
  | endpoint (component : Component)
  | probe (probe : Probe)
  | ask {shape : Shape} (query : Query shape)

/-- What an operation comes to. -/
inductive Reply where
  | done
  | url (url : String)
  | elapsed (milliseconds : Option Float)
  | data {shape : Shape} (value : Option shape.Value)

namespace Operation

variable {σ : Type}

/-- Does an operation. -/
def perform : Operation → Step σ Reply
  | authorize => do
    Step.authorize
    pure .done
  | setProject project => do
    Step.modify ({ · with project })
    pure .done
  | endpoint c => do
    let url ← Step.endpointOf c
    pure (.url url)
  | probe p => do
    let elapsed ← Step.probe p
    pure (.elapsed elapsed)
  | ask q => do
    let value ← q.perform
    pure (.data value)

/-- Does several operations in turn, whatever each comes to. -/
def performAll : List Operation → Step σ (List (Except ApiError Reply))
  | [] => pure []
  | op :: rest => do
    let result ← op.perform.catching
    let results ← performAll rest
    pure (result :: results)

end Operation

end StackWatch
