import StackWatch.Grant
import StackWatch.Session.Basic

/-!
# Logging in, and logging in again

`Step.authorize` asks keystone for a token for the session's project. Whatever was derived from the
previous login is dropped before the request goes out, so a login that fails leaves nothing of it.

`Step.withReauth` is the one policy by which every query survives the expiry of a token: an attempt
that is refused is made a second time after a new login, and never a third time.
-/

namespace StackWatch

/-- Where tokens are asked for. -/
def Config.tokenUrl (c : Config) : String := c.keystoneUrl ++ "/v3/auth/tokens"

/-- Where the projects of the user are asked for. -/
def Config.projectsUrl (c : Config) : String := c.keystoneUrl ++ "/v3/auth/projects"

namespace Session

/-- The session without token, catalog and clients. -/
def forget (s : Session) : Session :=
  { s with resolver := s.resolver.clear, clients := .empty, http := { s.http with token := none },
           auth := .unauthenticated }

/-- The session after a login. -/
def install (s : Session) (token : String) (catalog : Catalog) : Session :=
  { s with resolver := s.resolver.replace catalog, http := { s.http with token := some token },
           auth := .authenticated, authorizations := s.authorizations + 1 }

/-- The login of the configured user for the session's project. -/
def grant (s : Session) : Grant :=
  ⟨s.config.username, s.config.password, s.config.domainId, .ofProject s.project⟩

end Session

namespace Step

variable {σ α : Type}

/-- The token and the catalog of an answer to a login. -/
def credentials (response : Response) : Except ApiError (String × Catalog) :=
  match response.subjectToken with
  | none => .error .missingSubjectToken
  | some token =>
    match TokenDocument.read response.body with
    | .error e => .error (.decode response.url (.mismatch e))
    | .ok document => .ok (token, document.catalog)

/-- Asks for a token, and with it a catalog. -/
def authorize : Step σ Unit := do
  modify Session.forget
  let s ← get
  let response ← send .authorization .post s.config.tokenUrl (some s.grant.toJson)
  let (token, catalog) ← ofExcept (credentials response)
  modify (·.install token catalog)

/-- Makes an attempt. If it is refused, logs in and makes it once more. A failing status that is no
refusal, and any failure of the second attempt, is noted and comes to no data; a login that fails,
and any other failure of the first attempt, is the failure of the whole. -/
def withReauth (query : String) (attempt : Step σ (Option α)) : Step σ (Option α) := do
  match ← attempt.catching with
  | .ok value => pure value
  | .error e =>
    if e.isRefusal then do
      modify ({ · with auth := .unauthenticated })
      authorize
      match ← attempt.catching with
      | .ok value => pure value
      | .error e => do
        note (.retryFailed query e)
        pure none
    else if e.isHttp then do
      note (.queryFailed query e)
      pure none
    else fail e

end Step

end StackWatch
