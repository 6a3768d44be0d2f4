import StackWatch.Error
import StackWatch.Http.Exchange

/-!
# The HTTP client

An `HttpClient` holds the headers that every request carries: the configured microversions,
and the bearer token while there is one. `HttpClient.send` makes one exchange. Of an answer
that fails in several ways the first in this order counts: no response, a failing status, a
body cut off, a body that is not JSON. `Response.field` and `Response.array` take a collection
or an object out of a body.
-/

namespace StackWatch

/-- A response that did not fail, with its body. -/
structure Response where
  /-- as it was requested -/
  url : String
  /-- the token that keystone issues -/
  subjectToken : Option String
  body : Json
  /-- the round trip in nanoseconds -/
  elapsed : Nat
  deriving Inhabited

namespace Response

/-- The round trip in milliseconds: its whole seconds and the rest are rounded apart and added. -/
def milliseconds (r : Response) : Float :=
  let whole := (r.elapsed / 1000000000).toUInt64.toFloat
  let rest := (r.elapsed % 1000000000).toUInt64.toFloat / 1000000000.0
  (whole + rest) * 1000.0

/-- A member of the body. -/
def field (r : Response) (key : String) : Except ApiError Json :=
  match r.body.get? key with
  | some value => .ok value
  | none => .error (.decode r.url (.missing key))

/-- A member of the body that is an array. -/
def array (r : Response) (key : String) : Except ApiError (List Json) :=
  match r.field key with
  | .error e => .error e
  | .ok value =>
    match value.items? with
    | some items => .ok items
    | none => .error (.decode r.url (.notAnArray key))

end Response

/-- A client with its headers. -/
structure HttpClient where
  novaVersion : Option String
  ironicVersion : Option String
  token : Option String
  deriving DecidableEq, Inhabited

namespace HttpClient

/-- The header of the microversion asked of compute. -/
def novaHeader : String := "X-OpenStack-Nova-API-Version"

/-- The header of the microversion asked of baremetal. -/
def ironicHeader : String := "X-OpenStack-Ironic-API-Version"

/-- Whether a character may stand in a header that is sent: no control except the tab. -/
def isSendable (c : Char) : Bool := (32 ≤ c.toNat && c.toNat != 127) || c == '\t'

/-- Whether a text may be the value of a header. -/
def isHeaderValue (value : String) : Bool := value.toList.all isSendable

/-- Refuses a microversion that may not stand in its header. -/
def checkHeader (header : String) : Option String → Except ConfigFault Unit
  | none => .ok ()
  | some value => if isHeaderValue value then .ok () else .error (.headerValue header value)

/-- The client of a configuration, without a token. -/
def ofConfig (c : Config) : Except ConfigFault HttpClient :=
  match checkHeader novaHeader c.novaVersion with
  | .error e => .error e
  | .ok () =>
    match checkHeader ironicHeader c.ironicVersion with
    | .error e => .error e
    | .ok () => .ok ⟨c.novaVersion, c.ironicVersion, none⟩

/-- The request for a URL, if one can be built. -/
def request? (client : HttpClient) (method : Method) (url : String) (body : Option Json) :
    Option Request :=
  if Url.isRequestable url && client.token.all isHeaderValue then
    some ⟨method, Url.wire url, client.token, client.novaVersion, client.ironicVersion, body⟩
  else none

/-- What an answer means to whoever requested a URL. -/
def receive (url : String) : Answer → Except ApiError Response
  | .dropped => .error (.transport url (.notAnswered (Url.encoded url)))
  | .response status subjectToken body elapsed =>
    if isFailure status then .error (.http status url)
    else
      match body with
      | .truncated => .error (.transport url .bodyTruncated)
      | .malformed => .error (.decode url .invalidJson)
      | .json value => .ok ⟨url, subjectToken, value, elapsed⟩

/-- One exchange, and the request and answer that it consisted of. -/
def send {σ : Type} (client : HttpClient) (d : Deployment σ) (method : Method) (url : String)
    (body : Option Json) (w : σ) : Except ApiError Response × Option (Request × Answer) × σ :=
  match client.request? method url body with
  | none => (.error (.transport url .notBuilt), none, w)
  | some request =>
    let (answer, w) := d request w
    (receive url answer, some (request, answer), w)

/-- A request carries the client's token. -/
theorem token_of_request? {client : HttpClient} {method : Method} {url : String}
    {body : Option Json} {r : Request} (h : client.request? method url body = some r) :
    r.token = client.token ∧ r.method = method ∧ r.url = Url.wire url ∧ r.body = body := by
  unfold request? at h
  split at h
  · cases h
    exact ⟨rfl, rfl, rfl, rfl⟩
  · cases h

end HttpClient

end StackWatch
