import StackWatch.Http.Url
import StackWatch.Json.Parser

/-!
# Requests and answers

A `Deployment` is whatever answers requests. It may keep a state of its own, so that nothing is
assumed of two answers to the same request. An answer either never comes (`dropped`) or has a
status, perhaps a subject token, and a body that arrived in full or was cut off.

A request and its answer are those of the client that makes the exchange: it is asked once, and the
answer is the one that it returns. What it does in between belongs to the deployment. It follows
redirections by itself, so that an answer with a status of 301 and a new location stands for the
answer found there, and the requests it makes on the way are not requests here. Nor are
connections, TLS handshakes and certificates: an exchange that fails in them is `dropped`, as is
one that takes too long.
-/

namespace StackWatch

/-- What a request asks for. -/
inductive Method where
  | get
  | post
  deriving DecidableEq, Inhabited

/-- A request as it is handed to the client, with its URL in the form that goes over the wire. The
client may follow redirections from there. -/
structure Request where
  method : Method
  /-- in wire form -/
  url : String
  /-- the bearer token -/
  token : Option String
  /-- microversion asked of compute -/
  novaVersion : Option String
  /-- microversion asked of baremetal -/
  ironicVersion : Option String
  body : Option Json
  deriving Inhabited

/-- The body of an answer. -/
inductive Body where
  /-- the connection closed before the announced length -/
  | truncated
  /-- complete, but not one JSON text -/
  | malformed
  /-- complete; an empty body is null -/
  | json (value : Json)
  deriving Inhabited

/-- A body that arrived in full. -/
def Body.ofBytes (bytes : ByteArray) : Body :=
  if bytes.isEmpty then .json .null
  else
    match String.fromUTF8? bytes with
    | none => .malformed
    | some text =>
      match Json.parse? text with
      | none => .malformed
      | some value => .json value

/-- What a deployment answers. -/
inductive Answer where
  /-- the connection closed, or never opened, or took too long -/
  | dropped
  /-- a response; the time is in nanoseconds, up to the arrival of the headers -/
  | response (status : Nat) (subjectToken : Option String) (body : Body) (elapsed : Nat)
  deriving Inhabited

/-- Whoever answers requests, with a state of its own: the servers, the network, and a client that
follows redirections until there is an answer to return. -/
abbrev Deployment (σ : Type) := Request → σ → Answer × σ

/-- A deployment that answers every request by itself, whatever came before. -/
def Deployment.stateless (answer : Request → Answer) : Deployment Unit := fun r _ => (answer r, ())

/-- Whether a status is a failure: 400 to 599. -/
def isFailure (status : Nat) : Bool := 400 ≤ status && status < 600

/-- Whether a character may stand in a header that somebody reads: it is visible, a blank or a
tab. -/
def isReadable (c : Char) : Bool := (32 ≤ c.toNat && c.toNat < 127) || c == '\t'

/-- The value of the subject token's header: nothing if any character of it cannot be read. -/
def readableToken (value : String) : Option String :=
  if value.toList.all isReadable then some value else none

end StackWatch
