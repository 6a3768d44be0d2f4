import StackWatch.Config

/-!
# Errors

What can go wrong between a session and a deployment. Each error is a cause; its wording is
`ApiError.message`. Only one kind of error makes a session log in again: a refusal, by status 401 or
403.
-/

namespace StackWatch

/-- Why a request brought no complete response. -/
inductive TransportFault where
  /-- the request itself cannot be built, and nothing is sent -/
  | notBuilt
  /-- nothing came back for the URL in its encoded form -/
  | notAnswered (encodedUrl : String)
  /-- the body ended before its announced length -/
  | bodyTruncated
  deriving DecidableEq, Inhabited

/-- The wording of a transport fault. -/
def TransportFault.message : TransportFault → String
  | .notBuilt => "builder error"
  | .notAnswered encodedUrl => "error sending request for url (" ++ encodedUrl ++ ")"
  | .bodyTruncated => "error decoding response body"

/-- Why a body is not what was asked for. -/
inductive DecodeFault where
  /-- the body is not one JSON text, with a description of where it fails -/
  | notJson (description : String)
  /-- the body, or an item of it, lacks a member -/
  | missing (key : String)
  | notAnArray (key : String)
  /-- the body does not map onto a record -/
  | mismatch (fault : Mismatch)

/-- The wording of a decoding fault. -/
def DecodeFault.message : DecodeFault → String
  | .notJson description => description
  | .missing key => "missing " ++ backquoted key
  | .notAnArray key => backquoted key ++ " is not an array"
  | .mismatch fault => fault.message Json.floatText

/-- The fault of a body that is not one JSON text. -/
def DecodeFault.invalidJson : DecodeFault := .notJson "<invalid json>"

/-- What can go wrong between a session and a deployment. -/
inductive ApiError where
  /-- the catalog has no endpoint of the component under the configured interface -/
  | componentNotFound (component : Component)
  /-- a response with a status from 400 to 599 -/
  | http (status : Nat) (url : String)
  | transport (url : String) (fault : TransportFault)
  | decode (url : String) (fault : DecodeFault)
  /-- a login that was answered without a readable token -/
  | missingSubjectToken
  | invalidConfig (fault : ConfigFault)
  deriving Inhabited

namespace ApiError

/-- The wording of an error. -/
def message : ApiError → String
  | .componentNotFound component => backquoted component.name ++ " component not found in catalog"
  | .http status url => "HTTP " ++ Json.intText status ++ " from " ++ url
  | .transport url fault => "transport error requesting " ++ url ++ ": " ++ fault.message
  | .decode url fault => "unexpected response from " ++ url ++ ": " ++ fault.message
  | .missingSubjectToken => "authorization response is missing the X-Subject-Token header"
  | .invalidConfig fault => "invalid configuration: " ++ fault.message

/-- Whether the error is a refusal, which calls for a new login. -/
def isRefusal : ApiError → Bool
  | .http status _ => status == 401 || status == 403
  | _ => false

/-- Whether the error is a failing status. -/
def isHttp : ApiError → Bool
  | .http _ _ => true
  | _ => false

/-- The status of a failing response. -/
def status? : ApiError → Option Nat
  | .http status _ => some status
  | _ => none

theorem isHttp_of_isRefusal {e : ApiError} (h : e.isRefusal = true) : e.isHttp = true := by
  cases e <;> simp_all [isRefusal, isHttp]

end ApiError

end StackWatch
