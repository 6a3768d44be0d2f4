import StackWatch.Catalog
import StackWatch.Decimal.Reading
import StackWatch.Text.Blank

/-!
# Configuration

What a check needs to know about a deployment: where keystone is, who logs in, which interface of
the catalog to use, which microversions to ask for, and which optional data to collect.

`Config.validate` refuses what cannot work and brings the keystone URL into the form in which it is
used: without blanks around it and without slashes at its end. `Config.listsConductors` is the gate
on one query: baremetal lists its conductors from microversion 1.49 on.
-/

namespace StackWatch

/-- The settings of a check. -/
structure Config where
  /-- root of the keystone API -/
  keystoneUrl : String
  username : String
  password : String
  /-- domain of the user -/
  domainId : String
  /-- microversion asked of compute -/
  novaVersion : Option String
  /-- microversion asked of baremetal -/
  ironicVersion : Option String
  /-- use the `internal` endpoints of the catalog in place of the `public` ones -/
  useInternalEndpoints : Bool
  /-- how long a request may take; whether one took too long is for the deployment to say -/
  timeoutSeconds : Nat
  /-- check the certificates of servers: read, written and kept for a client that speaks TLS, and
  with no bearing on anything else here -/
  verifyCertificates : Bool
  /-- poll the members of every group -/
  collectGroupUsers : Bool
  /-- poll the traffic counters of load balancers, listeners and amphorae -/
  collectStatistics : Bool
  deriving DecidableEq, Inhabited

/-- Why a configuration is refused. -/
inductive ConfigFault where
  | emptyKeystoneUrl
  | emptyUsername
  /-- a value that may not stand in the header -/
  | headerValue (header : String) (value : String)
  /-- a fault described by whoever found it -/
  | other (reason : String)
  deriving DecidableEq, Inhabited

/-- The wording of a fault. -/
def ConfigFault.message : ConfigFault → String
  | .emptyKeystoneUrl => "keystone_server_url must not be empty"
  | .emptyUsername => "username must not be empty"
  | .headerValue header value => "invalid value for " ++ header ++ ": " ++ Text.quoted value
  | .other reason => reason

namespace Config

/-- The fields of a configuration, with their defaults. -/
def schema : Schema Config where
  name := "CheckConfig"
  blank :=
    { keystoneUrl := "", username := "", password := "", domainId := "default"
      novaVersion := none, ironicVersion := none, useInternalEndpoints := false
      timeoutSeconds := 10, verifyCertificates := true, collectGroupUsers := true
      collectStatistics := true }
  fields :=
    [.of "keystone_server_url" true Reader.string fun v c => { c with keystoneUrl := v },
     .of "username" true Reader.string fun v c => { c with username := v },
     .of "password" true Reader.string fun v c => { c with password := v },
     .of "domain_id" false Reader.string fun v c => { c with domainId := v },
     .of "nova_microversion" false (.optional .string) fun v c => { c with novaVersion := v },
     .of "ironic_microversion" false (.optional .string) fun v c => { c with ironicVersion := v },
     .of "use_internal_endpoints" false Reader.bool fun v c =>
       { c with useInternalEndpoints := v },
     .of "timeout_secs" false Reader.nat64 fun v c => { c with timeoutSeconds := v },
     .of "ssl_verify" false Reader.bool fun v c => { c with verifyCertificates := v },
     .of "collect_group_users" false Reader.bool fun v c => { c with collectGroupUsers := v },
     .of "collect_load_balancer_statistics" false Reader.bool fun v c =>
       { c with collectStatistics := v }]

/-- A configuration with every field written out. -/
def toJson (c : Config) : Json :=
  .obj [("keystone_server_url", .str c.keystoneUrl), ("username", .str c.username),
    ("password", .str c.password), ("domain_id", .str c.domainId),
    ("nova_microversion", Catalog.textOrNull c.novaVersion),
    ("ironic_microversion", Catalog.textOrNull c.ironicVersion),
    ("use_internal_endpoints", .bool c.useInternalEndpoints),
    ("timeout_secs", .int c.timeoutSeconds), ("ssl_verify", .bool c.verifyCertificates),
    ("collect_group_users", .bool c.collectGroupUsers),
    ("collect_load_balancer_statistics", .bool c.collectStatistics)]

/-- A URL without blanks around it and then without slashes at its end. -/
def trimUrl (url : String) : String :=
  String.ofList (Text.dropTail (· == '/') (Text.trimChars url.toList))

/-- Refuses unusable settings and trims the keystone URL. -/
def validate (c : Config) : Except ConfigFault Config :=
  if trimUrl c.keystoneUrl = "" then .error .emptyKeystoneUrl
  else if Text.trim c.username = "" then .error .emptyUsername
  else .ok { c with keystoneUrl := trimUrl c.keystoneUrl }

/-- The interface whose endpoints are used. -/
def interface (c : Config) : Interface :=
  if c.useInternalEndpoints then .internal else .public

/-! ## The gate on conductors -/

/-- An unsigned 32-bit numeral: digits, with a plus sign in front or not. -/
def nat32? (cs : List Char) : Option Nat :=
  let digits := match cs with
    | '+' :: rest => rest
    | cs => cs
  if digits.isEmpty || !digits.all Decimal.isDigit then none
  else
    let n := Decimal.natOfDigits digits
    if n < Nat.pow 2 32 then some n else none

/-- The two parts of a text around its first point. -/
def splitPoint? (cs : List Char) : Option (List Char × List Char) :=
  match cs.dropWhile (· != '.') with
  | [] => none
  | _ :: rest => some (cs.takeWhile (· != '.'), rest)

/-- A microversion: two numerals around the first point, blanks around the whole. -/
def microversion? (version : String) : Option (Nat × Nat) :=
  match splitPoint? (Text.trimChars version.toList) with
  | none => none
  | some (major, minor) =>
    match nat32? major, nat32? minor with
    | some major, some minor => some (major, minor)
    | _, _ => none

/-- The oldest microversion of baremetal that lists conductors. -/
def conductorsSince : Nat × Nat := (1, 49)

/-- Whether a microversion is at least another: first by the first number, then by the second. -/
def atLeast (version bound : Nat × Nat) : Bool :=
  bound.1 < version.1 || (version.1 == bound.1 && bound.2 ≤ version.2)

/-- Whether the microversion asked of baremetal lists conductors. -/
def listsConductors (c : Config) : Bool :=
  match c.ironicVersion with
  | none => false
  | some version =>
    version = "latest" ||
      match microversion? version with
      | some v => atLeast v conductorsSince
      | none => false

end Config

end StackWatch
