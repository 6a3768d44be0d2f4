import StackWatch.Resolver
import StackWatch.Session.Event
import StackWatch.Session.Ledger

/-!
# Sessions

A `Session` is what a run knows: its configuration, the token and catalog of its last login with
what was derived from them, the URLs it has read, and the project that its next login is for.

What it does is a `Step`: a computation that talks to a deployment, changes the session, leaves a
trace and ends in a value or an error. A step that fails keeps what was changed and traced before.
The lemmas on `bind` say what a sequence of two steps comes to in either case; proofs about steps
use them and need not unfold the definition.
-/

namespace StackWatch

/-- Whether a session holds a token that it believes to be valid. -/
inductive AuthState where
  | unauthenticated
  | authenticated
  deriving DecidableEq, Inhabited

/-- What is remembered of a component while a login lasts. -/
structure Client where
  component : Component
  endpoint : String
  /-- whether the microversion asked for lists conductors -/
  listsConductors : Bool
  deriving DecidableEq, Inhabited

/-- The client of a component at an endpoint. -/
def Client.build (c : Component) (endpoint : String) (config : Config) : Client :=
  ⟨c, endpoint, config.listsConductors⟩

/-- What a run knows. -/
structure Session where
  /-- validated -/
  config : Config
  http : HttpClient
  resolver : Resolver
  /-- the clients built since the last login -/
  clients : Memo Client
  ledger : Ledger
  /-- the project that the next login is for -/
  project : Option String
  auth : AuthState
  /-- how many logins succeeded -/
  authorizations : Nat

/-- A session that has not logged in, if the configuration is a usable one. -/
def Session.new (config : Config) : Except ApiError Session :=
  match config.validate with
  | .error e => .error (.invalidConfig e)
  | .ok config =>
    match HttpClient.ofConfig config with
    | .error e => .error (.invalidConfig e)
    | .ok http =>
      .ok { config, http, resolver := .new config.interface, clients := .empty, ledger := .empty,
            project := none, auth := .unauthenticated, authorizations := 0 }

/-- What a step comes to. -/
structure Outcome (σ α : Type) where
  result : Except ApiError α
  session : Session
  /-- the state of the deployment -/
  state : σ
  trace : List Event

/-- A computation of a session against a deployment. -/
def Step (σ α : Type) : Type := Deployment σ → Session → σ → Outcome σ α

namespace Step

variable {σ α β : Type}

/-- Ends in a value. -/
protected def pure (a : α) : Step σ α := fun _ s w => ⟨.ok a, s, w, []⟩

/-- Goes on with the value of a step; if it failed, the failure is that of the whole. -/
protected def bind (m : Step σ α) (f : α → Step σ β) : Step σ β := fun d s w =>
  let o := m d s w
  match o.result with
  | .error e => ⟨.error e, o.session, o.state, o.trace⟩
  | .ok a =>
    let o' := f a d o.session o.state
    ⟨o'.result, o'.session, o'.state, o.trace ++ o'.trace⟩

instance : Monad (Step σ) where
  pure := Step.pure
  bind := Step.bind

/-- Ends in an error. -/
def fail (e : ApiError) : Step σ α := fun _ s w => ⟨.error e, s, w, []⟩

/-- Ends in a given result. -/
def ofExcept (result : Except ApiError α) : Step σ α := fun _ s w => ⟨result, s, w, []⟩

/-- The session as it stands. -/
def get : Step σ Session := fun _ s w => ⟨.ok s, s, w, []⟩

/-- Changes the session. -/
def modify (f : Session → Session) : Step σ Unit := fun _ s w => ⟨.ok (), f s, w, []⟩

/-- Writes a notice. -/
def note (n : Notice) : Step σ Unit := fun _ s w => ⟨.ok (), s, w, [.notice n]⟩

/-- Runs a step to its result, failures included. -/
def catching (m : Step σ α) : Step σ (Except ApiError α) := fun d s w =>
  let o := m d s w
  ⟨.ok o.result, o.session, o.state, o.trace⟩

/-- Sends one request for a purpose. -/
def send (purpose : Purpose) (method : Method) (url : String) (body : Option Json) :
    Step σ Response := fun d s w =>
  match s.http.send d method url body w with
  | (result, exchange, w) =>
    ⟨result, s, w, exchange.toList.map fun e => .exchange purpose e.1 e.2⟩

/-! ## Sequences of steps -/

variable {d : Deployment σ} {s : Session} {w : σ}

@[simp] theorem pure_apply (a : α) : (pure a : Step σ α) d s w = ⟨.ok a, s, w, []⟩ := rfl

/-- After a step that succeeded comes the rest, from where the step left off. -/
theorem bind_of_ok {m : Step σ α} {f : α → Step σ β} {a : α} (h : (m d s w).result = .ok a) :
    (m >>= f) d s w =
      let o := f a d (m d s w).session (m d s w).state
      ⟨o.result, o.session, o.state, (m d s w).trace ++ o.trace⟩ := by
  change Step.bind m f d s w = _
  simp only [Step.bind, h]

/-- After a step that failed comes nothing. -/
theorem bind_of_error {m : Step σ α} {f : α → Step σ β} {e : ApiError}
    (h : (m d s w).result = .error e) :
    (m >>= f) d s w = ⟨.error e, (m d s w).session, (m d s w).state, (m d s w).trace⟩ := by
  change Step.bind m f d s w = _
  simp only [Step.bind, h]

/-- A sequence succeeds only if both of its steps do. -/
theorem bind_result_ok {m : Step σ α} {f : α → Step σ β} {b : β}
    (h : ((m >>= f) d s w).result = .ok b) :
    ∃ a, (m d s w).result = .ok a ∧
      (f a d (m d s w).session (m d s w).state).result = .ok b := by
  cases hm : (m d s w).result with
  | error e => rw [bind_of_error hm] at h; cases h
  | ok a => rw [bind_of_ok hm] at h; exact ⟨a, rfl, h⟩

/-- The steps form a monad. -/
theorem pure_bind (a : α) (f : α → Step σ β) : (pure a >>= f : Step σ β) = f a := by
  funext d s w
  rw [bind_of_ok (m := (pure a : Step σ α)) rfl]
  simp

theorem catching_result (m : Step σ α) : (m.catching d s w).result = .ok (m d s w).result := rfl

end Step

end StackWatch
