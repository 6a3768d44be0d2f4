import StackWatch.Proofs.Retry
import StackWatch.Proofs.Timing

/-!
# Tokens and endpoints of one login

Everything that goes over the wire belongs to the login that is held at that moment: its
token, if there is one, and the endpoints of the catalog that came with it.
`Operation.Permits` says this of one event. Every operation keeps to it (`perform_tracks`), so
every run does, whatever the answers are: no session mixes a token with an endpoint of another
login, although a query may log in halfway.
-/

namespace StackWatch

/-! ## What an operation may send -/

/-- The URLs that an operation may ask a component for, given the endpoint of the component. -/
inductive Operation.Targets : Operation → Component → String → String → Prop where
  | probe (p : Probe) (endpoint : String) : Targets (.probe p) p.component endpoint (p.url endpoint)
  | collection {shape : Shape} {q : Query shape} {r : Resource} (hr : r ∈ q.collections)
      (endpoint : String) : Targets (.ask q) r.component endpoint (r.url endpoint)
  | lookup {shape : Shape} {q : Query shape} {r : Resource} (hr : q.looksUp r = true)
      (endpoint : String) : Targets (.ask q) r.component endpoint (r.url endpoint)

/-- What an operation may leave in a trace while a login is held, or none. -/
inductive Operation.Permits (op : Operation) (config : Config) : Option Login → Event → Prop where
  | notice (held : Option Login) (n : Notice) : Permits op config held (.notice n)
  /-- a login carries no token -/
  | login (held : Option Login) {request : Request} {answer : Answer}
      (hmethod : request.method = .post) (hurl : request.url = Url.wire config.tokenUrl)
      (htoken : request.token = none) :
      Permits op config held (.exchange .authorization request answer)
  /-- keystone itself is asked with the token that is held, or without one -/
  | projects (held : Option Login) {request : Request} {answer : Answer}
      (hmethod : request.method = .get) (hurl : request.url = Url.wire config.projectsUrl)
      (htoken : request.token = held.map (·.1)) :
      Permits op config held (.exchange .projectList request answer)
  /-- a component is asked with the token that is held, at the endpoint of the catalog beside it -/
  | polling {token : String} {catalog : Catalog} {c : Component} {endpoint url : String}
      {request : Request} {answer : Answer}
      (hendpoint : catalog.findUrl? c config.interface = some endpoint)
      (htarget : op.Targets c endpoint url) (hmethod : request.method = .get)
      (hurl : request.url = Url.wire url) (htoken : request.token = some token) :
      Permits op config (some (token, catalog)) (.exchange (.polling c) request answer)

namespace Step

variable {σ : Type} {d : Deployment σ} {s : Session} {w : σ} {held : Option Login}

/-- A URL asked for at the endpoint of a component goes out under the login that is held. -/
theorem permits_polling (h : s.Holds held) {op : Operation} {c : Component} {endpoint url : String}
    (hendpoint : s.endpoint? c = some endpoint) (htarget : op.Targets c endpoint url)
    {event : Event} (hgets : s.Gets (.polling c) url event) : op.Permits s.config held event := by
  obtain ⟨token, catalog, rfl, hfind⟩ := h.endpoint?_eq_some hendpoint
  obtain ⟨answer, rfl⟩ := hgets
  exact .polling hfind htarget rfl rfl h.token

/-- What an attempt may send is permitted. -/
theorem permits_of_emits (h : s.Holds held) {shape : Shape} {q : Query shape} {event : Event}
    (hemits : q.Emits s event) : (Operation.ask q).Permits s.config held event := by
  cases hemits with
  | notice n => exact .notice held n
  | projects _ hgets =>
    obtain ⟨answer, rfl⟩ := hgets
    exact .projects held rfl rfl h.token
  | collection hr hendpoint _ hgets => exact permits_polling h hendpoint (.collection hr _) hgets
  | lookup hr hendpoint hgets => exact permits_polling h hendpoint (.lookup hr _) hgets

/-! ## Every operation -/

/-- An event that the session of a step may emit asks by GET. -/
theorem request_get_of_gets {purpose : Purpose} {url : String} {event : Event} {request : Request}
    (h : s.Gets purpose url event) (hrequest : event.request? = some request) :
    request.method = .get := by
  obtain ⟨answer, rfl⟩ := h
  obtain rfl : s.getRequest url = request := Option.some.inj hrequest
  rfl

/-- No attempt logs in. -/
theorem attempt_gets (hs : s.Sound) {shape : Shape} (q : Query shape) :
    ∀ request ∈ (q.attempt d s w).requests, request.method = .get := by
  intro request hrequest
  obtain ⟨purpose, answer, hevent⟩ := mem_requestsOf.1 hrequest
  cases q.attempt_emits hs _ hevent with
  | projects _ hgets => exact request_get_of_gets hgets rfl
  | collection _ _ _ hgets => exact request_get_of_gets hgets rfl
  | lookup _ _ hgets => exact request_get_of_gets hgets rfl

/-- No probe logs in. -/
theorem probe_gets (hs : s.Sound) (p : Probe) :
    ∀ request ∈ (probe p d s w).requests, request.method = .get := by
  intro request hrequest
  obtain ⟨purpose, answer, hevent⟩ := mem_requestsOf.1 hrequest
  obtain ⟨_, _, _, hgets⟩ := p.probe_emits hs _ hevent
  exact request_get_of_gets hgets rfl

theorem tracks_attempt {shape : Shape} (q : Query shape) :
    Tracks (Operation.ask q).Permits (q.attempt : Step σ (Option shape.Value)) :=
  tracks_of_same (fun h => h.of_sameLogin (q.attempt_keeps h.sound).1 (q.attempt_keeps h.sound).2)
    (fun h => (q.attempt_keeps h.sound).2.config) (fun h => attempt_gets h.sound q)
    fun h event hevent => permits_of_emits h (q.attempt_emits h.sound event hevent)

theorem tracks_probe (p : Probe) :
    Tracks (Operation.probe p).Permits (probe p : Step σ (Option Float)) := by
  refine tracks_of_same
    (fun h => h.of_sameLogin (p.probe_keeps h.sound).1 (p.probe_keeps h.sound).2)
    (fun h => (p.probe_keeps h.sound).2.config) (fun h => probe_gets h.sound p)
    fun h event hevent => ?_
  obtain ⟨endpoint, hendpoint, -, hgets⟩ := p.probe_emits h.sound event hevent
  exact permits_polling h hendpoint (.probe p endpoint) hgets

theorem tracks_endpointOf {P : Config → Option Login → Event → Prop} (c : Component) :
    Tracks P (endpointOf c : Step σ String) := by
  have hkeeps : ∀ {d : Deployment σ} {s w}, s.Sound →
      (endpointOf c d s w).session.Sound ∧ s.SameLogin (endpointOf c d s w).session := by
    intro d s w hs
    rw [endpointOf_apply hs]
    cases hendpoint : s.endpoint? c with
    | none => exact ⟨hs, .refl s⟩
    | some endpoint => exact ⟨hs.withEndpoint hendpoint, s.sameLogin_withEndpoint c endpoint⟩
  exact tracks_of_silent (fun _ _ _ => rfl)
    (fun h => h.of_sameLogin (hkeeps h.sound).1 (hkeeps h.sound).2)
    fun h => (hkeeps h.sound).2.config

theorem tracks_setProject {P : Config → Option Login → Event → Prop} (project : Option String) :
    Tracks P (modify ({ · with project }) : Step σ Unit) :=
  tracks_of_silent (fun _ _ _ => rfl)
    (fun h => ⟨⟨h.sound.interface, h.sound.found, h.sound.clients⟩, h.token, h.catalog, h.auth,
      h.requestable⟩)
    fun _ => rfl

theorem tracks_login (op : Operation) : Tracks op.Permits (authorize : Step σ Unit) :=
  tracks_authorize fun _ => .login _ rfl rfl rfl

end Step

/-- Every query keeps track of the login, and sends nothing but what is permitted under it. -/
theorem Query.perform_tracks {σ : Type} {shape : Shape} (q : Query shape) :
    Step.Tracks (Operation.ask q).Permits (q.perform : Step σ (Option shape.Value)) :=
  (Step.tracks_attempt q).withReauth q.title (Step.tracks_login _) fun n _ held => .notice held n

namespace Operation

open Step

variable {σ : Type}

/-- So does every operation. -/
theorem perform_tracks (op : Operation) : Tracks op.Permits (op.perform : Step σ Reply) := by
  cases op with
  | authorize => exact (tracks_login _).bind fun _ => tracks_pure _
  | setProject project => exact (tracks_setProject project).bind fun _ => tracks_pure _
  | endpoint c => exact (tracks_endpointOf c).bind fun _ => tracks_pure _
  | probe p => exact (tracks_probe p).bind fun _ => tracks_pure _
  | ask q => exact q.perform_tracks.bind fun _ => tracks_pure _

/-- So do several in turn, by induction on them. -/
theorem performAll_tracks : ∀ ops : List Operation,
    Tracks (fun _ _ _ => True) (performAll ops : Step σ (List (Except ApiError Reply)))
  | [] => tracks_pure _
  | op :: rest => by
    refine (op.perform_tracks.catching.mono fun _ _ _ _ => trivial).bind fun _ => ?_
    exact (performAll_tracks rest).bind fun _ => tracks_pure _

/-- **Token and catalog of one login.** In any run from a new session, against any deployment, every
event is permitted under the last login of what was traced before it. -/
theorem permitted_under_lastLogin {config : Config} {s : Session} (h : Session.new config = .ok s)
    (d : Deployment σ) (w : σ) (ops : List Operation) (op : Operation) {before after : List Event}
    {event : Event}
    (htrace : (op.perform d (performAll ops d s w).session (performAll ops d s w).state).trace =
      before ++ event :: after) :
    op.Permits s.config
      (lastLogin s.config.tokenUrl ((performAll ops d s w).trace ++ before)) event := by
  have hpast := (performAll_tracks ops).holds (d := d) (w := w) (Session.holds_new h)
  have hconfig := (performAll_tracks ops).config (d := d) (w := w) (Session.holds_new h)
  have hpermits := op.perform_tracks.permits hpast htrace
  rw [hconfig] at hpermits
  rw [lastLogin, loginAfter_append]
  exact hpermits

end Operation

/-! ### A small deployment -/

/-- An accepted configuration. -/
def Config.sample : Config where
  keystoneUrl := "http://keystone"
  username := "watcher"
  password := "secret"
  domainId := "default"
  novaVersion := none
  ironicVersion := none
  useInternalEndpoints := false
  timeoutSeconds := 10
  verifyCertificates := true
  collectGroupUsers := true
  collectStatistics := true

/-- A catalog with one public endpoint. -/
def Catalog.sample : Catalog :=
  ⟨[⟨Component.compute.name, none, [⟨.public, "http://nova", none⟩]⟩]⟩

/-- A deployment that grants every login and has no limits. -/
def Deployment.sample : Deployment Unit := .stateless fun request =>
  match request.method with
  | .post =>
    .response 201 (some "token")
      (.json (.obj [("token", .obj [("catalog", Catalog.sample.toJson)])])) 0
  | .get => .response 200 none (.json (.obj [("limits", .obj [])])) 0

/-- The new session of the configuration. -/
def Session.sample : Session where
  config := .sample
  http := ⟨none, none, none⟩
  resolver := .new .public
  clients := .empty
  ledger := .empty
  project := none
  auth := .unauthenticated
  authorizations := 0

theorem Session.new_sample : Session.new .sample = .ok .sample := rfl

/-- After a login, the limits of compute are asked for with its token at the
endpoint of its catalog. -/
theorem computeLimits_permitted :
    Session.new .sample = .ok .sample ∧ (Operation.ask .computeLimits).Permits .sample
      (lastLogin Config.sample.tokenUrl
        ((Operation.performAll [.authorize] Deployment.sample .sample ()).trace ++ []))
      (.exchange (.polling .compute) ⟨.get, "http://nova/limits", some "token", none, none, none⟩
        (.response 200 none (.json (.obj [("limits", .obj [])])) 0)) := by
  have htrace : ((Operation.ask .computeLimits).perform Deployment.sample
      (Operation.performAll [.authorize] Deployment.sample .sample ()).session
      (Operation.performAll [.authorize] Deployment.sample .sample ()).state).trace =
      [] ++ .exchange (.polling .compute)
        ⟨.get, "http://nova/limits", some "token", none, none, none⟩
        (.response 200 none (.json (.obj [("limits", .obj [])])) 0) :: [] := rfl
  exact ⟨Session.new_sample,
    Operation.permitted_under_lastLogin Session.new_sample Deployment.sample ()
      [.authorize] _ htrace⟩

/-! ## The sessions of all runs -/

/-- The sessions that operations lead to from a new one, whoever answers. -/
inductive Session.Reachable : Session → Prop where
  | new {config : Config} {s : Session} (h : Session.new config = .ok s) : Reachable s
  | perform {σ : Type} {s : Session} (hs : Reachable s) (op : Operation)
      (d : Deployment σ) (w : σ) :
      Reachable (op.perform d s w).session

/-- Every reachable session holds a login, or none. -/
theorem Session.Reachable.holds {s : Session} (h : s.Reachable) : ∃ held, s.Holds held := by
  induction h with
  | new h => exact ⟨none, holds_new h⟩
  | perform _ op d w ih =>
    obtain ⟨held, hheld⟩ := ih
    exact ⟨_, op.perform_tracks.holds hheld⟩

end StackWatch
