import StackWatch.Proofs.Ending
import StackWatch.Proofs.Entries

/-!
# Sessions that would be granted the same again

A deployment without a state answers a login the same way each time. A session that holds what it
would be granted again is `Steady`: to log in once more changes nothing that matters
(`Steady.authorize`). So a query changes nothing either but what is remembered and which of its own
URLs are read, at however many requests it fails (`Query.perform_stays`).

The queries of single collections from which nothing else is asked are the leaves
(`Query.isLeaf`). A leaf whose answer it cannot read (`Query.IsReadable`) comes to no data,
with or without a new login.
-/

namespace StackWatch

/-- A trace in which a URL, given in wire form, is not got. -/
def Avoids (site : String) (trace : List Event) : Prop :=
  ∀ request ∈ requestsOf trace, request.method = .get → request.url ≠ site

theorem Avoids.of_append {site : String} {before after : List Event}
    (h : Avoids site (before ++ after)) : Avoids site before ∧ Avoids site after := by
  unfold Avoids at h ⊢
  rw [requestsOf_append] at h
  exact ⟨fun r hr => h r (List.mem_append_left _ hr), fun r hr => h r (List.mem_append_right _ hr)⟩

/-- The URLs that an operation has by a catalog: that of a probe, and those of
a query's collections. -/
def Operation.urls (config : Config) (catalog : Catalog) : Operation → List String
  | .probe p => (catalog.findUrl? p.component config.interface).toList.map p.url
  | .ask q => q.collections.flatMap fun r =>
      (catalog.findUrl? r.component config.interface).toList.map r.url
  | _ => []

theorem Operation.mem_urls {config : Config} {catalog : Catalog} {shape : Shape} {q : Query shape}
    {r : Resource} (hr : r ∈ q.collections) {endpoint : String}
    (h : catalog.findUrl? r.component config.interface = some endpoint) :
    r.url endpoint ∈ (Operation.ask q).urls config catalog := by
  refine List.mem_flatMap.2 ⟨r, hr, ?_⟩
  rw [h]
  exact List.mem_singleton_self _

namespace Session

/-- A session that holds the login that it would be granted again. -/
structure Steady (answer : Request → Answer) (login : Login) (s : Session) : Prop where
  holds : s.Holds (some login)
  granted : Login.ofAnswer s.config.tokenUrl (answer s.loginRequest) = .ok login

/-- A session that is as another one, but for what it remembers and for which URLs of one
wire form it has read. -/
structure Stays (site : String) (s s' : Session) : Prop where
  config : s'.config = s.config
  http : s'.http = s.http
  project : s'.project = s.project
  catalog : s'.resolver.catalog = s.resolver.catalog
  auth : s'.auth = s.auth
  ledger : ∀ url, Url.wire url ≠ site → (url ∈ s'.ledger.urls ↔ url ∈ s.ledger.urls)

variable {answer : Request → Answer} {login : Login} {site : String} {s s' s'' : Session}

/-- The endpoints of a steady session are those of its login. -/
theorem Steady.endpoint? (h : s.Steady answer login) (c : Component) :
    s.endpoint? c = login.2.findUrl? c s.config.interface := by
  rw [Session.endpoint?, h.holds.sound.interface, h.holds.catalog]
  rfl

/-- What a login leaves as it is does not unsettle it. -/
theorem Steady.of_sameLogin (h : s.Steady answer login) (hsound : s'.Sound)
    (hsame : s.SameLogin s') : s'.Steady answer login where
  holds := h.holds.of_sameLogin hsound hsame
  granted := by
    rw [loginRequest, grant, hsame.config, hsame.http, hsame.project]
    exact h.granted

/-- The session that a steady one becomes by logging in again. -/
def relogged (s : Session) (login : Login) : Session := s.forget.install login.1 login.2

/-- A steady session is granted the same again. -/
theorem Steady.authorize (h : s.Steady answer login) :
    Step.authorize (.stateless answer) s () = ⟨.ok (), s.relogged login, (),
      [.exchange .authorization s.loginRequest (answer s.loginRequest)]⟩ := by
  have hanswer : (Deployment.stateless answer s.loginRequest ()).1 = answer s.loginRequest := rfl
  rw [Step.authorize_apply, if_pos (h.holds.requestable rfl), hanswer]
  dsimp only
  rw [h.granted]
  rfl

namespace Stays

theorem refl (site : String) (s : Session) : s.Stays site s :=
  ⟨rfl, rfl, rfl, rfl, rfl, fun _ _ => Iff.rfl⟩

theorem trans (h : s.Stays site s') (h' : s'.Stays site s'') : s.Stays site s'' where
  config := h'.config.trans h.config
  http := h'.http.trans h.http
  project := h'.project.trans h.project
  catalog := h'.catalog.trans h.catalog
  auth := h'.auth.trans h.auth
  ledger url hurl := (h'.ledger url hurl).trans (h.ledger url hurl)

theorem symm (h : s.Stays site s') : s'.Stays site s where
  config := h.config.symm
  http := h.http.symm
  project := h.project.symm
  catalog := h.catalog.symm
  auth := h.auth.symm
  ledger url hurl := (h.ledger url hurl).symm

theorem of_sameLogin (h : s.SameLogin s')
    (hledger : ∀ url, Url.wire url ≠ site → (url ∈ s'.ledger.urls ↔ url ∈ s.ledger.urls)) :
    s.Stays site s' := ⟨h.config, h.http, h.project, h.catalog, h.auth, hledger⟩

theorem loginRequest (h : s.Stays site s') : s'.loginRequest = s.loginRequest := by
  rw [Session.loginRequest, Session.loginRequest, grant, grant, h.config, h.http, h.project]

/-- The endpoints stay. -/
theorem endpoint? (h : s.Stays site s') (hs : s.Sound) (hs' : s'.Sound) (c : Component) :
    s'.endpoint? c = s.endpoint? c := by
  rw [Session.endpoint?, Session.endpoint?, hs.interface, hs'.interface, h.config, h.catalog]

theorem forget (h : s.Stays site s') : s.forget.Stays site s'.forget where
  config := h.config
  http := congrArg (fun http : HttpClient => { http with token := none }) h.http
  project := h.project
  catalog := rfl
  auth := rfl
  ledger := h.ledger

theorem relogged (h : s.Stays site s') (login : Login) :
    (s.relogged login).Stays site (s'.relogged login) where
  config := h.config
  http := congrArg (fun http : HttpClient => { http with token := some login.1 }) h.http
  project := h.project
  catalog := rfl
  auth := rfl
  ledger := h.ledger

/-- What stays as a steady session is one. -/
theorem steady (h : s.Stays site s') (hs : s.Steady answer login) (hsound : s'.Sound) :
    s'.Steady answer login where
  holds :=
    { sound := hsound
      token := h.http ▸ hs.holds.token
      catalog := h.catalog.trans hs.holds.catalog
      auth := h.auth ▸ hs.holds.auth
      requestable := h.config ▸ hs.holds.requestable }
  granted := by
    rw [h.loginRequest, h.config]
    exact hs.granted

end Stays

/-- To log in again changes nothing that matters. -/
theorem Steady.relogged (h : s.Steady answer login) (site : String) :
    (s.relogged login).Steady answer login ∧ s.Stays site (s.relogged login) := by
  have hhttp : (s.relogged login).http = s.http := by
    change { s.http with token := some login.1 } = s.http
    rw [← show s.http.token = some login.1 from h.holds.token]
  have hstays : s.Stays site (s.relogged login) :=
    ⟨rfl, hhttp, rfl, h.holds.catalog.symm, (h.holds.auth.2 rfl).symm, fun _ _ => Iff.rfl⟩
  exact ⟨hstays.steady h (.of_empty h.holds.sound.interface rfl rfl), hstays⟩

end Session

/-- What a login comes to in two sessions that are granted the same, or nothing. -/
inductive LoginAlike (answer : Request → Answer) (s s' : Session)
    (o o' : Outcome Unit Unit) : Prop where
  | refused {e : ApiError} (hresult : o.result = .error e) (hresult' : o'.result = .error e)
      (hsession : o.session = s.forget) (hsession' : o'.session = s'.forget)
  | granted {login : Login} (hresult : o.result = .ok ()) (hresult' : o'.result = .ok ())
      (hsession : o.session = s.relogged login) (hsession' : o'.session = s'.relogged login)
      (hlogin : Login.ofAnswer s.config.tokenUrl (answer s.loginRequest) = .ok login)
      (hsteady : o.session.Steady answer login)

/-- A login comes to the same in two sessions that are answered alike. -/
theorem Step.authorize_alike {answer answer' : Request → Answer} {s s' : Session}
    (hs : s.Sound) (hconfig : s'.config = s.config)
    (hanswer : answer' s'.loginRequest = answer s.loginRequest) :
    LoginAlike answer s s' (authorize (.stateless answer) s ())
      (authorize (.stateless answer') s' ()) := by
  have hleft : (Deployment.stateless answer s.loginRequest ()).1 = answer s.loginRequest := rfl
  have hright : (Deployment.stateless answer' s'.loginRequest ()).1 = answer s.loginRequest :=
    hanswer
  rw [authorize_apply, authorize_apply, hleft, hright, hconfig]
  by_cases hurl : Url.isRequestable s.config.tokenUrl = true
  · rw [if_pos hurl, if_pos hurl]
    dsimp only
    cases hlogin : Login.ofAnswer s.config.tokenUrl (answer s.loginRequest) with
    | error e => exact .refused rfl rfl rfl rfl
    | ok login =>
      exact .granted rfl rfl rfl rfl hlogin ⟨Session.holds_install hs hurl login, hlogin⟩
  · rw [if_neg hurl, if_neg hurl]
    exact .refused rfl rfl rfl rfl

/-! ## What a query leaves behind -/

theorem Ledger.mem_urls_foldl_insert {urls : List String} {l : Ledger} {url : String} :
    url ∈ (urls.foldl insert l).urls ↔ url ∈ l.urls ∨ url ∈ urls := by
  induction urls generalizing l with
  | nil => simp
  | cons first rest ih => rw [List.foldl_cons, ih, mem_urls_insert, List.mem_cons, or_assoc]

namespace Query

variable {shape : Shape} {answer : Request → Answer} {login : Login} {site : String} {s : Session}
  {q : Query shape}

/-- An attempt at a query whose URLs are all of one wire form. -/
theorem attempt_stays (h : s.Steady answer login)
    (hown : ∀ url ∈ (Operation.ask q).urls s.config login.2, Url.wire url = site) :
    s.Stays site (q.attempt (.stateless answer) s ()).session := by
  refine .of_sameLogin (q.attempt_keeps h.holds.sound).2 fun url hurl => ?_
  by_cases hdata : ∃ value, (q.attempt (.stateless answer) s ()).result = .ok (some value)
  · obtain ⟨value, hdata⟩ := hdata
    cases hq : q.component? with
    | none =>
      cases q <;> try cases hq
      have hsession : (authProjects.attempt (.stateless answer) s ()).session = s :=
        (Step.looks_authProjects _ s ()).1
      rw [hsession]
    | some c =>
      obtain ⟨endpoint, read, nested, hendpoint, hread, -, -, -, hledger⟩ :=
        q.attempt_of_data h.holds.sound hq hdata
      rw [hledger, Ledger.mem_urls_foldl_insert, or_iff_left]
      intro hmem
      obtain ⟨r, hr, rfl⟩ := List.mem_map.1 hmem
      have hcomponent := Option.some.inj (hq.symm.trans (component?_of_mem (hread.subset hr)))
      rw [h.endpoint?, hcomponent] at hendpoint
      exact hurl (hown _ (Operation.mem_urls (hread.subset hr) hendpoint))
  · rw [q.attempt_ledger_of_no_data h.holds.sound fun value hvalue => hdata ⟨value, hvalue⟩]

/-- The session from which a second attempt starts is as the first one. -/
theorem restart_stays (h : s.Steady answer login)
    (hown : ∀ url ∈ (Operation.ask q).urls s.config login.2, Url.wire url = site) :
    (q.restart (.stateless answer) s ()).Steady answer login ∧
      s.Stays site (q.restart (.stateless answer) s ()) := by
  have hfirst := attempt_stays h hown
  have hsteady := hfirst.steady h (q.attempt_keeps h.holds.sound).1
  obtain ⟨hagain, hstays⟩ := hsteady.relogged site
  have hrestart : q.restart (.stateless answer) s () =
      (q.attempt (.stateless answer) s ()).session.relogged login :=
    congrArg Outcome.session hsteady.authorize
  rw [hrestart]
  exact ⟨hagain, hfirst.trans hstays⟩

/-- **A query under a steady login** leaves the session as it was, but for its own URLs. -/
theorem perform_stays (h : s.Steady answer login)
    (hown : ∀ url ∈ (Operation.ask q).urls s.config login.2, Url.wire url = site) :
    (q.perform (.stateless answer) s ()).session.Steady answer login ∧
      s.Stays site (q.perform (.stateless answer) s ()).session := by
  have hfirst := attempt_stays h hown
  have hsteady := hfirst.steady h (q.attempt_keeps h.holds.sound).1
  obtain ⟨hagain, hrestart⟩ := restart_stays h hown
  have hown' : ∀ url ∈ (Operation.ask q).urls (q.restart (.stateless answer) s ()).config login.2,
      Url.wire url = site := by
    rw [hrestart.config]
    exact hown
  have hsecond := attempt_stays hagain hown'
  cases q.course (.stateless answer) s () with
  | served _ hwhole | failed _ _ _ hwhole | broken _ _ hwhole =>
    rw [hwhole]
    exact ⟨hsteady, hfirst⟩
  | locked _ _ hlogin =>
    -- the login does not fail
    rw [hsteady.authorize] at hlogin
    cases hlogin
  | again _ _ _ _ hwhole | lost _ _ _ _ hwhole =>
    rw [hwhole]
    exact ⟨hsecond.steady hagain (q.attempt_keeps hagain.holds.sound).1, hrestart.trans hsecond⟩

end Query

/-- **A query** takes nothing out of the ledger. -/
theorem Query.perform_ledger_subset {σ : Type} {shape : Shape} {d : Deployment σ}
    {s : Session} {w : σ} {held : Option Login} (h : s.Holds held) (q : Query shape) :
    s.ledger.urls ⊆ (q.perform d s w).session.ledger.urls := by
  cases hq : q.component? with
  | none =>
    rw [q.perform_ledger_of_component?_eq_none h hq]
    exact List.Subset.refl _
  | some c =>
    by_cases hdata : ∃ value, (q.perform d s w).result = .ok (some value)
    · obtain ⟨value, hvalue⟩ := hdata
      obtain ⟨_, _, _, _, _, _, _, _, _, _, hentered⟩ := q.perform_entered h hq hvalue
      rw [hentered]
      exact List.subset_append_left _ _
    · rw [q.perform_ledger_of_no_data h fun value hvalue => hdata ⟨value, hvalue⟩]
      exact List.Subset.refl _

/-- **A probe** takes nothing out of the ledger. -/
theorem Probe.probe_ledger_subset {σ : Type} {d : Deployment σ} {s : Session} {w : σ} (hs : s.Sound)
    (p : Probe) : s.ledger.urls ⊆ (Step.probe p d s w).session.ledger.urls := by
  by_cases hdata : ∃ elapsed, (Step.probe p d s w).result = .ok (some elapsed)
  · obtain ⟨elapsed, helapsed⟩ := hdata
    obtain ⟨endpoint, -, -, -, hentered⟩ := p.probe_of_data hs helapsed
    rw [hentered]
    exact fun url hurl => Ledger.mem_urls_insert.2 (.inl hurl)
  · rw [p.probe_ledger_of_no_data hs fun elapsed helapsed => hdata ⟨elapsed, helapsed⟩]
    exact List.Subset.refl _

/-! ## Leaves -/

/-- The collections of the sections without a project from which nothing else is asked. -/
def Listing.isLeaf : Listing → Bool
  | domains | projects | users | services | computeServices | flavors | hypervisors
      | aggregates | agents
  | nodes | conductors | amphorae => true
  | _ => false

/-- The queries of the sections without a project that read one collection, or one object, and from
which nothing else is asked. -/
def Query.isLeaf {shape : Shape} : Query shape → Bool
  | listing l => l.isLeaf
  | computeLimits => true
  | _ => false

/-- Whether a query of one collection, or of one object, finds what it reads in an answer. -/
def Query.IsReadable {shape : Shape} (q : Query shape) (answer : Answer) : Prop :=
  match q with
  | listing l => ∃ url response items entities, HttpClient.receive url answer = .ok response ∧
      response.array l.member = .ok items ∧ l.collect url items = .ok entities
  | q => ∃ r ∈ q.collections, ∃ url response object, HttpClient.receive url answer = .ok response ∧
      response.field r.member = .ok object

/-- An answer that fails, or whose body lacks a member. -/
inductive Answer.IsFailure (member : String) : Answer → Prop where
  | dropped : IsFailure member .dropped
  | status {status : Nat} {subjectToken : Option String} {body : Body} {elapsed : Nat}
      (h : isFailure status = true) : IsFailure member (.response status subjectToken body elapsed)
  | truncated {status : Nat} {subjectToken : Option String} {elapsed : Nat} :
      IsFailure member (.response status subjectToken .truncated elapsed)
  | malformed {status : Nat} {subjectToken : Option String} {elapsed : Nat} :
      IsFailure member (.response status subjectToken .malformed elapsed)
  | lacking {status : Nat} {subjectToken : Option String} {value : Json} {elapsed : Nat}
      (h : value.get? member = none) :
      IsFailure member (.response status subjectToken (.json value) elapsed)

/-- Of such an answer nothing is received, or nothing under the member. -/
theorem Answer.IsFailure.field_ne {member : String} {answer : Answer} (h : answer.IsFailure member)
    {url : String} {response : Response} (hreceive : HttpClient.receive url answer = .ok response)
    (object : Json) : response.field member ≠ .ok object := by
  intro hfield
  cases h with
  | dropped => cases hreceive
  | status h =>
    unfold HttpClient.receive at hreceive
    dsimp only at hreceive
    rw [if_pos h] at hreceive
    cases hreceive
  | truncated | malformed =>
    unfold HttpClient.receive at hreceive
    dsimp only at hreceive
    split at hreceive <;> cases hreceive
  | lacking h =>
    unfold HttpClient.receive at hreceive
    dsimp only at hreceive
    split at hreceive
    · cases hreceive
    · obtain rfl := Except.ok.inj hreceive
      simp only [Response.field, h] at hfield
      cases hfield

/-- An array of a body is one of its members. -/
theorem Response.field_of_array {response : Response} {key : String} {items : List Json}
    (h : response.array key = .ok items) : ∃ value, response.field key = .ok value := by
  unfold array at h
  cases hfield : response.field key with
  | error e =>
    rw [hfield] at h
    cases h
  | ok value => exact ⟨value, rfl⟩

namespace Query

variable {shape : Shape} {answer : Request → Answer} {login : Login} {site : String} {s : Session}
  {q : Query shape}

/-- A leaf reads one resource, at most once. -/
theorem collections_of_isLeaf (h : q.isLeaf = true) :
    ∃ r : Resource, q.collections = [r] ∧ r.isOnce = true := by
  cases q with
  | listing l =>
    refine ⟨_, rfl, ?_⟩
    cases l <;> first | rfl | cases h
  | computeLimits => exact ⟨_, rfl, rfl⟩
  | _ => cases h

/-- A leaf finds nothing in an answer that fails, or that lacks the member of its collection. -/
theorem not_isReadable_of_isFailure {a : Answer}
    (h : ∀ r ∈ q.collections, a.IsFailure r.member) : ¬ q.IsReadable a := by
  have hobject : ¬ ∃ r ∈ q.collections, ∃ url response object,
      HttpClient.receive url a = .ok response ∧ response.field r.member = .ok object := by
    rintro ⟨r, hr, url, response, object, hreceive, hfield⟩
    exact (h r hr).field_ne hreceive object hfield
  cases q with
  | listing l =>
    rintro ⟨url, response, items, entities, hreceive, harray, -⟩
    obtain ⟨value, hfield⟩ := Response.field_of_array harray
    exact hobject ⟨.listing l, List.mem_singleton_self _, url, response, value, hreceive, hfield⟩
  | _ => exact hobject

end Query

namespace Step

variable {α : Type} {answer : Request → Answer} {s : Session}

/-- A response comes from the answer to a request for its URL. -/
theorem answer_of_send {purpose : Purpose} {url : String} {response : Response}
    (h : (send purpose .get url none (.stateless answer) s ()).result = .ok response) :
    ∃ request : Request, request.method = .get ∧ request.url = Url.wire url ∧
      HttpClient.receive url (answer request) = .ok response := by
  cases hr : s.http.request? .get url none with
  | none =>
    rw [send_of_no_request hr] at h
    cases h
  | some request =>
    obtain ⟨-, hmethod, hurl, -⟩ := HttpClient.token_of_request? hr
    rw [send_of_request hr] at h
    exact ⟨request, hmethod, hurl, h⟩

/-- A resource with data was unread, or may be read again, and was read by its client. -/
theorem read_of_reading (hs : s.Sound) {r : Resource} {read : Client → Step Unit α} {a : α}
    (h : (reading r read (.stateless answer) s ()).result = .ok (some a)) :
    ∃ endpoint s', s.endpoint? r.component = some endpoint ∧
      (r.isOnce = true → r.url endpoint ∉ s.ledger.urls) ∧
      (read (Client.build r.component endpoint s.config) (.stateless answer) s' ()).result =
        .ok a := by
  rw [reading_apply hs] at h
  cases hendpoint : s.endpoint? r.component with
  | none =>
    rw [hendpoint] at h
    cases h
  | some endpoint =>
    rw [hendpoint] at h
    dsimp only at h
    split at h
    · split at h
      · cases h
      · rename_i hunread
        split at h
        · cases h
        · rename_i value hvalue
          obtain rfl : value = a := Option.some.inj (Except.ok.inj h)
          refine ⟨endpoint, _, rfl, fun honce hmem => hunread ?_, hvalue⟩
          rw [honce, Ledger.contains_iff.2 hmem]
          rfl
    · cases h

end Step

namespace Query

variable {shape : Shape} {answer : Request → Answer} {login : Login} {site : String} {s : Session}
  {q : Query shape}

/-- An attempt at a leaf brings data only if its collection is unread, from an answer
in which it finds them. -/
theorem attempt_of_isLeaf (hleaf : q.isLeaf = true) (hs : s.Sound) {value : shape.Value}
    (h : (q.attempt (.stateless answer) s ()).result = .ok (some value)) :
    ∃ r ∈ q.collections, ∃ endpoint, s.endpoint? r.component = some endpoint ∧
      r.url endpoint ∉ s.ledger.urls ∧
      ∃ request : Request, request.method = .get ∧ request.url = Url.wire (r.url endpoint) ∧
        q.IsReadable (answer request) := by
  obtain ⟨r, hr, honce⟩ := collections_of_isLeaf hleaf
  cases q with
  | listing l =>
    obtain rfl : Resource.listing l = r := List.singleton_inj.1 hr
    obtain ⟨endpoint, s', hendpoint, hunread, hread⟩ := Step.read_of_reading hs h
    obtain ⟨items, hitems, hcollect⟩ := Step.bind_result_ok hread
    obtain ⟨response, hsend, harray⟩ := Step.bind_result_ok hitems
    obtain ⟨request, hget, hurl, hreceive⟩ := Step.answer_of_send hsend
    exact ⟨_, List.mem_singleton_self _, endpoint, hendpoint, hunread honce, request, hget, hurl, _,
      response, items, value, hreceive, harray, hcollect⟩
  | computeLimits =>
    obtain ⟨endpoint, s', hendpoint, hunread, hread⟩ := Step.read_of_reading hs h
    obtain ⟨object, hobject, -⟩ := Step.bind_result_ok hread
    obtain ⟨response, hsend, hfield⟩ := Step.bind_result_ok hobject
    obtain ⟨request, hget, hurl, hreceive⟩ := Step.answer_of_send hsend
    exact ⟨_, List.mem_singleton_self _, endpoint, hendpoint, hunread rfl, request, hget, hurl, _,
      List.mem_singleton_self _, _, response, object, hreceive, hfield⟩
  | _ => cases hleaf

/-- A query with data comes to them by an attempt under the login that it began with. -/
theorem attempt_of_perform (h : s.Steady answer login)
    (hown : ∀ url ∈ (Operation.ask q).urls s.config login.2, Url.wire url = site)
    {value : shape.Value} (hdata : (q.perform (.stateless answer) s ()).result = .ok (some value)) :
    ∃ start : Session, start.Steady answer login ∧ start.config = s.config ∧
      start.ledger = s.ledger ∧ (q.attempt (.stateless answer) start ()).result = .ok (some value) ∧
      (q.perform (.stateless answer) s ()).session =
      (q.attempt (.stateless answer) start ()).session := by
  obtain ⟨start, o, hsucceeds, -, hledger, hsession⟩ := perform_of_data h.holds hdata
  obtain ⟨hrestart, hstays⟩ := restart_stays h hown
  cases hsucceeds with
  | first hresult => exact ⟨s, h, rfl, hledger, hresult, hsession⟩
  | second _ _ _ hresult => exact ⟨_, hrestart, hstays.config, hledger, hresult, hsession⟩

/-- A leaf has at most one URL. -/
theorem eq_of_mem_urls (hleaf : q.isLeaf = true) {config : Config} {catalog : Catalog}
    {url url' : String} (hurl : url ∈ (Operation.ask q).urls config catalog)
    (hurl' : url' ∈ (Operation.ask q).urls config catalog) : url = url' := by
  obtain ⟨r, hr, hmem⟩ := List.mem_flatMap.1 hurl
  obtain ⟨r', hr', hmem'⟩ := List.mem_flatMap.1 hurl'
  obtain ⟨r₀, hr₀, -⟩ := collections_of_isLeaf hleaf
  rw [hr₀] at hr hr'
  rw [List.mem_singleton.1 hr] at hmem
  rw [List.mem_singleton.1 hr'] at hmem'
  cases hendpoint : catalog.findUrl? r₀.component config.interface with
  | none =>
    rw [hendpoint] at hmem
    cases hmem
  | some endpoint =>
    rw [hendpoint] at hmem hmem'
    exact (List.mem_singleton.1 hmem).trans (List.mem_singleton.1 hmem').symm

/-- What an attempt at a leaf with data read, it put into the ledger. -/
theorem entered_of_isLeaf (hleaf : q.isLeaf = true) (hs : s.Sound) {value : shape.Value}
    (h : (q.attempt (.stateless answer) s ()).result = .ok (some value)) {r : Resource}
    (hr : r ∈ q.collections) {endpoint : String}
    (hendpoint : s.endpoint? r.component = some endpoint) :
    r.url endpoint ∈ (q.attempt (.stateless answer) s ()).session.ledger.urls := by
  obtain ⟨endpoint', read, nested, hendpoint', hread, hsome, -, -, hentered⟩ :=
    q.attempt_of_data hs (component?_of_mem hr) h
  obtain rfl := Option.some.inj (hendpoint.symm.trans hendpoint')
  obtain ⟨r', hr'⟩ := List.exists_mem_of_ne_nil read hsome
  -- the collection that was read is the only one
  obtain ⟨only, honly, -⟩ := collections_of_isLeaf hleaf
  have hmem := hread.subset hr'
  rw [honly] at hr hmem
  obtain rfl : r' = r := (List.mem_singleton.1 hmem).trans (List.mem_singleton.1 hr).symm
  rw [hentered, Ledger.mem_urls_foldl_insert]
  exact .inr (List.mem_map_of_mem hr')

/-- **A leaf that brings data** has read its URL, which was unread. -/
theorem perform_of_isLeaf (hleaf : q.isLeaf = true) (h : s.Steady answer login) {u : String}
    (hu : u ∈ (Operation.ask q).urls s.config login.2) {value : shape.Value}
    (hdata : (q.perform (.stateless answer) s ()).result = .ok (some value)) :
    u ∉ s.ledger.urls ∧ u ∈ (q.perform (.stateless answer) s ()).session.ledger.urls ∧
      ∃ request : Request, request.method = .get ∧ request.url = Url.wire u ∧
        q.IsReadable (answer request) := by
  obtain ⟨start, hstart, hconfig, hledger, hresult, hsession⟩ :=
    attempt_of_perform h (fun url hurl => congrArg Url.wire (eq_of_mem_urls hleaf hurl hu)) hdata
  have hsound := hstart.holds.sound
  obtain ⟨r, hr, endpoint, hendpoint, hunread, request, hget, hurl, hreadable⟩ :=
    attempt_of_isLeaf hleaf hsound hresult
  have hentered := entered_of_isLeaf hleaf hsound hresult hr hendpoint
  rw [hstart.endpoint?, hconfig] at hendpoint
  obtain rfl : u = r.url endpoint := eq_of_mem_urls hleaf hu (Operation.mem_urls hr hendpoint)
  exact ⟨hledger ▸ hunread, hsession ▸ hentered, request, hget, hurl, hreadable⟩

end Query

end StackWatch
