import StackWatch.Proofs.Ending
import StackWatch.Proofs.Pacing

/-!
# A catalog is seen by its lookups only

A session asks its catalog one thing: the endpoint of a component under the configured interface.
Two catalogs that answer this alike for all six components may differ in everything else, in
services that nothing polls, in other interfaces, names and regions, and in the order of entries
where it does not change which endpoint is the first. Two deployments that issue such catalogs, and
else answer alike, cannot be told apart: whatever is done with a session goes in lockstep
(`lockstep_recataloged`), so a run sends the same requests against both and reports the same
(`Check.catalog_unseen`).
-/

namespace StackWatch

/-- Catalogs that give every component the same endpoint. -/
def Catalog.Agrees (interface : Interface) (catalog catalog' : Catalog) : Prop :=
  ∀ c, catalog'.findUrl? c interface = catalog.findUrl? c interface

/-- An answer, and what it may become when the catalog in it is replaced by one that agrees. -/
inductive Answer.Recataloged (interface : Interface) : Answer → Answer → Prop
  | same (answer : Answer) : Recataloged interface answer answer
  | replaced {status : Nat} {token : Option String} {value value' : Json} {elapsed : Nat}
    {document document' : TokenDocument} (hread : TokenDocument.read value = .ok document)
    (hread' : TokenDocument.read value' = .ok document')
    (hagrees : document.catalog.Agrees interface document'.catalog) :
    Recataloged interface (.response status token (.json value) elapsed)
      (.response status token (.json value') elapsed)

/-- Two deployments whose states correspond, and which answer alike but for the
catalogs that they issue. -/
structure Deployment.Recataloged {σ τ : Type} (interface : Interface) (twin : σ → τ → Prop)
    (d : Deployment σ) (d' : Deployment τ) : Prop where
  next : ∀ {w w'} (request : Request), twin w w' → twin (d request w).2 (d' request w').2
  get : ∀ {w w'} (request : Request), twin w w' → request.method = .get →
    (d' request w').1 = (d request w).1
  post : ∀ {w w'} (request : Request), twin w w' → request.method = .post →
    (d request w).1.Recataloged interface (d' request w').1

/-! ## Sessions -/

/-- The session with another catalog. -/
def Session.withCatalog (s : Session) (catalog : Catalog) : Session :=
  { s with resolver := { s.resolver with catalog } }

/-- Two sessions that differ in nothing but their catalogs, which agree. -/
def Session.Recataloged (interface : Interface) (s s' : Session) : Prop :=
  s.resolver.interface = interface ∧
    ∃ catalog, s' = s.withCatalog catalog ∧ s.resolver.catalog.Agrees interface catalog

namespace Session.Recataloged

variable {interface : Interface} {s s' : Session}

theorem refl (h : s.resolver.interface = interface) : s.Recataloged interface s :=
  ⟨h, s.resolver.catalog, rfl, fun _ => rfl⟩

theorem same (h : s.Recataloged interface s') : s' = s.withCatalog s'.resolver.catalog := by
  obtain ⟨-, catalog, rfl, -⟩ := h
  rfl

theorem config (h : s.Recataloged interface s') : s'.config = s.config := by
  obtain ⟨-, catalog, rfl, -⟩ := h
  rfl

theorem http (h : s.Recataloged interface s') : s'.http = s.http := by
  obtain ⟨-, catalog, rfl, -⟩ := h
  rfl

/-- What does not concern the catalog may be done to both. -/
theorem map (h : s.Recataloged interface s') {f : Session → Session}
    (hkeeps : (f s).resolver.interface = s.resolver.interface ∧
      (f s).resolver.catalog = s.resolver.catalog)
    (hcommutes : ∀ catalog, f (s.withCatalog catalog) = (f s).withCatalog catalog) :
    (f s).Recataloged interface (f s') := by
  obtain ⟨hinterface, catalog, rfl, hagrees⟩ := h
  exact ⟨hkeeps.1.trans hinterface, catalog, hcommutes catalog, by rw [hkeeps.2]; exact hagrees⟩

end Session.Recataloged

/-- What answers with replaced catalogs bring: logins with the same token, or the same error. -/
theorem Answer.Recataloged.ofAnswer {interface : Interface} {answer answer' : Answer}
    (h : answer.Recataloged interface answer') (url : String) :
    Tally (fun login login' : Login => login'.1 = login.1 ∧ login.2.Agrees interface login'.2)
      (Login.ofAnswer url answer) (Login.ofAnswer url answer') := by
  cases h with
  | same =>
    cases Login.ofAnswer url answer with
    | ok login => exact .ok ⟨rfl, fun _ => rfl⟩
    | error e => exact .error e
  | @replaced status token value value' elapsed document document' hread hread' hagrees =>
    cases hstatus : isFailure status with
    | true =>
      simp only [Login.ofAnswer, HttpClient.receive, hstatus, if_true]
      exact .error _
    | false =>
      simp only [Login.ofAnswer, HttpClient.receive, hstatus, Bool.false_eq_true,
        if_false, Step.credentials]
      cases token with
      | none => exact .error _
      | some token =>
        simp only [hread, hread']
        exact .ok ⟨rfl, hagrees⟩

/-! ## Steps -/

namespace Step

variable {σ τ : Type} {d : Deployment σ} {d' : Deployment τ} {interface : Interface}
  {twin : σ → τ → Prop}

/-- Sessions whose catalogs agree, and deployments in corresponding states. -/
def CatalogAside (interface : Interface) (twin : σ → τ → Prop) (s : Session) (w : σ) (s' : Session)
    (w' : τ) : Prop := s.Recataloged interface s' ∧ twin w w'

/-- A change that does not concern the catalog. -/
theorem locked_modify {f : Session → Session}
    (hkeeps : ∀ s, (f s).resolver.interface = s.resolver.interface ∧
      (f s).resolver.catalog = s.resolver.catalog)
    (hcommutes : ∀ s catalog, f (s.withCatalog catalog) = (f s).withCatalog catalog) :
    Locked d d' (CatalogAside interface twin) Eq (modify f) (modify f) :=
  fun s _ _ _ hR => ⟨.ok rfl, ⟨hR.1.map (hkeeps s) (hcommutes s), hR.2⟩, rfl⟩

theorem locked_endpointOf (c : Component) :
    Locked d d' (CatalogAside interface twin) (Shared fun _ => True) (endpointOf c)
      (endpointOf c) := by
  rintro s w _ w' ⟨⟨hinterface, catalog, rfl, hagrees⟩, hstates⟩
  have hurl : catalog.findUrl? c s.resolver.interface =
      s.resolver.catalog.findUrl? c s.resolver.interface := by
    rw [hinterface]
    exact hagrees c
  have hrun : ∀ {υ : Type} (d : Deployment υ) (s : Session) (w : υ), endpointOf c d s w =
      ⟨(s.resolver.resolve c).1, { s with resolver := (s.resolver.resolve c).2 }, w, []⟩ :=
    fun _ _ _ => rfl
  rw [hrun, hrun]
  cases hfound : s.resolver.found c with
  | some endpoint =>
    have hfound' : (s.withCatalog catalog).resolver.found c = some endpoint := hfound
    rw [Resolver.resolve_hit hfound, Resolver.resolve_hit hfound']
    exact ⟨.ok ⟨rfl, trivial⟩, ⟨⟨hinterface, catalog, rfl, hagrees⟩, hstates⟩, rfl⟩
  | none =>
    have hfound' : (s.withCatalog catalog).resolver.found c = none := hfound
    cases hendpoint : s.resolver.catalog.findUrl? c s.resolver.interface with
    | none =>
      rw [Resolver.resolve_absent hfound hendpoint,
        Resolver.resolve_absent hfound' (hurl.trans hendpoint)]
      exact ⟨.error _, ⟨⟨hinterface, catalog, rfl, hagrees⟩, hstates⟩, rfl⟩
    | some endpoint =>
      rw [Resolver.resolve_miss hfound hendpoint,
        Resolver.resolve_miss hfound' (hurl.trans hendpoint)]
      exact ⟨.ok ⟨rfl, trivial⟩, ⟨⟨hinterface, catalog, rfl, hagrees⟩, hstates⟩, rfl⟩

theorem locked_ownClient (c : Component) (client : Client) :
    Locked d d' (CatalogAside interface twin) (Shared fun _ => True) (ownClient c client)
      (ownClient c client) := by
  unfold ownClient
  split
  · exact locked_pure ⟨rfl, trivial⟩
  · exact (locked_note _).bind_same fun _ => locked_fail _

/-- A step that goes by what the catalog has no part in. -/
theorem locked_get {ι α β : Type} {S : α → β → Prop} (view : Session → ι) (f : ι → Step σ α)
    (f' : ι → Step τ β) (hview : ∀ s catalog, view (s.withCatalog catalog) = view s)
    (h : ∀ i, Locked d d' (CatalogAside interface twin) S (f i) (f' i)) :
    Locked d d' (CatalogAside interface twin) S (get >>= fun s => f (view s))
      (get >>= fun s => f' (view s)) := by
  intro s w s' w' hR
  rw [bind_quiet (m := get) rfl, bind_quiet (m := get) rfl]
  have hsame : view s' = view s := by
    rw [hR.1.same]
    exact hview s _
  rw [hsame]
  exact h _ s w s' w' hR

theorem locked_clientOf (c : Component) :
    Locked d d' (CatalogAside interface twin) (Shared fun _ => True) (clientOf c) (clientOf c) := by
  intro s w s' w' hR
  have hclients : s'.clients = s.clients := by
    rw [hR.1.same]
    rfl
  unfold clientOf
  rw [bind_quiet (m := get) rfl, bind_quiet (m := get) rfl, hclients, hR.1.config]
  cases s.clients c with
  | some client => exact locked_ownClient c client s w s' w' hR
  | none =>
    refine ((locked_endpointOf c).bind fun endpoint _ hendpoint => ?_) s w s' w' hR
    obtain ⟨rfl, -⟩ := hendpoint
    dsimp only
    refine (locked_modify (by intros; exact ⟨rfl, rfl⟩) (by intros; rfl)).bind_same fun _ => ?_
    exact locked_ownClient c _

theorem locked_wasRead (url : String) :
    Locked d d' (CatalogAside interface twin) Eq (wasRead url) (wasRead url) :=
  locked_get (fun s => s.ledger.contains url) pure pure (fun _ _ => rfl) locked_same

variable (h : d.Recataloged interface twin d')
include h

/-- What is got is the same. -/
theorem locked_send (purpose : Purpose) (url : String) :
    Locked d d' (CatalogAside interface twin) Eq (send purpose .get url none)
      (send purpose .get url none) := by
  rintro s w s' w' hR
  have hrequest : s'.http.request? .get url none = s.http.request? .get url none := by
    rw [hR.1.http]
  cases hr : s.http.request? .get url none with
  | none =>
    rw [send_of_no_request hr, send_of_no_request (hrequest.trans hr)]
    exact ⟨.error _, hR, rfl⟩
  | some request =>
    have hget : request.method = .get := (HttpClient.token_of_request? hr).2.1
    rw [send_of_request hr, send_of_request (hrequest.trans hr), h.get request hR.2 hget]
    exact ⟨.refl _, ⟨hR.1, h.next request hR.2⟩, rfl⟩

/-- A login is granted on both sides, with catalogs that agree, or fails on both with one error. -/
theorem locked_authorize :
    Locked d d' (CatalogAside interface twin) Eq authorize authorize := by
  rintro s w _ w' ⟨⟨hinterface, catalog, rfl, -⟩, hstates⟩
  rw [authorize_apply, authorize_apply]
  by_cases hurl : Url.isRequestable s.config.tokenUrl = true
  · have hlogin := (h.post s.loginRequest hstates rfl).ofAnswer s.config.tokenUrl
    have hnext := h.next s.loginRequest hstates
    change Tally _ _ (Login.ofAnswer (s.withCatalog catalog).config.tokenUrl
      (d' (s.withCatalog catalog).loginRequest w').1) at hlogin
    rw [if_pos hurl, if_pos (show Url.isRequestable (s.withCatalog catalog).config.tokenUrl =
      true from hurl)]
    dsimp only
    generalize Login.ofAnswer s.config.tokenUrl (d s.loginRequest w).1 = login at hlogin
    generalize Login.ofAnswer (s.withCatalog catalog).config.tokenUrl
      (d' (s.withCatalog catalog).loginRequest w').1 = login' at hlogin
    cases hlogin with
    | error e => exact ⟨.error e, ⟨.refl hinterface, hnext⟩, rfl⟩
    | @ok login login' hsame =>
      obtain ⟨token, catalog₁⟩ := login
      obtain ⟨_, catalog₁'⟩ := login'
      obtain ⟨rfl, hagrees⟩ := hsame
      exact ⟨.ok rfl, ⟨⟨hinterface, catalog₁', rfl, hagrees⟩, hnext⟩, rfl⟩
  · rw [if_neg hurl, if_neg
      (show ¬ Url.isRequestable (s.withCatalog catalog).config.tokenUrl = true from hurl)]
    exact ⟨.error _, ⟨.refl hinterface, hstates⟩, rfl⟩

/-- **Sessions whose catalogs agree** go in lockstep. -/
theorem lockstep_recataloged :
    Lockstep d d' (CatalogAside interface twin) (fun _ _ => True) fun _ => True where
  endpointOf := locked_endpointOf
  clientOf := locked_clientOf
  wasRead _ := locked_wasRead _
  enter _ := locked_modify (fun _ => ⟨rfl, rfl⟩) fun _ _ => rfl
  authorize := locked_authorize h
  timing _ url _ := (locked_send h _ url).mono fun _ _ heq => heq ▸ rfl
  collected _ _ _ :=
    ((locked_send h _ _).bind_same fun _ => locked_ofExcept (.refl _)).bind_same fun _ =>
      locked_ofExcept (.refl _)
  items _ _ _ _ := (locked_send h _ _).bind_same fun _ => locked_ofExcept (.refl _)
  object _ _ _ _ := (locked_send h _ _).bind_same fun _ => locked_ofExcept (.refl _)

theorem locked_authProjects :
    Locked d d' (CatalogAside interface twin) Eq authProjects authProjects :=
  locked_authProjects_of_send (fun hR => congrArg Config.projectsUrl hR.1.config) fun url =>
    locked_send h _ url

/-- Every query, that for the projects included. -/
theorem locked_perform {shape : Shape} (q : Query shape) :
    Locked d d' (CatalogAside interface twin) Eq q.perform q.perform := by
  cases hq : q.component? with
  | some c => exact (lockstep_recataloged h).perform q hq fun _ _ _ _ => trivial
  | none =>
    cases q <;> try cases hq
    exact (lockstep_recataloged h).withReauth _ (locked_authProjects h)

theorem locked_operation (op : Operation) :
    Locked d d' (CatalogAside interface twin) Eq op.perform op.perform := by
  cases op with
  | authorize => exact (locked_authorize h).bind_same fun _ => locked_same _
  | setProject project =>
    exact (locked_modify (by intros; exact ⟨rfl, rfl⟩) (by intros; rfl)).bind_same
      fun _ => locked_same _
  | endpoint c => exact (locked_endpointOf c).bind fun _ _ heq => locked_pure (congrArg _ heq.1)
  | probe p =>
    exact ((lockstep_recataloged h).probe p fun _ _ => trivial).bind_same fun _ => locked_same _
  | ask q => exact (locked_perform h q).bind_same fun _ => locked_same _

/-- Operations in turn. By induction on them. -/
theorem locked_performAll (ops : List Operation) :
    Locked d d' (CatalogAside interface twin) Eq (Operation.performAll ops)
      (Operation.performAll ops) := by
  induction ops with
  | nil => exact locked_same []
  | cons op rest ih =>
    exact (locked_operation h op).catching.bind_same fun _ => ih.bind_same fun _ => locked_same _

end Step

/-! ## Runs -/

namespace Run

variable {σ τ α : Type} {d : Deployment σ} {d' : Deployment τ} {interface : Interface}
  {twin : σ → τ → Prop}

/-- Two runs that have written the same, whose sessions differ in nothing but their catalogs. -/
structure CatalogApart (interface : Interface) (twin : σ → τ → Prop) (p : Progress σ)
    (p' : Progress τ) : Prop where
  paced : Paced (Step.CatalogAside interface twin) [] [] p p'
  holds : ∃ held, p.session.Holds held

namespace CatalogApart

/-- A part of both runs that keeps their pace, and keeps track of the login. -/
theorem of_paced {m : Run σ α} {m' : Run τ α}
    (hpaced : Matches d d' (Paced (Step.CatalogAside interface twin) [] []) m m'
      fun _ => Paced (Step.CatalogAside interface twin) [] [])
    (hholds : ∀ {p}, (∃ held, p.session.Holds held) → ∃ held, (m d p).2.session.Holds held) :
    Abides d d' (CatalogApart interface twin) m m' := by
  intro p p' hp
  obtain ⟨hvalue, hafter⟩ := hpaced p p' hp.paced
  exact ⟨hvalue, hafter, hholds hp.holds⟩

theorem config {p : Progress σ} {p' : Progress τ} (h : CatalogApart interface twin p p') :
    p'.session.config = p.session.config := h.paced.related.1.config

theorem write {p : Progress σ} {p' : Progress τ} (h : CatalogApart interface twin p p')
    (entries : List Entry) : CatalogApart interface twin (p.write entries) (p'.write entries) :=
  ⟨h.paced.write rfl, h.holds⟩

/-- Both runs report the same, and sent the same requests. -/
theorem seen {p : Progress σ} {p' : Progress τ} (h : CatalogApart interface twin p p') :
    p'.report = p.report ∧ requestsOf p'.trace = requestsOf p.trace := by
  have hsame := h.paced.blur_eq
  refine ⟨reportOf_eq_of_blur hsame, ?_⟩
  rw [Progress.trace, Progress.trace, ← requestsOf_eventsOf_blur, hsame, requestsOf_eventsOf_blur]

end CatalogApart

/-! ### What is told leaves the session alone -/

theorem skip_session (c : Component) (d : Deployment σ) (p : Progress σ) :
    (skip c d p).2.session = p.session := by
  rw [skip, bind_apply, get_apply, ite_apply]
  split <;> rfl

theorem recordMissing_session (c : Component) (d : Deployment σ) (p : Progress σ) :
    (recordMissing c d p).2.session = p.session := by
  rw [recordMissing, bind_apply, bind_apply, get_apply, ite_apply]
  split <;> exact skip_session c d p

theorem ask_session {shape : Shape} (q : Query shape) (d : Deployment σ) (p : Progress σ) :
    (ask q d p).2.session = (q.perform d p.session p.state).session := by
  rw [ask, bind_apply, step_apply]
  cases (q.perform d p.session p.state).result with
  | ok value => rfl
  | error e =>
    cases e with
    | componentNotFound c => exact recordMissing_session c d _
    | _ => rfl

theorem tell_session (c : Component) (result : Except ApiError (Option Float)) (d : Deployment σ)
    (p : Progress σ) : (tell c result d p).2.session = p.session := by
  cases result with
  | ok elapsed => cases elapsed <;> rfl
  | error e =>
    cases e with
    | componentNotFound c' => exact recordMissing_session c' d p
    | _ => exact skip_session c d _

/-! ### Runs that go alike -/

variable (h : d.Recataloged interface twin d')
include h

theorem catalogApart_responseTime (c : Component) :
    Abides d d' (CatalogApart interface twin) (reportResponseTime c) (reportResponseTime c) := by
  refine CatalogApart.of_paced ?_ ?_
  · exact paced_responseTime (fun hR => by rw [Session.baseTags, Session.baseTags, hR.1.config]) c
      ((Step.lockstep_recataloged h).probe _ fun _ _ => trivial)
  · rintro p ⟨held, hheld⟩
    rw [responseTime_apply, tell_session]
    exact ⟨_, (Step.tracks_probe _).holds hheld⟩

/-- **Runs against deployments whose catalogs agree** go alike. -/
theorem accord_recataloged :
    Accord d d' (CatalogApart interface twin) (CatalogApart interface twin) where
  loosen := id
  config := CatalogApart.config
  skipped hp := hp.paced.skipped
  ask q p p' hp := by
    obtain ⟨held, hheld⟩ := hp.holds
    obtain ⟨hvalue, hafter⟩ := paced_ask (Step.locked_perform h q) p p' hp.paced
    refine ⟨hvalue, ⟨hafter, ?_⟩, fun c v hq hv => ?_⟩
    · rw [ask_session]
      exact ⟨_, q.perform_tracks.holds hheld⟩
    · -- data come from the query itself, which names them
      rw [ask_value] at hv
      exact Query.names_perform hheld hq (eq_of_toOption_join hv) v rfl
  write hp _ := hp.write _
  note _ _ _ hp := ⟨rfl, hp.write _⟩
  noteLoose _ _ _ hp := ⟨rfl, hp.write _⟩
  choose project := by
    refine CatalogApart.of_paced ?_ ?_
    · exact (paced_step _ (Step.locked_modify (by intros; exact ⟨rfl, rfl⟩) (by intros; rfl))).bind
        fun _ => matches_pure fun _ _ hp => hp
    · rintro p ⟨held, hheld⟩
      exact ⟨_, ((Operation.setProject project).perform_tracks (σ := σ)).holds (d := d)
        (w := p.state) hheld⟩
  login p p' hp := by
    obtain ⟨held, hheld⟩ := hp.holds
    obtain ⟨hvalue, hafter⟩ := paced_step .authorize (Step.locked_authorize h) p p' hp.paced
    have hp₁ : CatalogApart interface twin (step .authorize Step.authorize d p).2
        (step .authorize Step.authorize d' p').2 :=
      ⟨hafter, _, (Step.tracks_login .authorize).holds (d := d) (w := p.state) hheld⟩
    exact ⟨hvalue, hp₁, fun _ => hp₁⟩

end Run

/-- A new session uses the endpoints that its configuration asks for. -/
theorem Session.interface_new {config : Config} {s : Session} (h : Session.new config = .ok s) :
    s.resolver.interface = config.interface := by
  unfold Session.new at h
  split at h
  · cases h
  · rename_i valid hvalid
    split at h
    · cases h
    · obtain rfl := Except.ok.inj h
      unfold Config.validate at hvalid
      split at hvalid
      · cases hvalid
      · split at hvalid
        · cases hvalid
        · obtain rfl := Except.ok.inj hvalid
          rfl

namespace Check

variable {σ τ : Type} {d : Deployment σ} {d' : Deployment τ} {twin : σ → τ → Prop}

/-- **A run sees the catalog through its lookups only.** Against two deployments that answer
alike, but for catalogs that give each component the same endpoint, it sends the same requests
and reports the same; and so does any sequence of operations, which leaves the same session
behind but for its catalog. -/
theorem catalog_unseen (config : Config) (h : d.Recataloged config.interface twin d')
    {w : σ} {w' : τ} (hstates : twin w w') :
    (Check.run config d' w').map (fun p => (p.report, requestsOf p.trace)) =
        (Check.run config d w).map (fun p => (p.report, requestsOf p.trace)) ∧
      ∀ s, Session.new config = .ok s → ∀ ops : List Operation,
        let o := Operation.performAll ops d s w
        let o' := Operation.performAll ops d' s w'
        o'.result = o.result ∧ o'.requests = o.requests ∧
          o'.session = o.session.withCatalog o'.session.resolver.catalog := by
  refine ⟨?_, fun s hnew ops => ?_⟩
  · cases hnew : Session.new config with
    | error e => rw [Check.run, Check.run, hnew]; rfl
    | ok s =>
      have hstart : Run.CatalogApart config.interface twin (start s w) (start s w') :=
        ⟨⟨⟨.refl (Session.interface_new hnew), hstates⟩, rfl, rfl, [], rfl, rfl⟩, none,
          Session.holds_new hnew⟩
      have hrun :=
        (Run.accord_recataloged h).deployment (Run.catalogApart_responseTime h) _ _ hstart
      obtain ⟨hreport, hrequests⟩ := hrun.2.seen
      rw [run_of_new hnew, run_of_new hnew]
      exact congrArg Except.ok (Prod.ext hreport hrequests)
  · obtain ⟨hresult, hrelated, htrace⟩ :=
      Step.locked_performAll h ops s w s w' ⟨.refl (Session.interface_new hnew), hstates⟩
    refine ⟨hresult.eq.symm, ?_, hrelated.1.same⟩
    rw [Outcome.requests, Outcome.requests, ← requestsOf_blur, htrace, requestsOf_blur]

end Check

/-- A deployment that grants every login with one catalog, and has no limits. -/
def Deployment.issuing (catalog : Catalog) : Deployment Unit := .stateless fun request =>
  match request.method with
  | .post =>
    .response 201 (some "token") (.json (.obj [("token", .obj [("catalog", catalog.toJson)])])) 0
  | .get => .response 200 none (.json (.obj [("limits", .obj [])])) 0

/-- The sample catalog with a service that nothing polls, and more of the one that is. -/
def Catalog.embellished : Catalog :=
  ⟨[⟨"object-store", some "swift", [⟨.public, "http://swift", none⟩]⟩,
    ⟨Component.compute.name, some "nova",
      [⟨.admin, "http://nova:8774", none⟩, ⟨.public, "http://nova", some "north"⟩]⟩]⟩

/-- Nothing of what was added shows. -/
theorem Check.embellished_unseen :
    Deployment.Recataloged Config.sample.interface
      (fun _ _ : Unit => True) .sample (.issuing .embellished) ∧
      Catalog.embellished ≠ .sample ∧
      (Check.run .sample (.issuing .embellished) ()).map (fun p => (p.report, requestsOf p.trace)) =
        (Check.run .sample .sample ()).map (fun p => (p.report, requestsOf p.trace)) := by
  have hread : TokenDocument.read (.obj [("token", .obj [("catalog", Catalog.sample.toJson)])]) =
      .ok ⟨.sample, none⟩ := rfl
  have hread' : TokenDocument.read
      (.obj [("token", .obj [("catalog", Catalog.embellished.toJson)])]) =
      .ok ⟨.embellished, none⟩ := rfl
  have hagrees : Catalog.sample.Agrees Config.sample.interface .embellished := fun c => by
    cases c <;> decide
  have h : Deployment.Recataloged Config.sample.interface (fun _ _ : Unit => True) .sample
      (.issuing .embellished) := by
    refine ⟨fun _ _ => trivial, fun request _ hget => ?_, fun request _ hpost => ?_⟩
    · simp only [Deployment.issuing, Deployment.sample, Deployment.stateless, hget]
    · simp only [Deployment.issuing, Deployment.sample, Deployment.stateless, hpost]
      exact .replaced hread hread' hagrees
  exact ⟨h, by decide, (Check.catalog_unseen .sample h trivial).1⟩

end StackWatch
