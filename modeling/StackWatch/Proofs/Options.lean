import StackWatch.Proofs.Parallel

/-!
# What a configuration may leave out

Two collections are optional: the members of groups, and the traffic of load balancers, listeners
and amphorae (`Extra`). Only the run looks at whether they are asked for, and no step of a session
does: a session whose configuration leaves one out (`Session.without`) does every query and every
probe like one that has it (`Step.lockstep_spared`).

So a session that has left out what is optional stands to one that has not as two sessions do that
have read different URLs (`Step.Trailing`). Between two logins they have no more in common than
their setup and what they have read of the URLs that are known (`Session.Fellow`); a login that is
granted brings them together again.
-/

namespace StackWatch

/-- What a configuration may ask for or leave out. -/
inductive Extra where
  /-- the members of groups -/
  | membership
  /-- the traffic of load balancers, listeners and amphorae -/
  | statistics
  deriving DecidableEq

namespace Extra

/-- Whether a configuration asks for it. -/
def isAsked : Extra → Config → Bool
  | membership => Config.collectGroupUsers
  | statistics => Config.collectStatistics

/-- The configuration that leaves it out. -/
def off : Extra → Config → Config
  | membership, config => { config with collectGroupUsers := false }
  | statistics, config => { config with collectStatistics := false }

theorem isAsked_off (e : Extra) (config : Config) : e.isAsked (e.off config) = false := by
  cases e <;> rfl

theorem isAsked_off_of_ne {e x : Extra} (h : x ≠ e) (config : Config) :
    x.isAsked (e.off config) = x.isAsked config := by
  cases x <;> cases e <;> first | rfl | exact absurd rfl h

/-- What is optional has no part in whether a configuration can be used. -/
theorem validate_off (e : Extra) (config : Config) :
    (e.off config).validate = config.validate.map e.off := by
  have hurl : (e.off config).keystoneUrl = config.keystoneUrl := by cases e <;> rfl
  have huser : (e.off config).username = config.username := by cases e <;> rfl
  rw [Config.validate, Config.validate, hurl, huser]
  split
  · rfl
  · split
    · rfl
    · cases e <;> rfl

end Extra

/-- What an operation is done for, if that is optional. -/
def Operation.extra? : Operation → Option Extra
  | .ask (.listing (.groupUsers _)) => some .membership
  | .ask (.listing (.amphoraStatistics _)) | .ask (.loadBalancerStatistics _)
  | .ask (.listenerStatistics _) => some .statistics
  | _ => none

/-! ## Sessions -/

namespace Session

/-- The session under the configuration that leaves something out. -/
def without (s : Session) (e : Extra) : Session := { s with config := e.off s.config }

variable {e : Extra} {s s' : Session}

theorem baseTags_without (s : Session) (e : Extra) : (s.without e).baseTags = s.baseTags := by
  cases e <;> rfl

theorem listsConductors_without (s : Session) (e : Extra) :
    (s.without e).config.listsConductors = s.config.listsConductors := by
  cases e <;> rfl

theorem tokenUrl_without (s : Session) (e : Extra) :
    (s.without e).config.tokenUrl = s.config.tokenUrl := by
  cases e <;> rfl

theorem projectsUrl_without (s : Session) (e : Extra) :
    (s.without e).config.projectsUrl = s.config.projectsUrl := by
  cases e <;> rfl

theorem loginRequest_without (s : Session) (e : Extra) :
    (s.without e).loginRequest = s.loginRequest := by
  cases e <;> rfl

/-- A new session is what it is without what is optional, but for its configuration. -/
theorem new_off {config : Config} (hnew : new config = .ok s) (e : Extra) :
    new (e.off config) = .ok (s.without e) := by
  have hclient : ∀ config : Config, HttpClient.ofConfig (e.off config) =
      HttpClient.ofConfig config := by
    intro config
    cases e <;> rfl
  unfold new at hnew ⊢
  rw [e.validate_off]
  cases hvalid : config.validate with
  | error fault =>
    rw [hvalid] at hnew
    cases hnew
  | ok config' =>
    rw [hvalid] at hnew
    simp only [Except.map, hclient] at hnew ⊢
    cases hhttp : HttpClient.ofConfig config' with
    | error fault =>
      rw [hhttp] at hnew
      cases hnew
    | ok http =>
      rw [hhttp] at hnew
      obtain rfl := Except.ok.inj hnew
      cases e <;> rfl

end Session

namespace Step

variable {σ τ υ α : Type}

/-! ## Without what is optional -/

/-- A session and the same without what is optional, with one state of the deployment. -/
def Spared (e : Extra) (s : Session) (w : σ) (s' : Session) (w' : σ) : Prop :=
  s' = s.without e ∧ w' = w

section Spared

variable {d : Deployment σ} {e : Extra}

theorem spared_modify {f : Session → Session} (hcommutes : ∀ s, f (s.without e) = (f s).without e) :
    Locked d d (Spared e) Eq (modify f) (modify f) := by
  rintro s _ _ w ⟨rfl, rfl⟩
  exact ⟨.ok rfl, ⟨hcommutes s, rfl⟩, rfl⟩

theorem spared_send (purpose : Purpose) (method : Method) (url : String) (body : Option Json) :
    Locked d d (Spared e) Eq (send purpose method url body) (send purpose method url body) := by
  rintro s _ _ w ⟨rfl, rfl⟩
  have hsame : (s.without e).http.request? method url body = s.http.request? method url body := rfl
  cases hrequest : s.http.request? method url body with
  | none =>
    rw [send_of_no_request hrequest, send_of_no_request (hsame.trans hrequest)]
    exact ⟨.error _, ⟨rfl, rfl⟩, rfl⟩
  | some request =>
    rw [send_of_request hrequest, send_of_request (hsame.trans hrequest)]
    exact ⟨.refl _, ⟨rfl, rfl⟩, rfl⟩

theorem spared_endpointOf (c : Component) :
    Locked d d (Spared e) (Shared fun _ => True) (endpointOf c) (endpointOf c) := by
  rintro s _ _ w ⟨rfl, rfl⟩
  refine ⟨?_, ⟨rfl, rfl⟩, rfl⟩
  change Tally _ (s.resolver.resolve c).1 (s.resolver.resolve c).1
  exact (Tally.refl _).mono fun _ _ heq => ⟨heq, trivial⟩

theorem spared_ownClient (c : Component) (client : Client) :
    Locked d d (Spared e) (Shared fun _ => True) (ownClient c client) (ownClient c client) := by
  unfold ownClient
  split
  · exact locked_pure ⟨rfl, trivial⟩
  · exact (locked_note _).bind_same fun _ => locked_fail _

theorem spared_clientOf (c : Component) :
    Locked d d (Spared e) (Shared fun _ => True) (clientOf c) (clientOf c) := by
  rintro s _ _ w ⟨rfl, rfl⟩
  have hclients : (s.without e).clients = s.clients := rfl
  unfold clientOf
  rw [bind_quiet (m := get) rfl, bind_quiet (m := get) rfl, hclients]
  cases s.clients c with
  | some client => exact spared_ownClient c client s w _ _ ⟨rfl, rfl⟩
  | none =>
    refine ((spared_endpointOf c).bind fun endpoint _ hendpoint => ?_) s w _ _ ⟨rfl, rfl⟩
    obtain ⟨rfl, -⟩ := hendpoint
    have hclient : Client.build c endpoint (s.without e).config =
        Client.build c endpoint s.config := by
      rw [Client.build, Client.build, s.listsConductors_without]
    dsimp only
    rw [hclient]
    exact (spared_modify fun _ => rfl).bind_same fun _ => spared_ownClient c _

theorem spared_authorize : Locked d d (Spared e) Eq authorize authorize := by
  rintro s _ _ w ⟨rfl, rfl⟩
  rw [authorize_apply, authorize_apply, s.tokenUrl_without, s.loginRequest_without]
  split
  · dsimp only
    split
    · exact ⟨.error _, ⟨rfl, rfl⟩, rfl⟩
    · exact ⟨.ok rfl, ⟨rfl, rfl⟩, rfl⟩
  · exact ⟨.error _, ⟨rfl, rfl⟩, rfl⟩

/-- **A session without what is optional** goes in lockstep with one that has it. -/
theorem lockstep_spared : Lockstep d d (Spared e) (fun _ _ => True) fun _ => True where
  endpointOf := spared_endpointOf
  clientOf := spared_clientOf
  wasRead _ := by
    rintro s _ _ w ⟨rfl, rfl⟩
    exact ⟨.ok rfl, ⟨rfl, rfl⟩, rfl⟩
  enter _ := spared_modify fun _ => rfl
  authorize := spared_authorize
  timing _ _ _ := (spared_send _ _ _ _).mono fun _ _ heq => heq ▸ rfl
  collected _ _ _ :=
    ((spared_send _ _ _ _).bind_same fun _ => locked_ofExcept (.refl _)).bind_same fun _ =>
      locked_ofExcept (.refl _)
  items _ _ _ _ := (spared_send _ _ _ _).bind_same fun _ => locked_ofExcept (.refl _)
  object _ _ _ _ := (spared_send _ _ _ _).bind_same fun _ => locked_ofExcept (.refl _)

end Spared

/-! ## Behind another session -/

/-- Two sessions with a third one between them. -/
def Chained (R : Session → σ → Session → τ → Prop)
    (R' : Session → τ → Session → υ → Prop) (s : Session) (w : σ) (s'' : Session)
    (w'' : υ) : Prop :=
  ∃ s' w', R s w s' w' ∧ R' s' w' s'' w''

/-- What goes in lockstep with the session between, on either side of it,
does so with each other. -/
theorem Locked.chain {d : Deployment σ} {d' : Deployment τ} {d'' : Deployment υ}
    {R : Session → σ → Session → τ → Prop} {R' : Session → τ → Session → υ → Prop} {m : Step σ α}
    {m' : Step τ α} {m'' : Step υ α} (h : Locked d d' R Eq m m') (h' : Locked d' d'' R' Eq m' m'') :
    Locked d d'' (Chained R R') Eq m m'' := by
  rintro s w s'' w'' ⟨s', w', hR, hR'⟩
  obtain ⟨hresult, hrelated, htrace⟩ := h s w s' w' hR
  obtain ⟨hresult', hrelated', htrace'⟩ := h' s' w' s'' w'' hR'
  refine ⟨?_, ⟨_, _, hrelated, hrelated'⟩, htrace'.trans htrace⟩
  rw [hresult.eq]
  exact hresult'

section Trailing

variable {e : Extra} {answer : Request → Answer} {config : Config} {login : Login}
  {known : String → Prop}

/-- Two sessions of which the second has done without something optional: under one login they have
read the same of the URLs that are known. -/
def Trailing (e : Extra) (answer : Request → Answer) (config : Config) (login : Login)
    (known : String → Prop) : Session → Unit → Session → Unit → Prop :=
  Chained (LedgersApart answer answer config login known) (Spared e)

theorem Trailing.baseTags {s s' : Session} {w w' : Unit}
    (h : Trailing e answer config login known s w s' w') : s'.baseTags = s.baseTags := by
  obtain ⟨t, v, hbeside, rfl, -⟩ := h
  rw [t.baseTags_without, Session.baseTags, Session.baseTags, hbeside.akin.config]

/-- A deployment lists the same projects as itself. -/
theorem relisting_self (config : Config) (catalog : Catalog) (answer : Request → Answer) :
    Relisting config catalog [] [] answer answer := ⟨fun _ _ => .inl rfl, .inl fun _ => rfl⟩

/-- Where both talk to one deployment, all that is got is the same. -/
theorem apart_send_same (purpose : Purpose) (url : String) :
    Locked (.stateless answer) (.stateless answer)
      (LedgersApart answer answer config login known) Eq
      (send purpose .get url none) (send purpose .get url none) := by
  intro s w s' w' hR
  have hsame : s'.http.request? .get url none = s.http.request? .get url none := by
    rw [hR.akin.http]
  cases hrequest : s.http.request? .get url none with
  | none =>
    rw [send_of_no_request hrequest, send_of_no_request (hsame.trans hrequest)]
    exact ⟨.error _, hR, rfl⟩
  | some request =>
    rw [send_of_request hrequest, send_of_request (hsame.trans hrequest)]
    exact ⟨.refl _, hR, rfl⟩

/-- **A query** whose URLs are known. -/
theorem trailing_perform {shape : Shape} (q : Query shape)
    (hknown : ∀ url ∈ (Operation.ask q).urls config login.2, known url) :
    Locked (.stateless answer) (.stateless answer)
      (Trailing e answer config login known) Eq q.perform
      q.perform := by
  have hlists := relisting_self config login.2 answer
  cases hq : q.component? with
  | some c =>
    refine ((lockstep_apart hlists).perform q hq fun _ hr _ hsite => ?_).chain
      (lockstep_spared.perform q hq fun _ _ _ _ => trivial)
    exact hknown _ (Operation.mem_urls hr hsite)
  | none =>
    cases q <;> try cases hq
    have hapart : Locked (.stateless answer) (.stateless answer)
        (LedgersApart answer answer config login known) Eq authProjects authProjects :=
      locked_authProjects_of_send (fun hR => congrArg Config.projectsUrl hR.akin.config) fun url =>
        apart_send_same _ url
    have hspared : Locked (.stateless answer) (.stateless answer) (Spared e) Eq
        authProjects authProjects :=
      locked_authProjects_of_send (fun {s _ _ _} hR => hR.1 ▸ s.projectsUrl_without e) fun url =>
        spared_send _ _ url _
    exact ((lockstep_apart hlists).withReauth _ hapart).chain (lockstep_spared.withReauth _ hspared)

/-- **A probe** whose URL is known. -/
theorem trailing_probe (p : Probe)
    (hknown : ∀ url ∈ (Operation.probe p).urls config login.2, known url) :
    Locked (.stateless answer) (.stateless answer)
      (Trailing e answer config login known) Eq (probe p) (probe p) := by
  refine ((lockstep_apart (relisting_self config login.2 answer)).probe p
    fun endpoint hsite => ?_).chain
    (lockstep_spared.probe p fun _ _ => trivial)
  refine hknown _ ?_
  rw [Operation.urls, hsite]
  exact List.mem_singleton_self _

end Trailing

end Step

/-! ## Between two logins -/

/-- Two sessions that may hold different logins, and have read the same of
the URLs that are known. -/
structure Session.Fellow (config : Config) (known : String → Prop) (s s' : Session) : Prop where
  sound : s.Sound
  configured : s.config = config
  setup : s.SameSetup s'
  project : s'.project = s.project
  agree : ∀ url, known url → (url ∈ s'.ledger.urls ↔ url ∈ s.ledger.urls)

namespace Session.Fellow

variable {config : Config} {known : String → Prop} {s s' : Session}

/-- Sessions under one login are fellows. -/
theorem of_beside {answer answer' : Request → Answer} {login : Login}
    (h : s.Beside answer answer' config login known s') : s.Fellow config known s' where
  sound := h.steady.holds.sound
  configured := h.configured
  setup := .of_akin h.akin h.steady'.holds.sound
  project := h.akin.project
  agree := h.agree

theorem choose (h : s.Fellow config known s') (project : Option String) :
    (s.choose project).Fellow config known (s'.choose project) where
  sound := h.sound.withProject project
  configured := h.configured
  setup := ⟨h.setup.config, h.setup.http, h.setup.sound.withProject project⟩
  project := rfl
  agree := h.agree

theorem forget (h : s.Fellow config known s') : s.forget.Fellow config known s'.forget where
  sound := .of_empty h.sound.interface rfl rfl
  configured := h.configured
  setup := ⟨h.setup.config, h.setup.http, .of_empty h.setup.sound.interface rfl rfl⟩
  project := h.project
  agree := h.agree

theorem loginRequest (h : s.Fellow config known s') : s'.loginRequest = s.loginRequest := by
  have hchosen : s'.choose s.project = s' := by rw [← h.project]
  rw [← hchosen]
  exact h.setup.loginRequest s.project

/-- Granted the same login, they go on beside each other. -/
theorem relogged {answer : Request → Answer} {login : Login} (h : s.Fellow config known s')
    (hsteady : (s.relogged login).Steady answer login) :
    (s.relogged login).Beside answer answer config login known (s'.relogged login) := by
  have hchosen : s'.choose s.project = s' := by rw [← h.project]
  rw [← hchosen]
  exact h.setup.relogged_beside hsteady h.configured
    (congrArg answer (h.setup.loginRequest s.project)) h.agree

end Session.Fellow

namespace Step

variable {e : Extra} {answer : Request → Answer} {config : Config} {known : String → Prop}

/-- Two sessions of which the second has done without something optional,
whatever logins they hold. -/
def Following (e : Extra) (config : Config) (known : String → Prop) :
    Session → Unit → Session → Unit → Prop :=
  Chained (fun s _ s' _ => s.Fellow config known s') (Spared e)

theorem Trailing.following {login : Login} {s s' : Session} {w w' : Unit}
    (h : Trailing e answer config login known s w s' w') : Following e config known s w s' w' := by
  obtain ⟨t, v, hbeside, hspared⟩ := h
  exact ⟨t, v, .of_beside hbeside, hspared⟩

/-- **A login** is granted to both or to neither, and if it is, they are under it together. -/
theorem following_authorize (answer : Request → Answer) {s s' : Session} {w w' : Unit}
    (h : Following e config known s w s' w') :
    (authorize (.stateless answer) s' w').result = (authorize (.stateless answer) s w).result ∧
      Following e config known (authorize (.stateless answer) s w).session ()
        (authorize (.stateless answer) s' w').session () ∧
      ((authorize (.stateless answer) s w).result = .ok () → ∃ login,
        Trailing e answer config login known (authorize (.stateless answer) s w).session ()
          (authorize (.stateless answer) s' w').session ()) := by
  obtain ⟨t, v, hfellow, hspared⟩ := h
  obtain ⟨hresult, ⟨hsession, -⟩, -⟩ :=
    spared_authorize (d := .stateless answer) (e := e) t v s' w' hspared
  have halike : LoginAlike answer s t (authorize (.stateless answer) s w)
      (authorize (.stateless answer) t v) :=
    authorize_alike hfellow.sound hfellow.setup.config (congrArg answer hfellow.loginRequest)
  cases halike with
  | refused hleft hright hsession₁ hsession₂ =>
    refine ⟨by rw [← hresult.eq, hright, hleft], ⟨t.forget, (), ?_, ?_, rfl⟩, fun hok => ?_⟩
    · rw [hsession₁]
      exact hfellow.forget
    · rw [hsession, hsession₂]
    · rw [hleft] at hok
      cases hok
  | @granted login hleft hright hsession₁ hsession₂ _ hsteady =>
    rw [hsession₁] at hsteady
    have htrailing : Trailing e answer config login known
        (authorize (.stateless answer) s w).session ()
        (authorize (.stateless answer) s' w').session () := by
      refine ⟨t.relogged login, (), ?_, ?_, rfl⟩
      · rw [hsession₁]
        exact hfellow.relogged hsteady
      · rw [hsession, hsession₂]
    exact ⟨by rw [← hresult.eq, hright, hleft], htrailing.following, fun _ => ⟨login, htrailing⟩⟩

end Step

end StackWatch
