import StackWatch.Proofs.Attempt

/-!
# Two deployments with the same pages

A `Mirror` is a pair of deployments that show the same page to whoever asks for a URL with a live
token, except that the second may refuse. Two sessions are `Aligned` when the same step means the
same to both: one configuration, one catalog and one ledger, each with its own token, and each
remembering what it likes. From aligned sessions every attempt at a query comes to the same on both
sides and leaves them aligned, or it is refused on the second (`follows_attempt`). It holds of an
attempt because it holds of its requests: what comes before a refused one is lost, and what comes
after it is never reached.
-/

namespace StackWatch

/-- An answer by which a token is refused. -/
def Answer.IsDenied (answer : Answer) : Prop :=
  ∃ subjectToken body elapsed, answer = .response 401 subjectToken body elapsed

/-- A result by which a token is refused. -/
def IsDenied {α : Type} (result : Except ApiError α) : Prop :=
  ∃ url, result = .error (.http 401 url)

/-- Two deployments that show the same pages to the tokens that are live. The second may deny them
where `mayDeny` holds. -/
structure Mirror {σ σ' : Type} (page : String → Answer) (d : Deployment σ)
    (live : σ → String → Prop) (d' : Deployment σ') (live' : σ' → String → Prop) (mayDeny : Prop) :
    Prop where
  shows : ∀ {request w token}, request.method = .get → request.token = some token → live w token →
    (d request w).1 = page request.url ∧ live (d request w).2 token
  shows' : ∀ {request w token}, request.method = .get → request.token = some token →
    live' w token → live' (d' request w).2 token ∧
      ((d' request w).1 = page request.url ∨ mayDeny ∧ (d' request w).1.IsDenied)

namespace Mirror

variable {σ σ' α β : Type} {page : String → Answer} {d : Deployment σ} {d' : Deployment σ'}
  {live : σ → String → Prop} {live' : σ' → String → Prop} {mayDeny : Prop}
  (m : Mirror page d live d' live' mayDeny)

/-- Two sessions to which the same step means the same. -/
structure Aligned (_m : Mirror page d live d' live' mayDeny) (s : Session) (w : σ) (s' : Session)
    (w' : σ') : Prop where
  sound : s.Sound
  sound' : s'.Sound
  config : s'.config = s.config
  catalog : s'.resolver.catalog = s.resolver.catalog
  ledger : s'.ledger = s.ledger
  token : ∃ token, s.http.token = some token ∧ HttpClient.isHeaderValue token = true ∧
    live w token
  token' : ∃ token, s'.http.token = some token ∧ HttpClient.isHeaderValue token = true ∧
    live' w' token

/-- A step that comes to the same on both sides and keeps them aligned, or is
refused on the second. -/
def Follows (step : Step σ α) (step' : Step σ' α) : Prop :=
  ∀ ⦃s w s' w'⦄, m.Aligned s w s' w' →
    (step' d' s' w').result = (step d s w).result ∧
      m.Aligned (step d s w).session (step d s w).state
        (step' d' s' w').session (step' d' s' w').state ∨
    mayDeny ∧ IsDenied (step' d' s' w').result

variable {m} {s s' : Session} {w : σ} {w' : σ'}

/-- Aligned sessions find a component at the same place. -/
theorem Aligned.endpoint? (h : m.Aligned s w s' w') (c : Component) :
    s'.endpoint? c = s.endpoint? c := by
  rw [Session.endpoint?, Session.endpoint?, h.sound.interface, h.sound'.interface,
    h.config, h.catalog]

/-! ## Single steps -/

theorem follows_pure (a : α) : m.Follows (pure a : Step σ α) (pure a : Step σ' α) :=
  fun _ _ _ _ h => .inl ⟨rfl, h⟩

theorem follows_ofExcept (result : Except ApiError α) :
    m.Follows (Step.ofExcept result) (Step.ofExcept result) :=
  fun _ _ _ _ h => .inl ⟨rfl, h⟩

theorem follows_note (n : Notice) : m.Follows (Step.note n) (Step.note n) :=
  fun _ _ _ _ h => .inl ⟨rfl, h⟩

/-- A sequence follows step by step: if the first is refused, so is the whole. -/
theorem Follows.bind {step : Step σ α} {step' : Step σ' α} {f : α → Step σ β} {f' : α → Step σ' β}
    (hstep : m.Follows step step') (hf : ∀ a, m.Follows (f a) (f' a)) :
    m.Follows (step >>= f) (step' >>= f') := by
  intro s w s' w' h
  rcases hstep h with ⟨hresult, haligned⟩ | ⟨hmay, url, hdenied⟩
  · cases hr : (step d s w).result with
    | error e =>
      rw [hr] at hresult
      rw [Step.bind_of_error hr, Step.bind_of_error hresult]
      exact .inl ⟨rfl, haligned⟩
    | ok a =>
      rw [hr] at hresult
      rw [Step.bind_of_ok hr, Step.bind_of_ok hresult]
      exact hf a haligned
  · -- what comes after a refusal is never reached
    right
    rw [Step.bind_of_error hdenied]
    exact ⟨hmay, url, rfl⟩

theorem all_isHeaderValue {token : String} (htoken : s.http.token = some token)
    (hvalue : HttpClient.isHeaderValue token = true) :
    s.http.token.all HttpClient.isHeaderValue = true := by
  rw [htoken, Option.all_some, hvalue]

/-- To ask for a URL: the page of the URL is what both sides see, unless the second is refused. -/
theorem follows_send (purpose : Purpose) (url : String) :
    m.Follows (Step.send purpose .get url none) (Step.send purpose .get url none) := by
  intro s w s' w' h
  obtain ⟨token, htoken, hvalue, hlive⟩ := h.token
  obtain ⟨token', htoken', hvalue', hlive'⟩ := h.token'
  by_cases hurl : Url.isRequestable url = true
  · have hrequest : s.http.request? .get url none = some (s.getRequest url) :=
      HttpClient.request?_of_requestable hurl (all_isHeaderValue htoken hvalue) .get none
    have hrequest' : s'.http.request? .get url none = some (s'.getRequest url) :=
      HttpClient.request?_of_requestable hurl (all_isHeaderValue htoken' hvalue') .get none
    rw [Step.send_of_request hrequest, Step.send_of_request hrequest']
    obtain ⟨hpage, hkept⟩ : (d (s.getRequest url) w).1 = page (Url.wire url) ∧
        live (d (s.getRequest url) w).2 token := m.shows rfl htoken hlive
    obtain ⟨hkept', hpage' | ⟨hmay, hdenied⟩⟩ : live' (d' (s'.getRequest url) w').2 token' ∧
        ((d' (s'.getRequest url) w').1 = page (Url.wire url) ∨
          mayDeny ∧ (d' (s'.getRequest url) w').1.IsDenied) := m.shows' rfl htoken' hlive'
    · refine .inl ⟨?_, ?_⟩
      · dsimp only
        rw [hpage, hpage']
      · exact
          { h with
            token := ⟨token, htoken, hvalue, hkept⟩
            token' := ⟨token', htoken', hvalue', hkept'⟩ }
    · -- only the second side is denied, and its request fails with the refusal
      obtain ⟨subjectToken, body, elapsed, hanswer⟩ := hdenied
      refine .inr ⟨hmay, url, ?_⟩
      dsimp only
      rw [hanswer]
      rfl
  · rw [Step.send_of_no_request (HttpClient.request?_of_not_requestable hurl .get none),
      Step.send_of_no_request (HttpClient.request?_of_not_requestable hurl .get none)]
    exact .inl ⟨rfl, h⟩

/-! ## Stations -/

/-- Each side gets the client of its own catalog, which is the same. -/
theorem follows_clientOf (c : Component) : m.Follows (Step.clientOf c) (Step.clientOf c) := by
  intro s w s' w' h
  rw [Step.clientOf_apply h.sound, Step.clientOf_apply h.sound', h.endpoint? c, h.config]
  cases hendpoint : s.endpoint? c with
  | none => exact .inl ⟨rfl, h⟩
  | some endpoint =>
    have hendpoint' : s'.endpoint? c = some endpoint := (h.endpoint? c).trans hendpoint
    refine .inl ⟨rfl, ?_⟩
    exact
      { sound := h.sound.withClient hendpoint
        sound' := h.sound'.withClient hendpoint'
        config := h.config
        catalog := h.catalog
        ledger := h.ledger
        token := h.token
        token' := h.token' }

theorem follows_wasRead (url : String) : m.Follows (Step.wasRead url) (Step.wasRead url) := by
  intro s w s' w' h
  refine .inl ⟨?_, h⟩
  change Except.ok (s'.ledger.contains url) = .ok (s.ledger.contains url)
  rw [h.ledger]

theorem follows_enter (url : String) : m.Follows (Step.enter url) (Step.enter url) := by
  intro s w s' w' h
  have hledger : s'.ledger.insert url = s.ledger.insert url := by rw [h.ledger]
  exact .inl ⟨rfl, ⟨h.sound.withLedger _, h.sound'.withLedger _, h.config, h.catalog, hledger,
    h.token, h.token'⟩⟩

theorem follows_fetch (client : Client) (r : Resource) (read : Response → Except ApiError α) :
    m.Follows (Step.fetch client r read) (Step.fetch client r read) :=
  (follows_send _ _).bind fun _ => follows_ofExcept _

/-- Reading follows if what reads does. -/
theorem follows_reading (r : Resource) {read : Client → Step σ α} {read' : Client → Step σ' α}
    (hread : ∀ client, m.Follows (read client) (read' client)) :
    m.Follows (Step.reading r read) (Step.reading r read') := by
  unfold Step.reading
  refine (follows_clientOf _).bind fun client => ?_
  split
  · refine (follows_wasRead _).bind fun before => ?_
    split
    · exact follows_pure none
    · exact (hread client).bind fun value => (follows_enter _).bind fun _ => follows_pure _
  · exact (follows_note _).bind fun _ => follows_pure none

/-! ## Attempts -/

theorem follows_limitsAt (client : Client) (r : Resource) (member : String) :
    m.Follows (Step.limitsAt client r member) (Step.limitsAt client r member) := by
  refine (follows_wasRead _).bind fun before => ?_
  split
  · exact follows_pure none
  · exact (follows_fetch client r _).bind fun items => (follows_ofExcept _).bind fun limits =>
      follows_pure _

theorem follows_enterIf (client : Client) (r : Resource) (limits : Option (KeyMap Entity)) :
    m.Follows (Step.enterIf client r limits) (Step.enterIf client r limits) := by
  cases limits with
  | none => exact follows_pure ()
  | some limits => exact follows_enter _

theorem follows_joinLimits (client : Client) (registered limits : Option (KeyMap Entity)) :
    m.Follows (Step.joinLimits client registered limits)
      (Step.joinLimits client registered limits) := by
  refine (follows_enterIf client _ registered).bind fun _ => ?_
  refine (follows_enterIf client _ limits).bind fun _ => ?_
  split
  · exact follows_pure none
  · exact follows_pure _

theorem follows_limitsBy (client : Client) :
    m.Follows (Step.limitsBy client) (Step.limitsBy client) :=
  (follows_limitsAt client _ _).bind fun registered =>
    (follows_limitsAt client _ _).bind fun limits => follows_joinLimits client registered limits

theorem follows_flavorOf (client : Client) (flavor : Json) :
    m.Follows (Step.flavorOf client flavor) (Step.flavorOf client flavor) := by
  unfold Step.flavorOf
  split
  · exact (follows_fetch client _ _).bind fun detail => follows_pure _
  · exact follows_pure _

theorem follows_serverEntity (client : Client) (server : Json) :
    m.Follows (Step.serverEntity client server) (Step.serverEntity client server) := by
  unfold Step.serverEntity
  split
  · exact (follows_flavorOf client _).bind fun flavor => follows_pure _
  · exact follows_pure _

/-- By induction on the servers. -/
theorem follows_serverEntries (client : Client) (url : String) : ∀ servers : List Json,
    m.Follows (Step.serverEntries client url servers) (Step.serverEntries client url servers)
  | [] => follows_pure []
  | server :: rest => by
    refine (follows_serverEntity client server).bind fun entity => ?_
    refine (follows_ofExcept _).bind fun id => ?_
    exact (follows_serverEntries client url rest).bind fun entries => follows_pure _

theorem follows_authProjects : m.Follows Step.authProjects Step.authProjects := by
  intro s w s' w' h
  rw [Step.authProjects, Step.authProjects, Step.bind_quiet (m := Step.get) rfl,
    Step.bind_quiet (m := Step.get) rfl, h.config]
  exact ((follows_send .projectList s.config.projectsUrl).bind fun response =>
    (follows_ofExcept _).bind fun items => (follows_ofExcept _).bind fun projects =>
      follows_pure _) h

/-- **An attempt follows.** From aligned sessions it comes to the same on both sides, or is
refused on the second. -/
theorem follows_attempt {shape : Shape} (q : Query shape) :
    m.Follows (q.attempt : Step σ _) (q.attempt : Step σ' _) := by
  cases q with
  | authProjects => exact follows_authProjects
  | listing l =>
    exact follows_reading _ fun client => (follows_fetch client _ _).bind fun items =>
      follows_ofExcept _
  | identityLimits => exact (follows_clientOf _).bind fun client => follows_limitsBy client
  | quotaSet project =>
    exact follows_reading _ fun client => (follows_fetch client _ _).bind fun object =>
      (follows_ofExcept _).bind fun id => follows_pure _
  | servers project =>
    exact follows_reading _ fun client => (follows_fetch client _ _).bind fun items =>
      (follows_serverEntries client _ items).bind fun entries => follows_pure _
  | networkQuotas project | computeLimits | loadBalancerStatistics _ | listenerStatistics _ =>
    exact follows_reading _ fun client => (follows_fetch client _ _).bind fun object =>
      follows_pure _

end Mirror

end StackWatch
