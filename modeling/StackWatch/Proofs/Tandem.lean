import StackWatch.Proofs.Steady

/-!
# Two sessions beside each other

A `Fork` is a pair of deployments that answer by the request alone, and alike but where one URL is
got. Two sessions are `Paired` if they may differ only in what they remember and in whether they
have read that URL. A step runs in `Tandem` if from paired sessions, the first of which is steady,
it comes to the same on both sides, as long as it does not get the URL on the first. Every query
does that whose own URLs are others (`Fork.tandem_perform`).

The query whose answer differs comes to no data on the second side, if it cannot read the answer
there, and leaves the sessions paired on whatever way it fails (`Fork.parted_perform`).
-/

namespace StackWatch

/-- Two deployments without a state, which differ in what they answer where one URL is got. -/
structure Fork where
  answer : Request → Answer
  answer' : Request → Answer
  /-- in wire form -/
  site : String
  agree : ∀ request, (request.method = .get → request.url ≠ site) → answer' request = answer request

namespace Fork

variable (f : Fork)

/-- The first deployment. -/
abbrev left : Deployment Unit := .stateless f.answer

/-- The second deployment. -/
abbrev right : Deployment Unit := .stateless f.answer'

/-- Two sessions that differ at most in what they remember, and in whether they have read the URL at
which the deployments differ. -/
structure Paired (config : Config) (s s' : Session) : Prop where
  sound : s.Sound
  sound' : s'.Sound
  configured : s.config = config
  stays : s.Stays f.site s'

variable {f} {config : Config} {login : Login} {s s' t t' : Session}

namespace Paired

theorem configured' (h : f.Paired config s s') : s'.config = config :=
  h.stays.config.trans h.configured

/-- What stays on either side stays a pair. -/
theorem stay (h : f.Paired config s s') (ht : t.Sound) (hstays : s.Stays f.site t) (ht' : t'.Sound)
    (hstays' : s'.Stays f.site t') : f.Paired config t t' where
  sound := ht
  sound' := ht'
  configured := hstays.config.trans h.configured
  stays := (hstays.symm.trans h.stays).trans hstays'

theorem endpoint? (h : f.Paired config s s') (c : Component) : s'.endpoint? c = s.endpoint? c :=
  h.stays.endpoint? h.sound h.sound' c

/-- Both deployments answer a login alike. -/
theorem login_answer (h : f.Paired config s s') :
    f.answer' s'.loginRequest = f.answer s.loginRequest := by
  rw [h.stays.loginRequest]
  exact f.agree _ fun hget => nomatch hget

theorem steady' (h : f.Paired config s s') (hs : s.Steady f.answer login) :
    s'.Steady f.answer' login := by
  obtain ⟨hholds, hgranted⟩ := h.stays.steady hs h.sound'
  rw [h.stays.loginRequest, ← h.login_answer, h.stays.loginRequest] at hgranted
  exact ⟨hholds, by rw [h.stays.loginRequest]; exact hgranted⟩

end Paired

/-- What a step that runs in tandem comes to on the two sides. -/
structure Beside {α : Type} (f : Fork) (config : Config) (login : Login) (P : α → Prop)
    (o o' : Outcome Unit α) : Prop where
  result : o'.result = o.result
  trace : o'.trace = o.trace
  paired : f.Paired config o.session o'.session
  steady : o.session.Steady f.answer login
  value : ∀ a, o.result = .ok a → P a

/-- A step that comes to the same on both sides, a value of which something holds or an error, as
long as the URL at which they differ is not got. -/
def TandemTo {α : Type} (f : Fork) (config : Config) (login : Login) (P : α → Prop)
    (m : Step Unit α) : Prop :=
  ∀ ⦃s s'⦄, f.Paired config s s' → s.Steady f.answer login → Avoids f.site (m f.left s ()).trace →
    f.Beside config login P (m f.left s ()) (m f.right s' ())

/-- A step that comes to the same on both sides, whatever that is. -/
abbrev Tandem {α : Type} (f : Fork) (config : Config) (login : Login) (m : Step Unit α) : Prop :=
  f.TandemTo config login (fun _ => True) m

open Step

variable {α β : Type} {P : α → Prop} {Q : β → Prop}

/-! ## Single steps -/

theorem tandem_pure {a : α} (h : P a) : f.TandemTo config login P (pure a) := fun _ _ hp hs _ =>
  ⟨rfl, rfl, hp, hs, fun _ ha => Except.ok.inj ha ▸ h⟩

theorem tandem_ofExcept {result : Except ApiError α} (h : ∀ a, result = .ok a → P a) :
    f.TandemTo config login P (ofExcept result) := fun _ _ hp hs _ => ⟨rfl, rfl, hp, hs, h⟩

theorem tandem_fail (e : ApiError) : f.TandemTo config login P (fail e : Step Unit α) :=
  fun _ _ hp hs _ => ⟨rfl, rfl, hp, hs, fun _ h => nomatch h⟩

theorem tandem_note (n : Notice) : f.Tandem config login (note n) := fun _ _ hp hs _ =>
  ⟨rfl, rfl, hp, hs, fun _ _ => trivial⟩

theorem TandemTo.catching {m : Step Unit α} (hm : f.TandemTo config login P m) :
    f.Tandem config login m.catching := by
  intro s s' hp hs havoids
  have hbeside := hm hp hs havoids
  exact ⟨congrArg Except.ok hbeside.result, hbeside.trace, hbeside.paired, hbeside.steady,
    fun _ _ => trivial⟩

/-- A sequence runs in tandem if its steps do. -/
theorem TandemTo.bind {m : Step Unit α} {g : α → Step Unit β} (hm : f.TandemTo config login P m)
    (hg : ∀ a, P a → f.TandemTo config login Q (g a)) : f.TandemTo config login Q (m >>= g) := by
  intro s s' hp hs havoids
  cases hr : (m f.left s ()).result with
  | error e =>
    rw [bind_of_error hr] at havoids ⊢
    have hbeside := hm hp hs havoids
    rw [bind_of_error (hbeside.result.trans hr)]
    exact ⟨rfl, hbeside.trace, hbeside.paired, hbeside.steady, fun _ h => nomatch h⟩
  | ok a =>
    rw [bind_of_ok hr] at havoids ⊢
    have hbeside := hm hp hs havoids.of_append.1
    have hrest := hg a (hbeside.value a hr) hbeside.paired hbeside.steady havoids.of_append.2
    rw [bind_of_ok (hbeside.result.trans hr)]
    refine ⟨hrest.result, ?_, hrest.paired, hrest.steady, hrest.value⟩
    dsimp only
    rw [hbeside.trace, hrest.trace]

/-- Another URL is answered alike. -/
theorem tandem_send (purpose : Purpose) (url : String) :
    f.Tandem config login (send purpose .get url none) := by
  intro s s' hp hs havoids
  cases hr : s.http.request? .get url none with
  | none =>
    have hr' : s'.http.request? .get url none = none := by rw [hp.stays.http, hr]
    rw [send_of_no_request hr, send_of_no_request hr']
    exact ⟨rfl, rfl, hp, hs, fun _ _ => trivial⟩
  | some request =>
    have hr' : s'.http.request? .get url none = some request := by rw [hp.stays.http, hr]
    rw [send_of_request hr] at havoids ⊢
    have hanswer : f.answer' request = f.answer request :=
      f.agree request (havoids request (List.mem_singleton_self request))
    rw [send_of_request hr']
    change Beside f config login _ _ ⟨HttpClient.receive url (f.answer' request), s', (),
      [.exchange purpose request (f.answer' request)]⟩
    rw [hanswer]
    exact ⟨rfl, rfl, hp, hs, fun _ _ => trivial⟩

/-- A login is answered alike, and as it was before. -/
theorem tandem_authorize : f.Tandem config login authorize := by
  intro s s' hp hs _
  have hs' := hp.steady' hs
  rw [hs.authorize, hs'.authorize, hp.login_answer, hp.stays.loginRequest]
  obtain ⟨hagain, hstays⟩ := hs.relogged f.site
  obtain ⟨hagain', hstays'⟩ := hs'.relogged f.site
  exact ⟨rfl, rfl, hp.stay hagain.holds.sound hstays hagain'.holds.sound hstays', hagain,
    fun _ _ => trivial⟩

/-! ## Stations -/

/-- A steady session has the endpoints of the login that it holds. -/
theorem Paired.endpoint?_eq (h : f.Paired config s s')
    (hs : s.Steady f.answer login) (c : Component) :
    s.endpoint? c = login.2.findUrl? c config.interface := by
  rw [hs.endpoint?, h.configured]

/-- Each side finds the same endpoint, or neither finds one. -/
theorem tandem_finds {c : Component} {value : Config → String → α}
    {remembering : Session → String → Session} {m : Step Unit α}
    (hm : Finds c value remembering m) {P : α → Prop}
    (hP : ∀ {endpoint}, login.2.findUrl? c config.interface = some endpoint →
      P (value config endpoint)) : f.TandemTo config login P m := by
  intro s s' hp hs _
  rw [hm.apply hp.sound, hm.apply hp.sound', hp.endpoint? c, hp.configured, hp.configured']
  cases hendpoint : s.endpoint? c with
  | none => exact ⟨rfl, rfl, hp, hs, fun _ h => nomatch h⟩
  | some endpoint =>
    have hstays : ∀ {s : Session}, s.Stays f.site (remembering s endpoint) := fun {s} =>
      .of_sameLogin (hm.same s endpoint) fun _ _ => by rw [hm.ledger]
    have hfound := hm.sound hp.sound hendpoint
    have hfound' := hm.sound hp.sound' ((hp.endpoint? c).trans hendpoint)
    refine ⟨rfl, rfl, hp.stay hfound hstays hfound' hstays, hstays.steady hs hfound,
      fun a h => ?_⟩
    obtain rfl := Except.ok.inj h
    exact hP ((hp.endpoint?_eq hs c).symm.trans hendpoint)

theorem tandem_clientOf (c : Component) :
    f.TandemTo config login
      (fun client => login.2.findUrl? c config.interface = some client.endpoint) (clientOf c) :=
  tandem_finds (finds_clientOf c) id

/-- Both sides have read another URL, or neither has. -/
theorem tandem_wasRead {url : String} (hurl : Url.wire url ≠ f.site) :
    f.Tandem config login (wasRead url) := by
  intro s s' hp hs _
  have hread : s'.ledger.contains url = s.ledger.contains url := by
    rw [Bool.eq_iff_iff, Ledger.contains_iff, Ledger.contains_iff]
    exact hp.stays.ledger url hurl
  exact ⟨congrArg Except.ok hread, rfl, hp, hs, fun _ _ => trivial⟩

theorem tandem_enter (url : String) : f.Tandem config login (enter url) := by
  intro s s' hp hs _
  refine ⟨rfl, rfl, ⟨hp.sound.withLedger _, hp.sound'.withLedger _, hp.configured, ?_⟩, ?_,
    fun _ _ => trivial⟩
  · refine { hp.stays with ledger := fun url' hurl => ?_ }
    change url' ∈ (s'.ledger.insert url).urls ↔ url' ∈ (s.ledger.insert url).urls
    rw [Ledger.mem_urls_insert, Ledger.mem_urls_insert, hp.stays.ledger url' hurl]
  · exact ⟨hs.holds.of_sameLogin (hs.holds.sound.withLedger _)
      ((Session.SameLogin.refl _).withLedger _), hs.granted⟩

theorem tandem_fetch (client : Client) (r : Resource) (read : Response → Except ApiError α) :
    f.Tandem config login (fetch client r read) :=
  (tandem_send _ _).bind fun _ _ => tandem_ofExcept fun _ _ => trivial

/-- Reading a resource that stands at another URL. -/
theorem tandem_reading {r : Resource} {read : Client → Step Unit α}
    (hown : ∀ endpoint, login.2.findUrl? r.component config.interface = some endpoint →
      Url.wire (r.url endpoint) ≠ f.site)
    (hread : ∀ client, f.Tandem config login (read client)) :
    f.Tandem config login (reading r read) := by
  refine (tandem_clientOf r.component).bind fun client hclient => ?_
  split
  · refine (tandem_wasRead (hown _ hclient)).bind fun before _ => ?_
    split
    · exact tandem_pure trivial
    · refine (hread client).bind fun value _ => ?_
      exact (tandem_enter _).bind fun _ _ => tandem_pure trivial
  · exact (tandem_note _).bind fun _ _ => tandem_pure trivial

/-! ## Probes -/

theorem tandem_timed (c : Component) {url : String} (hurl : Url.wire url ≠ f.site) :
    f.Tandem config login (timed c url) := by
  refine (tandem_wasRead hurl).bind fun before _ => ?_
  split
  · exact tandem_pure trivial
  · refine (tandem_send _ _).bind fun response _ => ?_
    exact (tandem_enter _).bind fun _ _ => tandem_pure trivial

/-- A probe of another URL runs in tandem. -/
theorem tandem_probe (p : Probe)
    (hown : ∀ url ∈ (Operation.probe p).urls config login.2, Url.wire url ≠ f.site) :
    f.Tandem config login (probe p) := by
  have hurl : ∀ {endpoint}, login.2.findUrl? p.component config.interface = some endpoint →
      Url.wire (p.url endpoint) ≠ f.site := by
    intro endpoint hendpoint
    refine hown _ ?_
    rw [Operation.urls, hendpoint]
    exact List.mem_singleton_self _
  cases p with
  | apiRoot c =>
    exact (tandem_finds (finds_endpointOf c) id).bind fun endpoint hendpoint =>
      tandem_timed c (hurl hendpoint)
  | blockStorageRoot =>
    exact (tandem_clientOf .blockStorage).bind fun client hclient => tandem_timed _ (hurl hclient)

/-! ## Attempts -/

theorem tandem_limitsAt {client : Client} {r : Resource} (member : String)
    (hown : Url.wire (r.url client.endpoint) ≠ f.site) :
    f.Tandem config login (limitsAt client r member) := by
  refine (tandem_wasRead hown).bind fun before _ => ?_
  split
  · exact tandem_pure trivial
  · refine (tandem_fetch client r _).bind fun items _ => ?_
    exact (tandem_ofExcept fun _ _ => trivial).bind fun limits (_ : True) => tandem_pure trivial

theorem tandem_enterIf (client : Client) (r : Resource) (limits : Option (KeyMap Entity)) :
    f.Tandem config login (enterIf client r limits) := by
  cases limits with
  | none => exact tandem_pure trivial
  | some limits => exact tandem_enter _

theorem tandem_joinLimits (client : Client) (registered limits : Option (KeyMap Entity)) :
    f.Tandem config login (joinLimits client registered limits) := by
  refine (tandem_enterIf client _ registered).bind fun _ _ => ?_
  refine (tandem_enterIf client _ limits).bind fun _ _ => ?_
  split
  · exact tandem_pure trivial
  · exact tandem_pure trivial

theorem tandem_flavorOf (client : Client) (flavor : Json) :
    f.Tandem config login (flavorOf client flavor) := by
  unfold flavorOf
  split
  · exact (tandem_fetch client _ _).bind fun _ _ => tandem_pure trivial
  · exact tandem_pure trivial

theorem tandem_serverEntity (client : Client) (server : Json) :
    f.Tandem config login (serverEntity client server) := by
  unfold serverEntity
  split
  · exact (tandem_flavorOf client _).bind fun _ _ => tandem_pure trivial
  · exact tandem_pure trivial

/-- By induction on the servers. -/
theorem tandem_serverEntries (client : Client) (url : String) : ∀ servers : List Json,
    f.Tandem config login (serverEntries client url servers)
  | [] => tandem_pure trivial
  | server :: rest => by
    refine (tandem_serverEntity client server).bind fun entity _ => ?_
    refine (tandem_ofExcept fun _ _ => trivial).bind fun id (_ : True) => ?_
    exact (tandem_serverEntries client url rest).bind fun entries _ => tandem_pure trivial

theorem tandem_authProjects : f.Tandem config login authProjects := by
  intro s s' hp hs havoids
  rw [authProjects, bind_quiet (m := get) rfl, hp.configured] at havoids ⊢
  rw [bind_quiet (m := get) rfl, hp.configured']
  refine ((tandem_send .projectList config.projectsUrl).bind fun response _ => ?_) hp hs havoids
  refine (tandem_ofExcept fun _ _ => trivial).bind fun items (_ : True) => ?_
  exact (tandem_ofExcept fun _ _ => trivial).bind fun projects (_ : True) => tandem_pure trivial

/-- An attempt at a query that has other URLs runs in tandem. -/
theorem tandem_attempt {shape : Shape} (q : Query shape)
    (hown : ∀ url ∈ (Operation.ask q).urls config login.2, Url.wire url ≠ f.site) :
    f.Tandem config login q.attempt := by
  have hurl : ∀ {r : Resource}, r ∈ q.collections → ∀ endpoint,
      login.2.findUrl? r.component config.interface = some endpoint →
      Url.wire (r.url endpoint) ≠ f.site := fun hr endpoint hendpoint =>
    hown _ (Operation.mem_urls hr hendpoint)
  cases q with
  | authProjects => exact tandem_authProjects
  | listing l =>
    refine tandem_reading (hurl (List.mem_singleton_self _)) fun client => ?_
    exact (tandem_fetch client _ _).bind fun items _ => tandem_ofExcept fun _ _ => trivial
  | identityLimits =>
    refine (tandem_clientOf .identity).bind fun client hclient => ?_
    have hregistered := hurl (r := .registeredLimits) (List.mem_cons_self ..) _ hclient
    have hlimits := hurl (r := .limits) (by simp [Query.collections]) _ hclient
    refine (tandem_limitsAt _ hregistered).bind fun registered _ => ?_
    refine (tandem_limitsAt _ hlimits).bind fun limits _ => ?_
    exact tandem_joinLimits client registered limits
  | quotaSet project =>
    refine tandem_reading (hurl (List.mem_singleton_self _)) fun client => ?_
    refine (tandem_fetch client _ _).bind fun object _ => ?_
    exact (tandem_ofExcept fun _ _ => trivial).bind fun id (_ : True) => tandem_pure trivial
  | servers project =>
    refine tandem_reading (hurl (List.mem_singleton_self _)) fun client => ?_
    refine (tandem_fetch client _ _).bind fun items _ => ?_
    exact (tandem_serverEntries client _ items).bind fun entries _ => tandem_pure trivial
  | networkQuotas project | computeLimits | loadBalancerStatistics _ | listenerStatistics _ =>
    refine tandem_reading (hurl (List.mem_singleton_self _)) fun client => ?_
    exact (tandem_fetch client _ _).bind fun object _ => tandem_pure trivial

/-- A query runs in tandem if its attempts do. -/
theorem Tandem.withReauth (title : String) {attempt : Step Unit (Option α)}
    (hattempt : f.Tandem config login attempt) :
    f.Tandem config login (withReauth title attempt) := by
  refine hattempt.catching.bind fun result _ => ?_
  cases result with
  | ok value => exact tandem_pure trivial
  | error e =>
    dsimp only
    split
    · rw [mark_authorize]
      refine tandem_authorize.bind fun _ _ => hattempt.catching.bind fun result _ => ?_
      cases result with
      | ok value => exact tandem_pure trivial
      | error e' => exact (tandem_note _).bind fun _ _ => tandem_pure trivial
    · split
      · exact (tandem_note _).bind fun _ _ => tandem_pure trivial
      · exact tandem_fail e

/-- **A query that has other URLs** comes to the same on both sides, if it does not get the one
at which they differ. -/
theorem tandem_perform {shape : Shape} (q : Query shape)
    (hown : ∀ url ∈ (Operation.ask q).urls config login.2, Url.wire url ≠ f.site) :
    f.Tandem config login q.perform :=
  (tandem_attempt q hown).withReauth q.title

/-! ## Logins -/

theorem Paired.forget (h : f.Paired config s s') : f.Paired config s.forget s'.forget where
  sound := (Session.holds_forget h.sound).sound
  sound' := (Session.holds_forget h.sound').sound
  configured := h.configured
  stays := h.stays.forget

theorem Paired.install (h : f.Paired config s s') (login : Login) :
    f.Paired config (s.relogged login) (s'.relogged login) where
  sound := .of_empty h.sound.interface rfl rfl
  sound' := .of_empty h.sound'.interface rfl rfl
  configured := h.configured
  stays := h.stays.relogged login

/-- **A login** comes to the same on both sides, and what it grants would be granted again. -/
theorem paired_authorize (h : f.Paired config s s') :
    (authorize f.right s' ()).result = (authorize f.left s ()).result ∧
      f.Paired config (authorize f.left s ()).session (authorize f.right s' ()).session ∧
      ((authorize f.left s ()).result = .ok () → ∃ login,
        Login.ofAnswer config.tokenUrl (f.answer s.loginRequest) = .ok login ∧
        (authorize f.left s ()).session.Steady f.answer login) := by
  cases authorize_alike h.sound h.stays.config h.login_answer with
  | refused hresult hresult' hsession hsession' =>
    rw [hresult, hresult', hsession, hsession']
    exact ⟨rfl, h.forget, nofun⟩
  | granted hresult hresult' hsession hsession' hlogin hsteady =>
    refine ⟨hresult'.trans hresult.symm, ?_, fun _ => ⟨_, h.configured ▸ hlogin, hsteady⟩⟩
    rw [hsession, hsession']
    exact h.install _

/-! ## Leaves of which one side cannot read the answer -/

/-- What a leaf comes to whose URL is the one at which the deployments differ: there may be data on
the first side, and there are none on the second. -/
structure Parted {α : Type} (f : Fork) (config : Config) (login : Login) (u : String) (s : Session)
    (o o' : Outcome Unit (Option α)) : Prop where
  paired : f.Paired config o.session o'.session
  steady : o.session.Steady f.answer login
  result : Yields (fun _ => True) o.result
  result' : Yields (· = none) o'.result
  /-- data are brought once, when the URL is read -/
  read : ∀ value, o.result = .ok (some value) → u ∉ s.ledger.urls ∧ u ∈ o.session.ledger.urls

/-- A leaf reads the URL at which the deployments differ, and cannot read what the
second one answers there. -/
structure Blinds {shape : Shape} (f : Fork) (config : Config) (login : Login) (q : Query shape)
    (u : String) : Prop where
  leaf : q.isLeaf = true
  own : u ∈ (Operation.ask q).urls config login.2
  wire : Url.wire u = f.site
  fails : ∀ request : Request, request.method = .get → request.url = f.site →
    ¬ q.IsReadable (f.answer' request)

/-- **A leaf whose answer cannot be read** on the second side. -/
theorem parted_perform {shape : Shape} {q : Query shape} {u : String}
    (h : f.Blinds config login q u) (hp : f.Paired config s s') (hs : s.Steady f.answer login) :
    f.Parted config login u s (q.perform f.left s ()) (q.perform f.right s' ()) := by
  have hs' := hp.steady' hs
  obtain ⟨r, hr, hendpoint⟩ : ∃ r ∈ q.collections,
      ∃ endpoint, s.endpoint? r.component = some endpoint := by
    obtain ⟨r, hr, hmem⟩ := List.mem_flatMap.1 h.own
    obtain ⟨endpoint, hendpoint, -⟩ := List.mem_map.1 hmem
    exact ⟨r, hr, endpoint, (hp.endpoint?_eq hs _).trans (Option.mem_toList.1 hendpoint)⟩
  obtain ⟨endpoint, hendpoint⟩ := hendpoint
  have hq := Query.component?_of_mem hr
  have hurls : ∀ url ∈ (Operation.ask q).urls config login.2, Url.wire url = f.site :=
    fun url hurl => by
    rw [Query.eq_of_mem_urls h.leaf hurl h.own, h.wire]
  obtain ⟨hsteady, hstays⟩ := Query.perform_stays hs (hp.configured.symm ▸ hurls)
  obtain ⟨hsteady', hstays'⟩ := Query.perform_stays hs' (hp.configured'.symm ▸ hurls)
  refine ⟨hp.stay hsteady.holds.sound hstays hsteady'.holds.sound hstays', hsteady, ?_, ?_,
    fun value hvalue => ?_⟩
  · exact (Query.perform_yields hs.holds hq hendpoint).mono fun _ _ => trivial
  · have hyields := Query.perform_yields (d := f.right) (w := ()) hs'.holds hq
      ((hp.endpoint? _).trans hendpoint)
    cases hresult : (q.perform f.right s' ()).result with
    | error e =>
      rw [hresult] at hyields
      exact hyields
    | ok value =>
      cases value with
      | none => rfl
      | some value =>
        -- data would have been read in an answer that cannot be read
        obtain ⟨-, -, request, hget, hurl, hreadable⟩ :=
          Query.perform_of_isLeaf h.leaf hs' (hp.configured'.symm ▸ h.own) hresult
        exact absurd hreadable (h.fails request hget (hurl.trans h.wire))
  · obtain ⟨hunread, hread, -⟩ :=
      Query.perform_of_isLeaf h.leaf hs (hp.configured.symm ▸ h.own) hvalue
    exact ⟨hunread, hread⟩

end Fork

end StackWatch
