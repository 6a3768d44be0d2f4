import StackWatch.Proofs.Policy

/-!
# What is entered in the ledger

A URL is entered when the whole of what an operation reads is there, and never before: an
operation that brings no data leaves the ledger as it was, at whatever request it failed
and however many logins it took. One that brings data has entered the URLs of its
collections, those that its successful attempt asked for, in that order and without the
ones that stood there already. `Bookkeeping` puts this together with the converse: what
stands in the ledger is not asked for again.
-/

namespace StackWatch

/-! ## Entering several URLs -/

/-- Entering distinct URLs in turn appends those that are new. By induction on the URLs: the rest
does not hold the one just entered. -/
theorem Ledger.urls_foldl_insert : ∀ {urls : List String} {l : Ledger}, urls.Nodup →
    (urls.foldl insert l).urls = l.urls ++ urls.filter fun url => url ∉ l.urls
  | [], l, _ => (List.append_nil l.urls).symm
  | url :: rest, l, h => by
    obtain ⟨hurl, hrest⟩ := List.nodup_cons.1 h
    rw [List.foldl_cons, urls_foldl_insert hrest]
    by_cases hmem : url ∈ l.urls
    · rw [insert_of_mem hmem, List.filter_cons_of_neg (by simpa using hmem)]
    · have hfilter : (rest.filter fun u => u ∉ (l.insert url).urls) =
          rest.filter fun u => u ∉ l.urls := by
        refine List.filter_congr fun u hu => ?_
        have hne : u ≠ url := fun heq => hurl (heq ▸ hu)
        simp [mem_urls_insert, hne]
      rw [hfilter, urls_insert_of_not_mem hmem, List.filter_cons_of_pos (by simpa using hmem),
        List.append_assoc]
      rfl

namespace Query

variable {shape : Shape}

/-- The collections of a query stand at different URLs. -/
theorem nodup_urls (q : Query shape) (endpoint : String) :
    (q.collections.map (·.url endpoint)).Nodup := by
  cases q with
  | identityLimits =>
    have hne : Resource.registeredLimits.url endpoint ≠ Resource.limits.url endpoint := by
      rw [Resource.url, Resource.url, Ne, String.append_right_inj]
      decide +kernel
    simpa [collections] using hne
  | _ => simp [collections]

/-- Whether a query asks for its collections only if they are unread: all do but the list
of the user's projects, which enters nothing, and the members of a group, which are read
again on every demand. -/
def isDeduplicated : Query shape → Bool
  | authProjects | listing (.groupUsers _) => false
  | _ => true

theorem isOnce_of_isDeduplicated {q : Query shape} (h : q.isDeduplicated = true) {r : Resource}
    (hr : r ∈ q.collections) : r.isOnce = true := by
  cases q with
  | authProjects => cases hr
  | listing l =>
    obtain rfl := List.mem_singleton.1 hr
    cases l <;> first | rfl | cases h
  | identityLimits =>
    simp only [collections, List.mem_cons, List.not_mem_nil, or_false] at hr
    rcases hr with rfl | rfl <;> rfl
  | _ =>
    obtain rfl := List.mem_singleton.1 hr
    rfl

end Query

/-! ## Operations that enter nothing -/

/-- Whether an operation may enter anything. -/
def Operation.isReading : Operation → Bool
  | .probe _ => true
  | .ask q => q.component?.isSome
  | _ => false

/-- Whether a reply brings data. -/
def Reply.hasData : Reply → Bool
  | .elapsed milliseconds => milliseconds.isSome
  | .data value => value.isSome
  | _ => false

namespace Step

variable {σ : Type} {d : Deployment σ} {s : Session} {w : σ}

/-- A login leaves the ledger. -/
theorem authorize_ledger : (authorize d s w).session.ledger = s.ledger := by
  rw [authorize_apply]
  split
  · dsimp only
    split <;> rfl
  · rfl

/-- A login sends nothing but requests for a token. -/
theorem authorize_posts : ∀ request ∈ (authorize d s w).requests, request.method = .post := by
  intro request hrequest
  rw [Outcome.requests, authorize_trace] at hrequest
  split at hrequest
  · obtain rfl := List.mem_singleton.1 hrequest
    rfl
  · cases hrequest

theorem endpointOf_ledger (hs : s.Sound) (c : Component) :
    (endpointOf c d s w).session.ledger = s.ledger := by
  rw [endpointOf_apply hs]
  cases s.endpoint? c <;> rfl

end Step

/-! ## Queries -/

namespace Query

open Step

variable {σ : Type} {shape : Shape} {d : Deployment σ} {s : Session} {w : σ} {held : Option Login}

/-- The session from which the second attempt at a query starts, if there is one. -/
def restart (q : Query shape) (d : Deployment σ) (s : Session) (w : σ) : Session :=
  (authorize d (q.attempt d s w).session (q.attempt d s w).state).session

/-- The attempt by which a query comes to its data, with the session from which it starts: the
first, or the second after a refusal and a login. -/
inductive Succeeds (q : Query shape) (d : Deployment σ) (s : Session) (w : σ)
    (value : shape.Value) : Session → Outcome σ (Option shape.Value) → Prop where
  | first (h : (q.attempt d s w).result = .ok (some value)) :
      Succeeds q d s w value s (q.attempt d s w)
  | second {state : σ} (hrefused : IsRefused (q.attempt d s w).result)
      (hlogin : (authorize d (q.attempt d s w).session (q.attempt d s w).state).result = .ok ())
      (hstate : (authorize d (q.attempt d s w).session (q.attempt d s w).state).state = state)
      (h : (q.attempt d (q.restart d s w) state).result = .ok (some value)) :
      Succeeds q d s w value (q.restart d s w) (q.attempt d (q.restart d s w) state)

/-- The second attempt finds everything in order. -/
theorem holds_restart (h : s.Holds held) (q : Query shape) :
    ∃ held', (q.restart d s w).Holds held' := by
  obtain ⟨hsound, hsame⟩ := q.attempt_keeps (d := d) (w := w) h.sound
  exact ⟨_, (tracks_login (.ask q)).holds (h.of_sameLogin hsound hsame)⟩

/-- What a first attempt without data left in the ledger is what the second one finds there. -/
theorem restart_ledger (h : s.Holds held) {q : Query shape}
    (hfirst : ∀ value, (q.attempt d s w).result ≠ .ok (some value)) :
    (q.restart d s w).ledger = s.ledger :=
  authorize_ledger.trans (q.attempt_ledger_of_no_data h.sound hfirst)

/-- **A query with data** came to it by one attempt, before which nothing was entered. -/
theorem perform_of_data (h : s.Holds held) {q : Query shape} {value : shape.Value}
    (hresult : (q.perform d s w).result = .ok (some value)) :
    ∃ start o, q.Succeeds d s w value start o ∧ start.Sound ∧ start.ledger = s.ledger ∧
      (q.perform d s w).session = o.session := by
  cases q.course d s w with
  | served hfirst hwhole =>
    rw [hwhole] at hresult
    exact ⟨s, _, .first hresult, h.sound, rfl, congrArg Outcome.session hwhole⟩
  | failed _ _ _ hwhole | locked _ _ _ hwhole | lost _ _ _ _ hwhole =>
    rw [hwhole] at hresult
    cases hresult
  | broken hfirst _ hwhole =>
    rw [hwhole, hfirst] at hresult
    cases hresult
  | again hfirst hrefusal hlogin hsecond hwhole =>
    -- the first attempt failed, so it entered nothing
    obtain ⟨held', hrestart⟩ := q.holds_restart (d := d) (w := w) h
    rw [hwhole] at hresult
    refine ⟨_, _, .second ?_ hlogin rfl hresult, hrestart.sound, restart_ledger h ?_, ?_⟩
    · obtain ⟨status, url, rfl, hstatus⟩ := ApiError.isRefusal_iff.1 hrefusal
      exact ⟨status, url, hfirst, hstatus⟩
    · rw [hfirst]
      exact fun _ h => nomatch h
    · rw [hwhole]
      rfl

/-- **A query without data** enters nothing. -/
theorem perform_ledger_of_no_data (h : s.Holds held) (q : Query shape)
    (hresult : ∀ value, (q.perform d s w).result ≠ .ok (some value)) :
    (q.perform d s w).session.ledger = s.ledger := by
  have hnone : ∀ {e : ApiError}, (q.attempt d s w).result = .error e →
      (q.attempt d s w).session.ledger = s.ledger := fun he =>
    q.attempt_ledger_of_no_data h.sound fun _ hok => nomatch he.symm.trans hok
  obtain ⟨held', hrestart⟩ := q.holds_restart (d := d) (w := w) h
  cases q.course d s w with
  | served _ hwhole =>
    rw [hwhole] at hresult ⊢
    exact q.attempt_ledger_of_no_data h.sound hresult
  | failed hfirst _ _ hwhole | broken hfirst _ hwhole =>
    rw [hwhole]
    exact hnone hfirst
  | locked hfirst _ _ hwhole =>
    rw [hwhole]
    exact authorize_ledger.trans (hnone hfirst)
  | again hfirst _ _ _ hwhole =>
    rw [hwhole] at hresult ⊢
    exact (q.attempt_ledger_of_no_data hrestart.sound hresult).trans
      (authorize_ledger.trans (hnone hfirst))
  | lost hfirst _ _ hsecond hwhole =>
    rw [hwhole]
    exact (q.attempt_ledger_of_no_data hrestart.sound
      fun _ hok => nomatch hsecond.symm.trans hok).trans
      (authorize_ledger.trans (hnone hfirst))

/-- Where the last attempt at a query starts: after the login if the first attempt was refused and
the login succeeded, and where the query does otherwise. -/
def lastStart (q : Query shape) (d : Deployment σ) (s : Session) (w : σ) : Session × σ :=
  let first := q.attempt d s w
  let login := authorize d first.session first.state
  match first.result, login.result with
  | .error e, .ok () => if e.isRefusal then (login.session, login.state) else (s, w)
  | _, _ => (s, w)

/-- The last attempt at a query. -/
def lastAttempt (q : Query shape) (d : Deployment σ) (s : Session) (w : σ) :
    Outcome σ (Option shape.Value) :=
  q.attempt d (q.lastStart d s w).1 (q.lastStart d s w).2

theorem lastStart_of_unrefused {q : Query shape}
    (h : ∀ e, (q.attempt d s w).result = .error e → e.isRefusal = false) :
    q.lastStart d s w = (s, w) := by
  unfold lastStart
  dsimp only
  split
  · rename_i e he _
    rw [h e he, if_neg Bool.false_ne_true]
  · rfl

theorem lastStart_of_locked {q : Query shape} {e : ApiError}
    (h : (authorize d (q.attempt d s w).session (q.attempt d s w).state).result = .error e) :
    q.lastStart d s w = (s, w) := by
  unfold lastStart
  dsimp only
  rw [h]
  split
  · rename_i hok
    cases hok
  · rfl

theorem lastStart_of_login {q : Query shape} {e : ApiError}
    (he : (q.attempt d s w).result = .error e) (hrefusal : e.isRefusal = true)
    (hlogin : (authorize d (q.attempt d s w).session (q.attempt d s w).state).result = .ok ()) :
    q.lastStart d s w =
      (q.restart d s w, (authorize d (q.attempt d s w).session (q.attempt d s w).state).state) := by
  unfold lastStart
  dsimp only
  rw [he, hlogin]
  exact if_pos hrefusal

/-- A query ends as its last attempt does if that succeeds, and brings nothing if it fails. -/
theorem perform_of_lastAttempt (q : Query shape) :
    (∃ before value, q.perform d s w = (q.lastAttempt d s w).after before ∧
      (q.lastAttempt d s w).result = .ok value) ∨
    (∃ e, (q.lastAttempt d s w).result = .error e) ∧
      ∀ value, (q.perform d s w).result ≠ .ok (some value) := by
  unfold lastAttempt
  cases q.course d s w with
  | served hfirst hwhole =>
    rw [lastStart_of_unrefused fun _ h => nomatch hfirst.symm.trans h]
    exact .inl ⟨[], _, hwhole, hfirst⟩
  | failed hfirst hrefusal _ hwhole =>
    have hunrefused : ∀ e', (q.attempt d s w).result = .error e' → e'.isRefusal = false := by
      intro e' he'
      obtain rfl := Except.error.inj (hfirst.symm.trans he')
      exact hrefusal
    rw [lastStart_of_unrefused hunrefused, hwhole]
    exact .inr ⟨⟨_, hfirst⟩, fun _ h => nomatch h⟩
  | broken hfirst hhttp hwhole =>
    have hunrefused : ∀ e', (q.attempt d s w).result = .error e' → e'.isRefusal = false := by
      intro e' he'
      obtain rfl := Except.error.inj (hfirst.symm.trans he')
      exact Bool.eq_false_iff.2
        fun h => Bool.false_ne_true (hhttp.symm.trans (ApiError.isHttp_of_isRefusal h))
    rw [lastStart_of_unrefused hunrefused, hwhole]
    exact .inr ⟨⟨_, hfirst⟩, fun _ h => nomatch hfirst.symm.trans h⟩
  | locked hfirst _ hlogin hwhole =>
    rw [lastStart_of_locked hlogin, hwhole]
    exact .inr ⟨⟨_, hfirst⟩, fun _ h => nomatch h⟩
  | again hfirst hrefusal hlogin hsecond hwhole =>
    rw [lastStart_of_login hfirst hrefusal hlogin]
    exact .inl ⟨_, _, hwhole, hsecond⟩
  | lost hfirst hrefusal hlogin hsecond hwhole =>
    rw [lastStart_of_login hfirst hrefusal hlogin, hwhole, restart]
    dsimp only
    exact .inr ⟨⟨_, hsecond⟩, fun _ h => nomatch h⟩

/-- The last attempt finds everything in order, and the ledger as the query did. -/
theorem lastStart_sound (h : s.Holds held) (q : Query shape) :
    (q.lastStart d s w).1.Sound ∧ (q.lastStart d s w).1.ledger = s.ledger := by
  obtain ⟨held', hrestart⟩ := q.holds_restart (d := d) (w := w) h
  unfold lastStart
  dsimp only
  split
  · rename_i e he _
    split
    · exact ⟨hrestart.sound, restart_ledger h fun _ hok => nomatch he.symm.trans hok⟩
    · exact ⟨h.sound, rfl⟩
  · exact ⟨h.sound, rfl⟩

/-- The list of the user's projects enters nothing, whatever it comes to. -/
theorem perform_ledger_of_component?_eq_none (h : s.Holds held) {q : Query shape}
    (hq : q.component? = none) : (q.perform d s w).session.ledger = s.ledger := by
  cases q <;> try cases hq
  have hattempt : ∀ {s' : Session} {w' : σ}, (authProjects.attempt d s' w').session = s' :=
    fun {s' w'} => (looks_authProjects d s' w').1
  cases hresult : (authProjects.perform d s w).result with
  | error e => exact perform_ledger_of_no_data h _ fun _ hok => nomatch hresult.symm.trans hok
  | ok value =>
    cases value with
    | none => exact perform_ledger_of_no_data h _ fun _ hok => nomatch hresult.symm.trans hok
    | some projects =>
      obtain ⟨start, o, hsucceeds, -, hledger, hsession⟩ := perform_of_data h hresult
      rw [hsession, ← hledger]
      cases hsucceeds with
      | first => rw [hattempt]
      | second => rw [hattempt]

/-- Whatever a query gets, one of its attempts asked for, and found the ledger as the query did. -/
theorem perform_emits (h : s.Holds held) (q : Query shape) {request : Request}
    (hrequest : request ∈ (q.perform d s w).requests) (hget : request.method = .get) :
    ∃ start purpose answer, (start = s ∨ start = q.restart d s w) ∧ start.ledger = s.ledger ∧
      q.Emits start (.exchange purpose request answer) := by
  obtain ⟨held', hrestart⟩ := q.holds_restart (d := d) (w := w) h
  -- a request of the first attempt, of the login, or of the second attempt
  rcases (q.course d s w).mem_requests hrequest with hmem | hmem | ⟨⟨e, hfirst⟩, hmem⟩
  · obtain ⟨purpose, answer, hevent⟩ := mem_requestsOf.1 hmem
    exact ⟨s, purpose, answer, .inl rfl, rfl, q.attempt_emits h.sound _ hevent⟩
  · exact nomatch hget.symm.trans (authorize_posts request hmem)
  · obtain ⟨purpose, answer, hevent⟩ := mem_requestsOf.1 hmem
    have hledger := restart_ledger (d := d) (w := w) h fun _ hok => nomatch hfirst.symm.trans hok
    exact ⟨_, purpose, answer, .inr rfl, hledger, q.attempt_emits hrestart.sound _ hevent⟩

end Query

/-! ## What the ledger tells -/

namespace Query

variable {σ : Type} {shape : Shape} {d : Deployment σ} {s : Session} {w : σ} {held : Option Login}

/-- **What a query enters**: the collections that its successful attempt asked for, without those
that had been entered. -/
theorem perform_entered (h : s.Holds held) {q : Query shape} {c : Component} {value : shape.Value}
    (hq : q.component? = some c) (hresult : (q.perform d s w).result = .ok (some value)) :
    ∃ start o endpoint, ∃ read nested : List Resource, q.Succeeds d s w value start o ∧
      start.endpoint? c = some endpoint ∧ read.Sublist q.collections ∧
      (∀ r ∈ nested, q.looksUp r = true) ∧
      o.requests = ((read ++ nested).map fun r => start.getRequest (r.url endpoint)) ∧
      (q.perform d s w).session.ledger.urls =
        s.ledger.urls ++ (read.map (·.url endpoint)).filter fun url => url ∉ s.ledger.urls := by
  obtain ⟨start, o, hsucceeds, hsound, hledger, hsession⟩ := perform_of_data h hresult
  have hdata : ∃ endpoint, ∃ read nested : List Resource, start.endpoint? c = some endpoint ∧
      read.Sublist q.collections ∧ read ≠ [] ∧ (∀ r ∈ nested, q.looksUp r = true) ∧
      o.requests = ((read ++ nested).map fun r => start.getRequest (r.url endpoint)) ∧
      o.session.ledger = (read.map (·.url endpoint)).foldl Ledger.insert start.ledger := by
    cases hsucceeds with
    | first h => exact q.attempt_of_data hsound hq h
    | second _ _ _ h => exact q.attempt_of_data hsound hq h
  obtain ⟨endpoint, read, nested, hendpoint, hread, -, hnested, hrequests, hentered⟩ := hdata
  have hnodup : (read.map (·.url endpoint)).Nodup :=
    (hread.map (·.url endpoint)).nodup (q.nodup_urls endpoint)
  refine ⟨start, o, endpoint, read, nested, hsucceeds, hendpoint, hread, hnested, hrequests, ?_⟩
  rw [hsession, hentered, Ledger.urls_foldl_insert hnodup, hledger]

/-- **What a query does not ask for**: a collection that has been entered. -/
theorem perform_unread (h : s.Holds held) {q : Query shape} (hq : q.isDeduplicated = true)
    {request : Request} (hrequest : request ∈ (q.perform d s w).requests)
    (hget : request.method = .get) :
    ∃ start, (start = s ∨ start = q.restart d s w) ∧ ∃ (r : Resource) (endpoint : String),
      start.endpoint? r.component = some endpoint ∧ request = start.getRequest (r.url endpoint) ∧
      (r ∈ q.collections ∧ r.url endpoint ∉ s.ledger.urls ∨ q.looksUp r = true) := by
  obtain ⟨start, purpose, answer, hstart, hledger, hemits⟩ := perform_emits h q hrequest hget
  refine ⟨start, hstart, ?_⟩
  cases hemits with
  | projects hnone =>
    cases q with
    | authProjects => cases hq
    | _ => cases hnone
  | @collection _ r endpoint hr hendpoint hunread hgets =>
    obtain ⟨answer', hevent⟩ := hgets
    refine ⟨r, endpoint, hendpoint, congrArg Event.request? hevent |>
      Option.some.inj, .inl ⟨hr, ?_⟩⟩
    rw [← hledger]
    exact hunread (isOnce_of_isDeduplicated hq hr)
  | @lookup _ r endpoint hr hendpoint hgets =>
    obtain ⟨answer', hevent⟩ := hgets
    exact ⟨r, endpoint, hendpoint, congrArg Event.request? hevent |> Option.some.inj, .inr hr⟩

end Query

/-- **What a probe does not ask for**: a URL that has been entered. -/
theorem Probe.probe_unread {σ : Type} {d : Deployment σ} {s : Session} {w : σ} (hs : s.Sound)
    (p : Probe) {request : Request} (hrequest : request ∈ (Step.probe p d s w).requests) :
    ∃ endpoint, s.endpoint? p.component = some endpoint ∧
      request = s.getRequest (p.url endpoint) ∧ p.url endpoint ∉ s.ledger.urls := by
  obtain ⟨purpose, answer, hevent⟩ := mem_requestsOf.1 hrequest
  obtain ⟨endpoint, hendpoint, hunread, answer', hgets⟩ := p.probe_emits hs _ hevent
  exact ⟨endpoint, hendpoint, congrArg Event.request? hgets |> Option.some.inj, hunread⟩

/-- **What enters nothing**: an operation that is no reading, and one that brings no data. -/
theorem Operation.perform_ledger_of_no_data {σ : Type} {d : Deployment σ} {s : Session} {w : σ}
    {held : Option Login} (h : s.Holds held) (op : Operation)
    (hop : op.isReading = false ∨
      ∀ reply, (op.perform d s w).result = .ok reply → reply.hasData = false) :
    (op.perform d s w).session.ledger = s.ledger := by
  cases op with
  | authorize =>
    change ((Step.authorize >>= fun _ => pure Reply.done) d s w).session.ledger = _
    rw [Step.bind_pure_apply]
    exact Step.authorize_ledger
  | setProject project => rfl
  | endpoint c =>
    change ((Step.endpointOf c >>= fun url => pure (Reply.url url)) d s w).session.ledger = _
    rw [Step.bind_pure_apply]
    exact Step.endpointOf_ledger h.sound c
  | probe p =>
    have happly : (Operation.probe p).perform d s w = _ :=
      Step.bind_pure_apply (Step.probe p) Reply.elapsed
    rw [happly] at hop ⊢
    refine p.probe_ledger_of_no_data h.sound fun elapsed hresult => ?_
    rcases hop with hop | hop
    · cases hop
    · cases hop (.elapsed (some elapsed)) (by rw [hresult]; rfl)
  | ask q =>
    have happly : (Operation.ask q).perform d s w = _ := Step.bind_pure_apply q.perform Reply.data
    rw [happly] at hop ⊢
    rcases hop with hop | hop
    · exact Query.perform_ledger_of_component?_eq_none h (Option.not_isSome_iff_eq_none.1 (by
        rw [show q.component?.isSome = false from hop]
        exact Bool.false_ne_true))
    · refine q.perform_ledger_of_no_data h fun value hresult => ?_
      cases hop (.data (some value)) (by rw [hresult]; rfl)

/-- What the ledger of a session tells of the next operation, whichever that is. -/
structure Bookkeeping {σ : Type} (d : Deployment σ) (s : Session) (w : σ) : Prop where
  nodup : s.ledger.urls.Nodup
  agree : ∀ url, s.ledger.contains url = true ↔ url ∈ s.ledger.urls
  /-- a probe with a time enters the URL that it asked for -/
  probe_data : ∀ p elapsed, (Step.probe p d s w).result = .ok (some elapsed) →
    ∃ endpoint, s.endpoint? p.component = some endpoint ∧
      (Step.probe p d s w).requests = [s.getRequest (p.url endpoint)] ∧
      (Step.probe p d s w).session.ledger.urls = s.ledger.urls ++ [p.url endpoint]
  /-- a query with data enters the collections that its successful attempt asked for, not what that
  looked up, and leaves out what has been entered -/
  query_data : ∀ {shape : Shape} (q : Query shape) {c : Component} {value : shape.Value},
    q.component? = some c → (q.perform d s w).result = .ok (some value) →
    ∃ start o endpoint, ∃ read nested : List Resource, q.Succeeds d s w value start o ∧
      start.endpoint? c = some endpoint ∧ read.Sublist q.collections ∧
      (∀ r ∈ nested, q.looksUp r = true) ∧
      o.requests = ((read ++ nested).map fun r => start.getRequest (r.url endpoint)) ∧
      (q.perform d s w).session.ledger.urls =
        s.ledger.urls ++ (read.map (·.url endpoint)).filter fun url => url ∉ s.ledger.urls
  /-- nothing else enters anything -/
  no_data : ∀ op : Operation, op.isReading = false ∨
      (∀ reply, (op.perform d s w).result = .ok reply → reply.hasData = false) →
    (op.perform d s w).session.ledger = s.ledger
  /-- what has been entered is not probed -/
  probe_unread : ∀ p, ∀ request ∈ (Step.probe p d s w).requests,
    ∃ endpoint, s.endpoint? p.component = some endpoint ∧
      request = s.getRequest (p.url endpoint) ∧ p.url endpoint ∉ s.ledger.urls
  /-- and is not asked for, but for what is looked up -/
  query_unread : ∀ {shape : Shape} (q : Query shape), q.isDeduplicated = true →
    ∀ request ∈ (q.perform d s w).requests, request.method = .get →
    ∃ start, (start = s ∨ start = q.restart d s w) ∧ ∃ (r : Resource) (endpoint : String),
      start.endpoint? r.component = some endpoint ∧ request = start.getRequest (r.url endpoint) ∧
      (r ∈ q.collections ∧ r.url endpoint ∉ s.ledger.urls ∨ q.looksUp r = true)

/-- **The ledger of a run.** In every session that a run can reach and against any deployment, the
ledger keeps its books. -/
theorem Session.Reachable.bookkeeping {s : Session} (hs : s.Reachable) {σ : Type} (d : Deployment σ)
    (w : σ) : Bookkeeping d s w := by
  obtain ⟨held, hheld⟩ := hs.holds
  exact
    { nodup := s.ledger.nodup
      agree := fun _ => Ledger.contains_iff
      probe_data := fun p elapsed hresult => by
        obtain ⟨endpoint, hendpoint, hunread, hrequests, hledger⟩ :=
          p.probe_of_data hheld.sound hresult
        exact ⟨endpoint, hendpoint, hrequests, by
          rw [hledger, Ledger.urls_insert_of_not_mem hunread]⟩
      query_data := fun q _ _ hq hresult => q.perform_entered hheld hq hresult
      no_data := fun op hop => op.perform_ledger_of_no_data hheld hop
      probe_unread := fun p _ hrequest => p.probe_unread hheld.sound hrequest
      query_unread := fun q hq _ hrequest hget => q.perform_unread hheld hq hrequest hget }

/-- After a login, the limits of compute are entered when they are there. -/
theorem computeLimits_entered :
    let s := (Operation.authorize.perform Deployment.sample .sample ()).session
    Bookkeeping Deployment.sample s () ∧
      (Query.computeLimits.perform Deployment.sample s ()).session.ledger.urls =
        ["http://nova/limits"] := by
  intro s
  have hs : s.Reachable := .perform (.new Session.new_sample) .authorize Deployment.sample ()
  refine ⟨hs.bookkeeping Deployment.sample (), ?_⟩
  decide +kernel

end StackWatch
