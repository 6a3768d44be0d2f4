import StackWatch.Proofs.Recall

/-!
# What one attempt can do

An attempt at a query gets the client of its component, asks for its collections — each only if it
has not been read — and enters what it asked for when all of it is there. This module says so once
for all queries: `attempt_emits` tells every request that an attempt may send, `attempt_of_data`
what it has sent and entered when it brings data, and `attempt_keeps` and
`attempt_ledger_of_no_data` what it leaves alone. No attempt logs in, and an attempt without data
changes nothing but what is remembered of its component.
-/

namespace StackWatch

/-! ## What a query is about -/

namespace Query

variable {shape : Shape}

/-- The collections that a query reads, in order. -/
def collections : Query shape → List Resource
  | authProjects => []
  | listing l => [.listing l]
  | identityLimits => [.registeredLimits, .limits]
  | quotaSet project => [.quotaSet project]
  | servers project => [.servers project]
  | networkQuotas project => [.networkQuotas project]
  | computeLimits => [.computeLimits]
  | loadBalancerStatistics loadBalancer => [.loadBalancerStatistics loadBalancer]
  | listenerStatistics listener => [.listenerStatistics listener]

/-- Whether a query may look up a resource for an item of its collection: a flavor for a server. -/
def looksUp : Query shape → Resource → Bool
  | servers _, .flavor _ => true
  | _, _ => false

/-- The component that a query polls. The list of the user's projects comes from keystone itself. -/
def component? : Query shape → Option Component
  | authProjects => none
  | listing l => some l.component
  | identityLimits => some .identity
  | quotaSet _ | servers _ | computeLimits => some .compute
  | networkQuotas _ => some .network
  | loadBalancerStatistics _ | listenerStatistics _ => some .loadBalancer

theorem component?_of_mem {q : Query shape} {r : Resource} (h : r ∈ q.collections) :
    q.component? = some r.component := by
  cases q <;> simp only [collections, List.mem_cons, List.not_mem_nil, or_false] at h
  case identityLimits => rcases h with rfl | rfl <;> rfl
  all_goals
    subst h
    rfl

theorem component?_of_looksUp {q : Query shape} {r : Resource} (h : q.looksUp r = true) :
    q.component? = some r.component := by
  unfold looksUp at h
  split at h
  · rfl
  · cases h

/-- The events that an attempt at a query may leave. -/
inductive Emits (q : Query shape) (s : Session) : Event → Prop where
  | notice (n : Notice) : Emits q s (.notice n)
  | projects {event : Event} (hq : q.component? = none)
      (hgets : s.Gets .projectList s.config.projectsUrl event) : Emits q s event
  /-- a collection is asked for unless it has been read -/
  | collection {event : Event} {r : Resource} {endpoint : String} (hr : r ∈ q.collections)
      (hendpoint : s.endpoint? r.component = some endpoint)
      (hunread : r.isOnce = true → r.url endpoint ∉ s.ledger.urls)
      (hgets : s.Gets (.polling r.component) (r.url endpoint) event) : Emits q s event
  | lookup {event : Event} {r : Resource} {endpoint : String} (hr : q.looksUp r = true)
      (hendpoint : s.endpoint? r.component = some endpoint)
      (hgets : s.Gets (.polling r.component) (r.url endpoint) event) : Emits q s event

end Query

/-- The session that has a URL in its ledger. -/
def Session.withEntry (s : Session) (url : String) : Session :=
  { s with ledger := s.ledger.insert url }

namespace Step

variable {σ α β : Type} {d : Deployment σ} {s : Session} {w : σ}

/-! ## Reading a resource -/

/-- An exchange in which a client gets one of some resources. -/
def AsksFor (endpoint : String) (R : Resource → Prop) (s : Session) (event : Event) : Prop :=
  ∃ r, R r ∧ s.Gets (.polling r.component) (r.url endpoint) event

theorem AsksFor.mono {endpoint : String} {R R' : Resource → Prop} (h : ∀ r, R r → R' r)
    {event : Event} : AsksFor endpoint R s event → AsksFor endpoint R' s event := by
  rintro ⟨r, hr, hgets⟩
  exact ⟨r, h r hr, hgets⟩

/-- Events that only ask are as many requests. -/
theorem requests_of_asksFor {endpoint : String} {R : Resource → Prop} :
    ∀ {trace : List Event}, (∀ event ∈ trace, AsksFor endpoint R s event) →
      ∃ rs : List Resource, (∀ r ∈ rs, R r) ∧
        requestsOf trace = rs.map fun r => s.getRequest (r.url endpoint)
  | [], _ => ⟨[], fun _ h => absurd h List.not_mem_nil, rfl⟩
  | event :: rest, h => by
    obtain ⟨r, hr, answer, rfl⟩ := h event (List.mem_cons_self ..)
    obtain ⟨rs, hrs, hrest⟩ :=
      requests_of_asksFor fun event hevent => h event (List.mem_cons_of_mem _ hevent)
    refine ⟨r :: rs, ?_, ?_⟩
    · intro r' hr'
      rcases List.mem_cons.1 hr' with rfl | hr'
      · exact hr
      · exact hrs r' hr'
    · rw [List.map_cons, ← hrest]
      rfl

/-- A step that reads a resource and after it some of `R`. It only looks, and when it succeeds the
resource was asked for first and once. -/
structure ReadsFirst (endpoint : String) (r : Resource) (R : Resource → Prop) (m : Step σ α) :
    Prop where
  looks : Looks (AsksFor endpoint fun r' => r' = r ∨ R r') m
  requests : ∀ {d s w a}, (m d s w).result = .ok a → ∃ rs : List Resource, (∀ r' ∈ rs, R r') ∧
    (m d s w).requests = (r :: rs).map fun r' => s.getRequest (r'.url endpoint)

variable {client : Client} {r : Resource} {R : Resource → Prop}

theorem readsFirst_request (client : Client) (r : Resource) :
    ReadsFirst client.endpoint r R (request client r : Step σ Response) where
  looks := (looks_send _ _).mono fun _ _ h => ⟨r, .inl rfl, h⟩
  requests h := ⟨[], fun _ h => absurd h List.not_mem_nil, send_get_requests h⟩

/-- What follows the first request may only look up some of `R`. -/
theorem ReadsFirst.bind {endpoint : String} {m : Step σ α} {f : α → Step σ β}
    (hm : ReadsFirst endpoint r R m) (hf : ∀ a, Looks (AsksFor endpoint R) (f a)) :
    ReadsFirst endpoint r R (m >>= f) where
  looks := hm.looks.bind fun a => (hf a).mono fun _ _ => AsksFor.mono fun _ => .inr
  requests {d s w} h := by
    intro hok
    obtain ⟨a, ha, -⟩ := bind_result_ok hok
    obtain ⟨rs, hrs, hfirst⟩ := hm.requests ha
    -- the first step only looked, so what follows it starts from the same session
    have hlater := (hf a d (m d s w).session (m d s w).state).2
    rw [(hm.looks d s w).1] at hlater
    obtain ⟨rs', hrs', hrest⟩ := requests_of_asksFor hlater
    refine ⟨rs ++ rs', fun r' hr' => ?_, ?_⟩
    · rcases List.mem_append.1 hr' with hr' | hr'
      · exact hrs r' hr'
      · exact hrs' r' hr'
    · rw [requests_bind_of_ok ha, hfirst, (hm.looks d s w).1, Outcome.requests, hrest,
        ← List.cons_append, List.map_append]

theorem readsFirst_fetch (client : Client) (r : Resource) (read : Response → Except ApiError α) :
    ReadsFirst client.endpoint r R (fetch client r read : Step σ α) :=
  (readsFirst_request client r).bind fun _ => looks_ofExcept _

/-! ## Servers and their flavors -/

/-- The resources that are flavors. -/
def IsFlavor (r : Resource) : Prop := ∃ id, r = .flavor id

theorem looks_flavorOf (client : Client) (flavor : Json) :
    Looks (AsksFor client.endpoint IsFlavor) (flavorOf client flavor : Step σ _) := by
  unfold flavorOf
  split
  · rename_i id _
    refine Looks.bind ?_ fun _ => looks_pure _
    refine (readsFirst_fetch (R := IsFlavor) client (.flavor id) _).looks.mono fun _ _ => ?_
    exact AsksFor.mono fun r h => h.elim (⟨id, ·⟩) fun h => h
  · exact looks_pure _

theorem looks_serverEntity (client : Client) (server : Json) :
    Looks (AsksFor client.endpoint IsFlavor) (serverEntity client server : Step σ Entity) := by
  unfold serverEntity
  split
  · exact (looks_flavorOf client _).bind fun _ => looks_pure _
  · exact looks_pure _

/-- By induction on the servers: each looks up at most its own flavor. -/
theorem looks_serverEntries (client : Client) (url : String) :
    ∀ servers : List Json,
      Looks (AsksFor client.endpoint IsFlavor) (serverEntries client url servers : Step σ _)
  | [] => looks_pure _
  | server :: rest => by
    refine (looks_serverEntity client server).bind fun _ => ?_
    refine (looks_ofExcept _).bind fun _ => ?_
    exact (looks_serverEntries client url rest).bind fun _ => looks_pure _

/-! ## Reading what is unread -/

theorem enter_pure (url : String) (a : α) :
    (enter url >>= fun _ => pure a : Step σ α) d s w = ⟨.ok a, s.withEntry url, w, []⟩ := rfl

/-- Under the invariant, reading a resource goes by the catalog and the ledger alone. -/
theorem reading_apply (hs : s.Sound) (r : Resource) (read : Client → Step σ α) :
    reading r read d s w =
      match s.endpoint? r.component with
      | none => ⟨.error (.componentNotFound r.component), s, w, []⟩
      | some endpoint =>
        let client := Client.build r.component endpoint s.config
        let s' := s.withClient r.component endpoint
        if client.offers r then
          if r.isOnce && s.ledger.contains (r.url endpoint) then ⟨.ok none, s', w, []⟩
          else
            let o := read client d s' w
            match o.result with
            | .error e => ⟨.error e, o.session, o.state, o.trace⟩
            | .ok a =>
              ⟨.ok (some a), o.session.withEntry (r.url endpoint), o.state, o.trace⟩
        else ⟨.ok none, s', w, [.notice .conductorsNotOffered]⟩ := by
  have hclient := clientOf_apply (d := d) (w := w) hs r.component
  unfold reading
  cases hendpoint : s.endpoint? r.component with
  | none =>
    rw [hendpoint] at hclient
    rw [bind_failed hclient]
  | some endpoint =>
    rw [hendpoint] at hclient
    rw [bind_quiet hclient]
    dsimp only
    by_cases hoffers : (Client.build r.component endpoint s.config).offers r = true
    · have hbefore : (wasRead (r.url endpoint) : Step σ Bool) d
          (s.withClient r.component endpoint) w =
          ⟨.ok (s.ledger.contains (r.url endpoint)), s.withClient r.component endpoint, w, []⟩ :=
        rfl
      rw [if_pos hoffers, if_pos hoffers, Client.build_endpoint, bind_quiet hbefore]
      by_cases hread : (r.isOnce && s.ledger.contains (r.url endpoint)) = true
      · rw [if_pos hread, if_pos hread]
        rfl
      · rw [if_neg hread, if_neg hread]
        cases hvalue : (read (Client.build r.component endpoint s.config) d
            (s.withClient r.component endpoint) w).result with
        | error e => rw [bind_of_error hvalue]
        | ok a =>
          rw [bind_of_ok hvalue, enter_pure]
          simp only [List.append_nil]
    · rw [if_neg hoffers, if_neg hoffers]
      rfl

/-- An offered resource that is unread is read, and entered if all of it is there. -/
theorem reading_of_unread (hs : s.Sound) {r : Resource} {read : Client → Step σ α}
    {endpoint : String} (hendpoint : s.endpoint? r.component = some endpoint)
    (hoffers : (Client.build r.component endpoint s.config).offers r = true)
    (hunread : r.url endpoint ∉ s.ledger.urls) {o : Outcome σ α}
    (hread : read (Client.build r.component endpoint s.config) d
      (s.withClient r.component endpoint) w = o) :
    reading r read d s w =
      match o.result with
      | .error e => ⟨.error e, o.session, o.state, o.trace⟩
      | .ok a => ⟨.ok (some a), o.session.withEntry (r.url endpoint), o.state, o.trace⟩ := by
  have hnew : ¬ (r.isOnce && s.ledger.contains (r.url endpoint)) = true := fun h =>
    hunread (Ledger.contains_iff.1 (Bool.and_eq_true_iff.1 h).2)
  rw [reading_apply hs, hendpoint, ← hread]
  dsimp only
  rw [if_pos hoffers, if_neg hnew]

end Step

/-! ## Attempts -/

/-- The session with several URLs entered in turn. -/
def Session.withEntries (s : Session) (urls : List String) : Session := urls.foldl withEntry s

/-- Two sessions under one login: they may differ in what they remember and
in what they have read. -/
structure Session.SameLogin (s s' : Session) : Prop where
  config : s'.config = s.config
  http : s'.http = s.http
  catalog : s'.resolver.catalog = s.resolver.catalog
  interface : s'.resolver.interface = s.resolver.interface
  project : s'.project = s.project
  auth : s'.auth = s.auth
  authorizations : s'.authorizations = s.authorizations

theorem Session.SameLogin.refl (s : Session) : s.SameLogin s := ⟨rfl, rfl, rfl, rfl, rfl, rfl, rfl⟩

theorem Session.SameLogin.trans {s s' s'' : Session} (h : s.SameLogin s') (h' : s'.SameLogin s'') :
    s.SameLogin s'' :=
  ⟨h'.config.trans h.config, h'.http.trans h.http, h'.catalog.trans h.catalog,
    h'.interface.trans h.interface, h'.project.trans h.project, h'.auth.trans h.auth,
    h'.authorizations.trans h.authorizations⟩

theorem Session.sameLogin_withEndpoint (s : Session) (c : Component) (endpoint : String) :
    s.SameLogin (s.withEndpoint c endpoint) := ⟨rfl, rfl, rfl, rfl, rfl, rfl, rfl⟩

theorem Session.sameLogin_withClient (s : Session) (c : Component) (endpoint : String) :
    s.SameLogin (s.withClient c endpoint) := ⟨rfl, rfl, rfl, rfl, rfl, rfl, rfl⟩

/-- A step that finds a component in the catalog: it comes to what is made of the endpoint, asks
nobody, and leaves the session as it is but for what that remembers. -/
structure Step.Finds {σ α : Type} (c : Component) (value : Config → String → α)
    (remembering : Session → String → Session) (m : Step σ α) : Prop where
  apply : ∀ {d s w}, s.Sound → m d s w =
    match s.endpoint? c with
    | none => ⟨.error (.componentNotFound c), s, w, []⟩
    | some endpoint => ⟨.ok (value s.config endpoint), remembering s endpoint, w, []⟩
  sound : ∀ {s : Session} {endpoint}, s.Sound → s.endpoint? c = some endpoint →
    (remembering s endpoint).Sound
  same : ∀ (s : Session) endpoint, s.SameLogin (remembering s endpoint)
  ledger : ∀ s endpoint, (remembering s endpoint).ledger = s.ledger

theorem Step.finds_endpointOf {σ : Type} (c : Component) :
    Finds c (fun _ endpoint => endpoint) (·.withEndpoint c) (endpointOf c : Step σ String) where
  apply hs := endpointOf_apply hs c
  sound hs h := hs.withEndpoint h
  same s endpoint := s.sameLogin_withEndpoint c endpoint
  ledger _ _ := rfl

theorem Step.finds_clientOf {σ : Type} (c : Component) :
    Finds c (fun config endpoint => Client.build c endpoint config) (·.withClient c)
      (clientOf c : Step σ Client) where
  apply hs := clientOf_apply hs c
  sound hs h := hs.withClient h
  same s endpoint := s.sameLogin_withClient c endpoint
  ledger _ _ := rfl

theorem Session.SameLogin.withLedger {s s' : Session} (h : s.SameLogin s') (ledger : Ledger) :
    s.SameLogin { s' with ledger } :=
  ⟨h.config, h.http, h.catalog, h.interface, h.project, h.auth, h.authorizations⟩

/-- Entering URLs changes the ledger alone. -/
theorem Session.withEntries_eq (s : Session) (urls : List String) :
    s.withEntries urls = { s with ledger := urls.foldl Ledger.insert s.ledger } := by
  induction urls generalizing s with
  | nil => rfl
  | cons url rest ih => exact ih (s.withEntry url)

theorem Session.withEntries_append (s : Session) (urls urls' : List String) :
    (s.withEntries urls).withEntries urls' = s.withEntries (urls ++ urls') :=
  (List.foldl_append ..).symm

/-- How an attempt ends once it has the client for an endpoint. Without data it enters nothing. With
data it has asked for some of the query's collections, in order, and for nothing else but what the
query looks up, and has entered those collections. -/
inductive Query.Concludes {σ : Type} {shape : Shape} (q : Query shape) (s : Session)
    (endpoint : String) (o : Outcome σ (Option shape.Value)) : Prop where
  | empty (hresult : ∀ value, o.result ≠ .ok (some value)) (hsession : o.session = s)
  | data {value : shape.Value} {read nested : List Resource} (hresult : o.result = .ok (some value))
      (hread : read.Sublist q.collections) (hsome : read ≠ [])
      (hnested : ∀ r ∈ nested, q.looksUp r = true)
      (hrequests : o.requests = (read ++ nested).map fun r => s.getRequest (r.url endpoint))
      (hsession : o.session = s.withEntries (read.map (·.url endpoint)))

/-- An attempt that has the client for an endpoint: what it leaves and how it ends. -/
structure Query.AttemptedAt {σ : Type} {shape : Shape} (q : Query shape) (s : Session)
    (endpoint : String) (o : Outcome σ (Option shape.Value)) : Prop where
  emits : ∀ event ∈ o.trace, q.Emits s event
  concludes : q.Concludes s endpoint o

/-- What an attempt at a query of a component can come to. -/
inductive Query.Attempted {σ : Type} {shape : Shape} (q : Query shape) (s : Session) (w : σ)
    (o : Outcome σ (Option shape.Value)) : Prop where
  | absent {c : Component} (hq : q.component? = some c) (hendpoint : s.endpoint? c = none)
      (houtcome : o = ⟨.error (.componentNotFound c), s, w, []⟩)
  | present {c : Component} {endpoint : String} (hq : q.component? = some c)
      (hendpoint : s.endpoint? c = some endpoint)
      (hat : q.AttemptedAt (s.withClient c endpoint) endpoint o)

namespace Step

variable {σ : Type} {d : Deployment σ} {s : Session} {w : σ} {shape : Shape}

/-- What a query asks for at the endpoint of its component, it may ask for. -/
theorem emits_of_asksFor {q : Query shape} {r : Resource} {endpoint : String} {event : Event}
    (hr : r ∈ q.collections) (hendpoint : s.endpoint? r.component = some endpoint)
    (hunread : r.isOnce = true → r.url endpoint ∉ s.ledger.urls)
    (h : AsksFor endpoint (fun r' => r' = r ∨ q.looksUp r' = true) s event) : q.Emits s event := by
  obtain ⟨r', rfl | hlookup, hgets⟩ := h
  · exact .collection hr hendpoint hunread hgets
  · have hcomponent : some r.component = some r'.component :=
      (Query.component?_of_mem hr).symm.trans (Query.component?_of_looksUp hlookup)
    rw [Option.some.inj hcomponent] at hendpoint
    exact .lookup hlookup hendpoint hgets

/-- An attempt that reads one collection. -/
theorem attempted_reading (hs : s.Sound) {q : Query shape} {r : Resource}
    {read : Client → Step σ shape.Value} (hr : q.collections = [r])
    (hread : ∀ client, ReadsFirst client.endpoint r (q.looksUp · = true) (read client)) :
    q.Attempted s w (reading r read d s w) := by
  have hmem : r ∈ q.collections := hr ▸ List.mem_singleton_self r
  have hq := Query.component?_of_mem hmem
  rw [reading_apply hs]
  cases hendpoint : s.endpoint? r.component with
  | none => exact .absent hq hendpoint rfl
  | some endpoint =>
    refine .present hq hendpoint ?_
    dsimp only
    -- the microversion offers the resource, the resource is unread, what reads it succeeds
    split
    · split
      · exact ⟨fun _ h => absurd h List.not_mem_nil, .empty (fun _ h => nomatch h) rfl⟩
      · rename_i hunread
        obtain ⟨hsession, htrace⟩ := (hread (Client.build r.component endpoint s.config)).looks d
          (s.withClient r.component endpoint) w
        have hnew : r.isOnce = true → r.url endpoint ∉ s.ledger.urls := fun honce hread =>
          hunread (by rw [honce, Ledger.contains_iff.2 hread]; rfl)
        have hemits : ∀ event ∈ _, q.Emits (s.withClient r.component endpoint) event :=
          fun event hevent => emits_of_asksFor hmem hendpoint hnew (htrace event hevent)
        split
        · exact ⟨hemits, .empty (fun _ h => nomatch h) hsession⟩
        · rename_i value hvalue
          obtain ⟨nested, hnested, hrequests⟩ := (hread _).requests hvalue
          refine ⟨hemits, .data rfl ?_ (List.cons_ne_nil r []) hnested hrequests ?_⟩
          · exact hr.symm ▸ List.Sublist.refl [r]
          · rw [hsession]
            rfl
    · refine ⟨fun event hevent => ?_, .empty (fun _ h => nomatch h) rfl⟩
      rw [List.mem_singleton.1 hevent]
      exact .notice _

/-! ### Limits -/

/-- The resource of a collection of limits if it was read. -/
def readOf (r : Resource) (limits : Option (KeyMap Entity)) : List Resource :=
  if limits.isSome then [r] else []

theorem enterIf_apply (client : Client) (r : Resource) (limits : Option (KeyMap Entity)) :
    enterIf client r limits d s w =
      ⟨.ok (), s.withEntries ((readOf r limits).map (·.url client.endpoint)), w, []⟩ := by
  cases limits <;> rfl

/-- One of the two collections of limits is asked for if it has not been read. -/
theorem limitsAt_cases (client : Client) (r : Resource) (member : String) :
    let o := limitsAt client r member d s w
    o.session = s ∧
      (∀ event ∈ o.trace, r.url client.endpoint ∉ s.ledger.urls ∧
        s.Gets (.polling r.component) (r.url client.endpoint) event) ∧
      ∀ limits, o.result = .ok limits →
        o.requests = (readOf r limits).map fun r => s.getRequest (r.url client.endpoint) := by
  have hbefore : (wasRead (r.url client.endpoint) : Step σ Bool) d s w =
      ⟨.ok (s.ledger.contains (r.url client.endpoint)), s, w, []⟩ := rfl
  unfold limitsAt
  dsimp only
  rw [bind_quiet hbefore]
  by_cases hread : s.ledger.contains (r.url client.endpoint) = true
  · rw [if_pos hread]
    refine ⟨rfl, fun _ h => absurd h List.not_mem_nil, fun limits h => ?_⟩
    obtain rfl := Except.ok.inj h
    rfl
  · rw [if_neg hread]
    have hfirst : ReadsFirst client.endpoint r (fun _ => False) (do
        let items ← fetchItems client r
        let limits ← ofExcept (collectLimits member (r.url client.endpoint) items)
        pure (some limits) : Step σ (Option (KeyMap Entity))) :=
      (readsFirst_fetch client r _).bind fun _ => (looks_ofExcept _).bind fun _ => looks_pure _
    obtain ⟨hsession, htrace⟩ := hfirst.looks d s w
    refine ⟨hsession, fun event hevent => ⟨Ledger.not_mem_of_not_contains hread, ?_⟩,
      fun limits h => ?_⟩
    · obtain ⟨r', rfl | hfalse, hgets⟩ := htrace event hevent
      · exact hgets
      · exact hfalse.elim
    · obtain ⟨nested, hnested, hrequests⟩ := hfirst.requests h
      obtain rfl : nested = [] := List.eq_nil_iff_forall_not_mem.2 hnested
      obtain ⟨items, -, h⟩ := bind_result_ok h
      obtain ⟨map, -, h⟩ := bind_result_ok h
      obtain rfl := Except.ok.inj h
      exact hrequests

theorem emits_of_limits {r : Resource} {endpoint : String} {event : Event}
    (hr : r ∈ Query.identityLimits.collections) (hendpoint : s.endpoint? .identity = some endpoint)
    (h : r.url endpoint ∉ s.ledger.urls ∧ s.Gets (.polling r.component) (r.url endpoint) event) :
    Query.identityLimits.Emits s event := by
  have hcomponent : some Component.identity = some r.component := Query.component?_of_mem hr
  rw [Option.some.inj hcomponent] at hendpoint
  exact .collection hr hendpoint (fun _ => h.1) h.2

theorem readOf_sublist (registered limits : Option (KeyMap Entity)) :
    (readOf .registeredLimits registered ++ readOf .limits limits).Sublist
      Query.identityLimits.collections := by
  cases registered <;> cases limits <;> simp [readOf, Query.collections]

theorem joinLimits_trace (client : Client) (registered limits : Option (KeyMap Entity)) :
    (joinLimits client registered limits d s w).trace = [] := by
  cases registered <;> cases limits <;> rfl

/-- What was read of both collections is entered, and there are data if anything was read. -/
theorem concludes_joinLimits (client : Client) (registered limits : Option (KeyMap Entity))
    {trace : List Event} (hasked : requestsOf trace =
      (readOf .registeredLimits registered ++ readOf .limits limits).map fun r =>
        s.getRequest (r.url client.endpoint)) :
    Query.identityLimits.Concludes s client.endpoint
      ((joinLimits client registered limits d s w).after trace) := by
  unfold joinLimits
  rw [bind_quiet (enterIf_apply client _ registered), bind_quiet (enterIf_apply client _ limits),
    Session.withEntries_append, ← List.map_append]
  have hpure : ∀ (value : Option (KeyMap Entity)) (s : Session),
      ((pure value : Step σ _) d s w).after trace = ⟨.ok value, s, w, trace⟩ := by
    simp [Outcome.after]
  cases registered <;> cases limits <;> rw [hpure]
  case none.none =>
    refine .empty (fun _ h => ?_) rfl
    cases h
  all_goals
    refine .data rfl (readOf_sublist _ _) (by simp [readOf])
      (fun _ h => absurd h List.not_mem_nil) ?_ rfl
    rw [List.append_nil]
    exact hasked

/-- The two collections of limits: each is asked for only if it is unread, and both are entered or
none. -/
theorem attemptedAt_limitsBy (client : Client)
    (hendpoint : s.endpoint? .identity = some client.endpoint) :
    Query.identityLimits.AttemptedAt s client.endpoint (limitsBy client d s w) := by
  have hfirst := limitsAt_cases (d := d) (s := s) (w := w) client .registeredLimits "default_limit"
  unfold limitsBy
  refine bind_cases ?_ ?_
  · intro e s' w' trace hrun
    rw [hrun] at hfirst
    obtain ⟨hs', htrace, -⟩ := hfirst
    exact ⟨fun event hevent =>
      emits_of_limits (List.mem_cons_self ..) hendpoint (htrace event hevent),
      .empty (fun _ h => nomatch h) hs'⟩
  · intro registered s' w' trace hrun
    rw [hrun] at hfirst
    obtain ⟨hs', htrace, hrequests⟩ := hfirst
    obtain rfl : s' = s := hs'
    have hsecond := limitsAt_cases (d := d) (s := s') (w := w') client .limits "resource_limit"
    have hemits : ∀ {trace' : List Event},
        (∀ event ∈ trace', Resource.limits.url client.endpoint ∉ s'.ledger.urls ∧
          s'.Gets (.polling .identity) (Resource.limits.url client.endpoint) event) →
        ∀ event ∈ trace ++ trace', Query.identityLimits.Emits s' event := by
      intro trace' htrace' event hevent
      rcases List.mem_append.1 hevent with hevent | hevent
      · exact emits_of_limits (List.mem_cons_self ..) hendpoint (htrace event hevent)
      · exact emits_of_limits (by simp [Query.collections]) hendpoint (htrace' event hevent)
    refine bind_cases (P := fun o => Query.identityLimits.AttemptedAt s' client.endpoint
      (o.after trace)) ?_ ?_
    · intro e s'' w'' trace' hrun'
      rw [hrun'] at hsecond
      obtain ⟨hs'', htrace', -⟩ := hsecond
      exact ⟨hemits htrace', .empty (fun _ h => nomatch h) hs''⟩
    · intro limits s'' w'' trace' hrun'
      rw [hrun'] at hsecond
      obtain ⟨hs'', htrace', hrequests'⟩ := hsecond
      obtain rfl : s'' = s' := hs''
      have hasked : requestsOf (trace ++ trace') = (readOf .registeredLimits registered ++
          readOf .limits limits).map fun r => s''.getRequest (r.url client.endpoint) := by
        have hregistered : requestsOf trace = _ := hrequests registered rfl
        have hlimits : requestsOf trace' = _ := hrequests' limits rfl
        rw [requestsOf_append, List.map_append, hregistered, hlimits]
      have hconcludes := concludes_joinLimits (d := d) (w := w'') client registered limits hasked
      rw [← Outcome.after_after] at hconcludes
      refine ⟨?_, hconcludes⟩
      change ∀ event ∈ trace ++ (trace' ++ (joinLimits client registered limits d s'' w'').trace), _
      rw [joinLimits_trace, List.append_nil]
      exact hemits htrace'

/-! ### All of them -/

/-- The projects of the user are asked for once, at keystone, and nothing else happens. -/
theorem looks_authProjects :
    Looks (fun s => s.Gets .projectList s.config.projectsUrl)
      (authProjects : Step σ (Option (List AuthProject))) := by
  intro d s w
  rw [authProjects, bind_quiet (m := get) rfl]
  exact ((looks_send .projectList s.config.projectsUrl).bind
    fun _ => (looks_ofExcept _).bind fun _ => (looks_ofExcept _).bind fun _ => looks_pure _) d s w

theorem looks_lookup_of_isFlavor {project : String} {endpoint : String} {m : Step σ β}
    (hm : Looks (AsksFor endpoint IsFlavor) m) :
    Looks (AsksFor endpoint ((Query.servers project).looksUp · = true)) m :=
  hm.mono fun _ _ => AsksFor.mono fun r hr => by
    obtain ⟨id, rfl⟩ := hr
    rfl

/-- Every attempt at a query of a component. -/
theorem attempted (hs : s.Sound) {shape : Shape} (q : Query shape) {c : Component}
    (hq : q.component? = some c) : q.Attempted s w (q.attempt d s w) := by
  cases q with
  | authProjects => cases hq
  | listing l =>
    exact attempted_reading hs rfl fun client =>
      (readsFirst_fetch client _ _).bind fun _ => looks_ofExcept _
  | identityLimits =>
    have hclient := clientOf_apply (d := d) (w := w) hs .identity
    change Query.identityLimits.Attempted s w (identityLimits d s w)
    unfold identityLimits
    cases hendpoint : s.endpoint? .identity with
    | none =>
      rw [hendpoint] at hclient
      rw [bind_failed hclient]
      exact .absent rfl hendpoint rfl
    | some endpoint =>
      rw [hendpoint] at hclient
      rw [bind_quiet hclient]
      exact .present rfl hendpoint
        (attemptedAt_limitsBy (Client.build .identity endpoint s.config) hendpoint)
  | quotaSet project =>
    exact attempted_reading hs rfl fun client =>
      (readsFirst_fetch client _ _).bind fun _ => (looks_ofExcept _).bind fun _ => looks_pure _
  | servers project =>
    exact attempted_reading hs rfl fun client =>
      (readsFirst_fetch client _ _).bind fun _ =>
        (looks_lookup_of_isFlavor (looks_serverEntries client _ _)).bind fun _ => looks_pure _
  | networkQuotas project | computeLimits | loadBalancerStatistics _ | listenerStatistics _ =>
    exact attempted_reading hs rfl fun client =>
      (readsFirst_fetch client _ _).bind fun _ => looks_pure _

end Step

/-! ## What follows of every query -/

namespace Query

variable {σ : Type} {shape : Shape} {q : Query shape} {d : Deployment σ} {s : Session} {w : σ}

/-- To remember the client of a component changes nothing of what may be sent. -/
theorem Emits.of_withClient {c : Component} {endpoint : String} {event : Event}
    (h : q.Emits (s.withClient c endpoint) event) : q.Emits s event := by
  cases h with
  | notice n => exact .notice n
  | projects hq hgets => exact .projects hq hgets
  | collection hr hendpoint hunread hgets => exact .collection hr hendpoint hunread hgets
  | lookup hr hendpoint hgets => exact .lookup hr hendpoint hgets

/-- **What an attempt sends.** Every event of an attempt is one that its query may leave. -/
theorem attempt_emits (hs : s.Sound) (q : Query shape) :
    ∀ event ∈ (q.attempt d s w).trace, q.Emits s event := by
  intro event hevent
  cases hq : q.component? with
  | none =>
    cases q <;> try cases hq
    exact .projects rfl ((Step.looks_authProjects d s w).2 event hevent)
  | some c =>
    cases Step.attempted hs q hq with
    | absent _ _ houtcome =>
      rw [houtcome] at hevent
      cases hevent
    | present _ _ hat => exact (hat.emits event hevent).of_withClient

/-- **What an attempt keeps.** It stays under the login that it finds, and remembers only what the
catalog gives. -/
theorem attempt_keeps (hs : s.Sound) (q : Query shape) :
    (q.attempt d s w).session.Sound ∧ s.SameLogin (q.attempt d s w).session := by
  cases hq : q.component? with
  | none =>
    cases q <;> try cases hq
    have hsession : (authProjects.attempt d s w).session = s := (Step.looks_authProjects d s w).1
    rw [hsession]
    exact ⟨hs, .refl s⟩
  | some c =>
    cases Step.attempted hs q hq with
    | absent _ _ houtcome =>
      rw [houtcome]
      exact ⟨hs, .refl s⟩
    | @present c endpoint _ hendpoint hat =>
      have hclient := hs.withClient hendpoint
      cases hat.concludes with
      | empty _ hsession =>
        rw [hsession]
        exact ⟨hclient, s.sameLogin_withClient c endpoint⟩
      | data _ _ _ _ _ hsession =>
        rw [hsession, Session.withEntries_eq]
        exact ⟨hclient.withLedger _, (s.sameLogin_withClient c endpoint).withLedger _⟩

/-- **An attempt without data** enters nothing. -/
theorem attempt_ledger_of_no_data (hs : s.Sound) (q : Query shape)
    (h : ∀ value, (q.attempt d s w).result ≠ .ok (some value)) :
    (q.attempt d s w).session.ledger = s.ledger := by
  cases hq : q.component? with
  | none =>
    cases q <;> try cases hq
    exact congrArg Session.ledger (Step.looks_authProjects d s w).1
  | some c =>
    cases Step.attempted hs q hq with
    | absent _ _ houtcome => rw [houtcome]
    | present _ _ hat =>
      cases hat.concludes with
      | empty _ hsession =>
        rw [hsession]
        rfl
      | data hresult => exact absurd hresult (h _)

/-- **An attempt with data** has asked for some of the query's collections, in order, then for what
the query looks up, and has entered those collections. -/
theorem attempt_of_data (hs : s.Sound) (q : Query shape) {c : Component}
    (hq : q.component? = some c) {value : shape.Value}
    (h : (q.attempt d s w).result = .ok (some value)) :
    ∃ endpoint, ∃ read nested : List Resource, s.endpoint? c = some endpoint ∧
      read.Sublist q.collections ∧ read ≠ [] ∧ (∀ r ∈ nested, q.looksUp r = true) ∧
      (q.attempt d s w).requests = ((read ++ nested).map fun r => s.getRequest (r.url endpoint)) ∧
      (q.attempt d s w).session.ledger =
        (read.map (·.url endpoint)).foldl Ledger.insert s.ledger := by
  cases Step.attempted hs q hq with
  | absent _ _ houtcome =>
    -- without an endpoint there is an error, and no data
    rw [houtcome] at h
    cases h
  | @present c' endpoint hq' hendpoint hat =>
    obtain rfl : c = c' := Option.some.inj (hq.symm.trans hq')
    cases hat.concludes with
    | empty hresult => exact absurd h (hresult value)
    | @data _ read nested _ hread hsome hnested hrequests hsession =>
      refine ⟨endpoint, read, nested, hendpoint, hread, hsome, hnested, hrequests, ?_⟩
      rw [hsession, Session.withEntries_eq]
      rfl

end Query

end StackWatch
