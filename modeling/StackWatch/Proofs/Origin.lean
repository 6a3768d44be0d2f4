import Mathlib.Data.List.Induction
import Mathlib.Data.List.Infix
import StackWatch.Proofs.Routing
import StackWatch.Proofs.Steady

/-!
# Where the entries of the ledger come from

Every URL in the ledger of a session was entered by one of the operations that led there, when it
came to its data (`Operation.performAll_origin`). Since the URLs of a component tell its queries
apart, a query that is passed over because its URL has been entered is the query that entered it, as
long as the endpoint of its component is one and the same, and no other component owns that URL
(`Query.never_confused`).
-/

namespace StackWatch

namespace Operation

open Step

variable {σ : Type} {d : Deployment σ} {s : Session} {w : σ} {held : Option Login} {url : String}

/-! ## What one operation enters -/

/-- The URLs that an operation enters with the data that it comes to. -/
inductive Enters (d : Deployment σ) (s : Session) (w : σ) (url : String) : Operation → Prop where
  | probe {p : Probe} {elapsed : Float} {endpoint : String}
      (hresult : (Step.probe p d s w).result = .ok (some elapsed))
      (hendpoint : s.endpoint? p.component = some endpoint) (hurl : p.url endpoint = url) :
      Enters d s w url (.probe p)
  /-- the endpoint is that of the attempt that succeeded, which the session has afterwards -/
  | ask {shape : Shape} {q : Query shape} {value : shape.Value} {r : Resource} {endpoint : String}
      (hresult : (q.perform d s w).result = .ok (some value)) (hr : r ∈ q.collections)
      (hendpoint : (q.perform d s w).session.endpoint? r.component = some endpoint)
      (hurl : r.url endpoint = url) : Enters d s w url (.ask q)

theorem perform_probe_session (p : Probe) :
    ((Operation.probe p).perform d s w).session = (Step.probe p d s w).session :=
  congrArg Outcome.session (bind_pure_apply (Step.probe p) Reply.elapsed)

theorem perform_ask_session {shape : Shape} (q : Query shape) :
    ((Operation.ask q).perform d s w).session = (q.perform d s w).session :=
  congrArg Outcome.session (bind_pure_apply q.perform Reply.data)

/-- **A query enters nothing but that.** -/
theorem enters_of_data (h : s.Holds held) {shape : Shape} {q : Query shape} {value : shape.Value}
    (hresult : (q.perform d s w).result = .ok (some value))
    (hurl : url ∈ (q.perform d s w).session.ledger.urls) :
    url ∈ s.ledger.urls ∨ (ask q).Enters d s w url := by
  cases hq : q.component? with
  | none =>
    rw [Query.perform_ledger_of_component?_eq_none h hq] at hurl
    exact .inl hurl
  | some c =>
    obtain ⟨start, o, hsucceeds, hsound, hledger, hsession⟩ := q.perform_of_data h hresult
    obtain ⟨state, rfl, hdata⟩ : ∃ state, o = q.attempt d start state ∧
        o.result = .ok (some value) := by
      cases hsucceeds with
      | first hdata => exact ⟨_, rfl, hdata⟩
      | second _ _ _ hdata => exact ⟨_, rfl, hdata⟩
    obtain ⟨endpoint, read, nested, hendpoint, hread, -, -, -, hentered⟩ :=
      q.attempt_of_data hsound hq hdata
    obtain ⟨hsound', hsame⟩ := q.attempt_keeps (d := d) (w := state) hsound
    rw [hsession, hentered, Ledger.mem_urls_foldl_insert, hledger] at hurl
    refine hurl.imp_right fun hmem => ?_
    obtain ⟨r, hr, heq⟩ := List.mem_map.1 hmem
    have hcomponent := Option.some.inj (hq.symm.trans (Query.component?_of_mem (hread.subset hr)))
    refine .ask hresult (hread.subset hr) ?_ heq
    rw [hsession, ← hcomponent, Session.endpoint?, hsame.catalog, hsame.interface]
    exact hendpoint

/-- **An operation enters nothing but that.** -/
theorem enters_of_mem (h : s.Holds held) (op : Operation)
    (hurl : url ∈ (op.perform d s w).session.ledger.urls) :
    url ∈ s.ledger.urls ∨ op.Enters d s w url := by
  cases op with
  | authorize | setProject _ | endpoint _ =>
    rw [perform_ledger_of_no_data h _ (.inl rfl)] at hurl
    exact .inl hurl
  | probe p =>
    rw [perform_probe_session] at hurl
    by_cases hdata : ∃ elapsed, (Step.probe p d s w).result = .ok (some elapsed)
    · obtain ⟨elapsed, hresult⟩ := hdata
      obtain ⟨endpoint, hendpoint, -, -, hledger⟩ := p.probe_of_data h.sound hresult
      rw [hledger, Ledger.mem_urls_insert] at hurl
      exact hurl.imp_right fun heq => .probe hresult hendpoint heq.symm
    · rw [p.probe_ledger_of_no_data h.sound fun elapsed hresult => hdata ⟨elapsed, hresult⟩] at hurl
      exact .inl hurl
  | ask q =>
    rw [perform_ask_session] at hurl
    by_cases hdata : ∃ value, (q.perform d s w).result = .ok (some value)
    · obtain ⟨value, hresult⟩ := hdata
      exact enters_of_data h hresult hurl
    · rw [q.perform_ledger_of_no_data h fun value hresult => hdata ⟨value, hresult⟩] at hurl
      exact .inl hurl

/-! ## What several operations enter -/

/-- After a first operation come the others. -/
theorem performAll_cons (op : Operation) (rest : List Operation) (d : Deployment σ)
    (s : Session) (w : σ) :
    (performAll (op :: rest) d s w).session =
        (performAll rest d (op.perform d s w).session (op.perform d s w).state).session ∧
      (performAll (op :: rest) d s w).state =
        (performAll rest d (op.perform d s w).session (op.perform d s w).state).state := by
  rw [performAll, bind_catching, bind_pure_apply]
  exact ⟨rfl, rfl⟩

/-- A last operation starts from where the others have led, by induction on these. -/
theorem performAll_concat (op : Operation) : ∀ (ops : List Operation) (s : Session) (w : σ),
    (performAll (ops ++ [op]) d s w).session =
      (op.perform d (performAll ops d s w).session (performAll ops d s w).state).session
  | [], s, w => (performAll_cons op [] d s w).1
  | first :: rest, s, w => by
    rw [List.cons_append, (performAll_cons first (rest ++ [op]) d s w).1, performAll_concat,
      (performAll_cons first rest d s w).1, (performAll_cons first rest d s w).2]

/-- **Where an entry of the ledger comes from**: one of the operations came to data with it. By
induction on the operations, from the last. -/
theorem performAll_origin (h : s.Holds held) (hempty : s.ledger = .empty) (ops : List Operation)
    (hurl : url ∈ (performAll ops d s w).session.ledger.urls) :
    ∃ before op after, ops = before ++ op :: after ∧
      op.Enters d (performAll before d s w).session (performAll before d s w).state url := by
  induction ops using List.reverseRecOn with
  | nil =>
    change url ∈ s.ledger.urls at hurl
    rw [hempty] at hurl
    cases hurl
  | append_singleton ops op ih =>
    rw [performAll_concat] at hurl
    have hholds := (performAll_tracks ops).holds (d := d) (w := w) h
    rcases enters_of_mem hholds op hurl with hbefore | henters
    · obtain ⟨before, origin, after, rfl, henters⟩ := ih hbefore
      exact ⟨before, origin, after ++ [op], by simp, henters⟩
    · exact ⟨ops, op, [], rfl, henters⟩

end Operation

/-! ## Queries that are passed over -/

namespace Step

variable {σ α : Type} {d : Deployment σ} {s : Session} {w : σ}

/-- A login that succeeds is an exchange. -/
theorem authorize_trace_ne_nil (h : (authorize d s w).result = .ok ()) :
    (authorize d s w).trace ≠ [] := by
  rw [authorize_apply] at h
  rw [authorize_trace]
  split at h
  · rename_i hrequestable
    rw [if_pos hrequestable]
    exact List.cons_ne_nil _ _
  · cases h

/-- A resource that is passed over without an event has been read. -/
theorem read_of_silent (hs : s.Sound) {r : Resource} {read : Client → Step σ α}
    (hresult : (reading r read d s w).result = .ok none)
    (htrace : (reading r read d s w).trace = []) :
    ∃ endpoint, s.endpoint? r.component = some endpoint ∧ r.url endpoint ∈ s.ledger.urls := by
  rw [reading_apply hs] at hresult htrace
  cases hendpoint : s.endpoint? r.component with
  | none =>
    rw [hendpoint] at hresult
    cases hresult
  | some endpoint =>
    rw [hendpoint] at hresult htrace
    dsimp only at hresult htrace
    split at hresult
    · split at hresult
      · rename_i hread
        exact ⟨endpoint, rfl, Ledger.contains_iff.1 (Bool.and_eq_true_iff.1 hread).2⟩
      · split at hresult <;> cases hresult
    · rename_i hoffers
      rw [if_neg hoffers] at htrace
      cases htrace

/-- One of the two collections of limits that is passed over has been read. -/
theorem read_of_limitsAt {client : Client} {r : Resource} {member : String}
    (hresult : (limitsAt client r member d s w).result = .ok none) :
    r.url client.endpoint ∈ s.ledger.urls := by
  have hbefore : (wasRead (r.url client.endpoint) : Step σ Bool) d s w =
      ⟨.ok (s.ledger.contains (r.url client.endpoint)), s, w, []⟩ := rfl
  rw [limitsAt, bind_quiet hbefore] at hresult
  split at hresult
  · rename_i hread
    exact Ledger.contains_iff.1 hread
  · obtain ⟨items, -, hresult⟩ := bind_result_ok hresult
    obtain ⟨limits, -, hresult⟩ := bind_result_ok hresult
    cases hresult

/-- Limits that are passed over have been read, both of them. -/
theorem read_of_identityLimits (hs : s.Sound)
    (hresult : (identityLimits d s w).result = .ok none) :
    ∃ endpoint, s.endpoint? .identity = some endpoint ∧
      ∀ r ∈ Query.identityLimits.collections, r.url endpoint ∈ s.ledger.urls := by
  have hclient := clientOf_apply (d := d) (w := w) hs .identity
  unfold identityLimits at hresult
  cases hendpoint : s.endpoint? .identity with
  | none =>
    rw [hendpoint] at hclient
    rw [bind_failed hclient] at hresult
    cases hresult
  | some endpoint =>
    rw [hendpoint] at hclient
    rw [bind_quiet hclient, limitsBy] at hresult
    obtain ⟨registered, hregistered, hresult⟩ := bind_result_ok hresult
    rw [(limitsAt_cases ..).1] at hresult
    obtain ⟨limits, hlimits, hresult⟩ := bind_result_ok hresult
    -- the two are joined to nothing only if there is neither
    cases registered <;> cases limits <;> try cases hresult
    refine ⟨endpoint, rfl, fun r hr => ?_⟩
    simp only [Query.collections, List.mem_cons, List.not_mem_nil, or_false] at hr
    rcases hr with rfl | rfl
    · exact read_of_limitsAt hregistered
    · exact read_of_limitsAt hlimits

end Step

namespace Query

open Step

variable {σ : Type} {shape : Shape} {d : Deployment σ} {s : Session} {w : σ} {c : Component}

/-- Whether a query is passed over: it comes to nothing, without a request and without a word. -/
def IsPassedOver (q : Query shape) (d : Deployment σ) (s : Session) (w : σ) : Prop :=
  (q.perform d s w).result = .ok none ∧ (q.perform d s w).trace = []

/-- An attempt that comes to nothing without an event finds all that it would
ask for in the ledger. -/
theorem read_of_silent_attempt (hs : s.Sound) {q : Query shape} (hq : q.component? = some c)
    (hresult : (q.attempt d s w).result = .ok none) (htrace : (q.attempt d s w).trace = []) :
    ∃ endpoint, s.endpoint? c = some endpoint ∧
    ∀ r ∈ q.collections, r.url endpoint ∈ s.ledger.urls := by
  have hreading : ∀ {r : Resource} {read : Client → Step σ shape.Value}, q.collections = [r] →
      q.attempt d s w = reading r read d s w →
      ∃ endpoint, s.endpoint? c = some endpoint ∧
        ∀ r ∈ q.collections, r.url endpoint ∈ s.ledger.urls := by
    intro r read hr hattempt
    rw [hattempt] at hresult htrace
    obtain ⟨endpoint, hendpoint, hread⟩ := read_of_silent hs hresult htrace
    have hmem : r ∈ q.collections := hr ▸ List.mem_singleton_self r
    rw [Option.some.inj (hq.symm.trans (component?_of_mem hmem)), hr]
    exact ⟨endpoint, hendpoint, List.forall_mem_singleton.2 hread⟩
  cases q with
  | authProjects => cases hq
  | identityLimits =>
    obtain rfl := Option.some.inj hq
    exact read_of_identityLimits hs hresult
  | listing _ | quotaSet _ | servers _ | networkQuotas _ | computeLimits | loadBalancerStatistics _
  | listenerStatistics _ => exact hreading rfl rfl

/-- **A query that is passed over** finds all that it would ask for in the ledger. -/
theorem IsPassedOver.read (hs : s.Sound) {q : Query shape} (hq : q.component? = some c)
    (h : q.IsPassedOver d s w) :
    ∃ endpoint, s.endpoint? c = some endpoint ∧
    ∀ r ∈ q.collections, r.url endpoint ∈ s.ledger.urls := by
  obtain ⟨hresult, htrace⟩ := h
  cases q.course d s w with
  | served _ hwhole =>
    rw [hwhole] at hresult htrace
    exact read_of_silent_attempt hs hq hresult htrace
  | failed _ _ _ hwhole | lost _ _ _ _ hwhole =>
    -- a failure leaves a notice
    rw [hwhole] at htrace
    exact absurd htrace (List.append_ne_nil_of_right_ne_nil _ (List.cons_ne_nil _ _))
  | broken hfirst _ hwhole =>
    rw [hwhole, hfirst] at hresult
    cases hresult
  | locked _ _ _ hwhole =>
    rw [hwhole] at hresult
    cases hresult
  | again _ _ hlogin _ hwhole =>
    rw [hwhole] at htrace
    exact absurd (List.append_eq_nil_iff.1 (List.append_eq_nil_iff.1 htrace).1).2
      (authorize_trace_ne_nil hlogin)

end Query

/-! ## Whose URL it is -/

/-- The URLs that are a component's at an endpoint: those by which it is timed, and those of
what its queries read. -/
def Component.Owns (c : Component) (endpoint url : String) : Prop :=
  (∃ p : Probe, p.component = c ∧ p.url endpoint = url) ∨
    ∃ r : Resource, r.query?.isSome = true ∧ r.component = c ∧ r.url endpoint = url

/-- Where a component is timed, none of its queries reads. -/
theorem Probe.url_ne {p : Probe} {r : Resource} (h : p.component = r.component)
    (endpoint : String) : p.url endpoint ≠ r.url endpoint := by
  cases p with
  | apiRoot c => exact (r.url_ne_endpoint endpoint).symm
  | blockStorageRoot =>
    -- there are no queries of block storage
    cases r with
    | listing l => cases l <;> cases h
    | _ => cases h

namespace Query

open Operation (performAll)

variable {σ : Type} {shape : Shape} {q : Query shape} {c : Component}
  {config : Config} {s : Session} {d : Deployment σ} {w : σ} {ops : List Operation}
  {endpoint : String}

/-- A run in which the endpoint of a component is one and the same, whatever logins there are, and
in which no other component owns the URLs of a query. -/
structure Undisturbed (q : Query shape) (c : Component) (endpoint : String)
    (d : Deployment σ) (s : Session) (w : σ) (ops : List Operation) : Prop where
  unchanged : ∀ before, before <+: ops → ∀ e,
    (performAll before d s w).session.endpoint? c = some e → e = endpoint
  unshared : ∀ before, before <+: ops → ∀ c' e', c' ≠ c →
    (performAll before d s w).session.endpoint? c' = some e' →
      ∀ r ∈ q.collections, ¬ c'.Owns e' (r.url endpoint)

/-- Where the URL of a query comes from: from the query itself. -/
theorem Undisturbed.origin_eq {r : Resource} {before after : List Operation} {op : Operation}
    (h : q.Undisturbed r.component endpoint d s w ops) (hr : r ∈ q.collections)
    (hops : ops = before ++ op :: after)
    (henters : op.Enters d (performAll before d s w).session (performAll before d s w).state
      (r.url endpoint)) :
    op = .ask q ∧ ∃ value, (q.perform d (performAll before d s w).session
      (performAll before d s w).state).result = .ok (some value) := by
  have hbefore : before <+: ops := hops ▸ List.prefix_append _ _
  have hupTo : before ++ [op] <+: ops := ⟨after, by rw [hops]; simp⟩
  cases henters with
  | @probe p elapsed e _ hendpoint hurl =>
    by_cases hcomponent : p.component = r.component
    · rw [hcomponent] at hendpoint
      obtain rfl := h.unchanged before hbefore e hendpoint
      exact absurd hurl (Probe.url_ne hcomponent e)
    · exact absurd (.inl ⟨p, rfl, hurl⟩) (h.unshared before hbefore _ e hcomponent hendpoint r hr)
  | @ask shape' q' value r' e hresult hr' hendpoint hurl =>
    rw [← Operation.perform_ask_session, ← Operation.performAll_concat] at hendpoint
    have hquery := Resource.query?_of_mem hr
    have hquery' := Resource.query?_of_mem hr'
    have hsome' : r'.query?.isSome = true := by rw [hquery', Option.isSome_some]
    by_cases hcomponent : r'.component = r.component
    · rw [hcomponent] at hendpoint
      obtain rfl := h.unchanged _ hupTo e hendpoint
      obtain rfl :=
        Resource.url_injective hsome' (by rw [hquery, Option.isSome_some]) hcomponent hurl
      cases hquery'.symm.trans hquery
      exact ⟨rfl, value, hresult⟩
    · exact absurd (.inr ⟨r', hsome', rfl, hurl⟩) (h.unshared _ hupTo _ e hcomponent hendpoint r hr)

/-- **A query is passed over for itself alone.** -/
theorem Undisturbed.read (h : q.Undisturbed c endpoint d s w ops)
    (hnew : Session.new config = .ok s) (hq : q.component? = some c)
    (hpassed : q.IsPassedOver d (performAll ops d s w).session (performAll ops d s w).state) :
    ∃ before after value, ops = before ++ .ask q :: after ∧
      (q.perform d (performAll before d s w).session (performAll before d s w).state).result =
        .ok (some value) := by
  have hheld := Session.holds_new hnew
  have hholds := (Operation.performAll_tracks ops).holds (d := d) (w := w) hheld
  obtain ⟨e, hendpoint, hread⟩ := hpassed.read hholds.sound hq
  obtain rfl := h.unchanged ops (List.prefix_refl _) e hendpoint
  obtain ⟨r, hr⟩ : ∃ r, r ∈ q.collections := by
    cases q with
    | authProjects => cases hq
    | _ => exact ⟨_, List.mem_cons_self ..⟩
  obtain rfl := Option.some.inj (hq.symm.trans (component?_of_mem hr))
  obtain ⟨before, op, after, hops, henters⟩ :=
    Operation.performAll_origin hheld (Session.new_fresh hnew).2 ops (hread r hr)
  obtain ⟨rfl, value, hresult⟩ := h.origin_eq hr hops henters
  exact ⟨before, after, value, hops, hresult⟩

/-- **No query is taken for another.** Two queries of a component never have a URL in common,
and none has that of the endpoint itself. So a query is passed over only if it came to data
before, in a run in which the endpoint of its component is one and the same and no other
component owns its URLs. -/
theorem never_confused :
    (∀ {shape shape' : Shape} (q : Query shape) (q' : Query shape') (endpoint : String),
      ∀ r ∈ q.collections,
      ∀ r' ∈ q'.collections, r.component = r'.component → r.url endpoint = r'.url endpoint →
        r = r' ∧ Operation.ask q = .ask q') ∧
    (∀ (r : Resource) (endpoint : String), r.url endpoint ≠ endpoint) ∧
    ∀ {σ : Type} {config : Config} {s : Session} {d : Deployment σ} {w : σ} {ops : List Operation}
      {shape : Shape} {q : Query shape} {c : Component} {endpoint : String},
      Session.new config = .ok s → q.component? = some c → q.Undisturbed c endpoint d s w ops →
      q.IsPassedOver d (performAll ops d s w).session (performAll ops d s w).state →
        ∃ before after value, ops = before ++ .ask q :: after ∧
          (q.perform d (performAll before d s w).session (performAll before d s w).state).result =
            .ok (some value) := by
  refine ⟨fun q q' endpoint r hr r' hr' hcomponent hurl => ?_, Resource.url_ne_endpoint,
    fun hnew hq h hpassed => h.read hnew hq hpassed⟩
  have hquery := Resource.query?_of_mem hr
  have hquery' := Resource.query?_of_mem hr'
  obtain rfl := Resource.url_injective (by rw [hquery, Option.isSome_some])
    (by rw [hquery', Option.isSome_some]) hcomponent hurl
  exact ⟨rfl, Option.some.inj (hquery.symm.trans hquery')⟩

/-- Where the limits of compute were read, they are passed over. -/
theorem computeLimits_passedOver :
    let ops := [.authorize, .ask .computeLimits]
    let now := performAll ops Deployment.sample .sample ()
    computeLimits.IsPassedOver Deployment.sample now.session now.state ∧
      ∃ before after value, ops = before ++ .ask computeLimits :: after ∧
        (computeLimits.perform Deployment.sample
          (performAll before Deployment.sample .sample ()).session
          (performAll before Deployment.sample .sample ()).state).result = .ok (some value) := by
  intro ops now
  have hendpoints : ∀ before ∈ ops.inits, ∀ c ∈ Component.all,
      ((performAll before Deployment.sample .sample ()).session.endpoint? c).all
        (fun e => c = .compute ∧ e = "http://nova") := by decide +kernel
  have hendpoint : ∀ before, before <+: ops → ∀ c e,
      (performAll before Deployment.sample .sample ()).session.endpoint? c = some e →
        c = .compute ∧ e = "http://nova" := by
    intro before hbefore c e he
    have hall := hendpoints before ((List.mem_inits _ _).2 hbefore) c c.mem_all
    rw [he] at hall
    exact of_decide_eq_true hall
  have hundisturbed : computeLimits.Undisturbed .compute "http://nova"
      Deployment.sample .sample () ops :=
    ⟨fun before hbefore e he => (hendpoint before hbefore _ e he).2,
      fun before hbefore c' e' hc' he' => absurd (hendpoint before hbefore _ e' he').1 hc'⟩
  have hpassed : computeLimits.IsPassedOver Deployment.sample now.session now.state := by
    constructor <;> rfl
  exact ⟨hpassed, never_confused.2.2 Session.new_sample rfl hundisturbed hpassed⟩

end Query

end StackWatch
