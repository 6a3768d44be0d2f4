import StackWatch.Proofs.Law

/-!
# What one operation adds to a journal

Three invariants carry a run through the law. `Kept` holds at any time. `Ready` holds wherever
queries are made: the last login, if it is held, was for the project that is reported, and if
none is held a query lost it. `Within` holds in the section of a component: if the component was
skipped, the session has no endpoint for it, so that every later query of the section ends
before anything is sent.

`Ready.step` takes a run through one operation, and `Ready.write` through what is written beside
that. At the end stand the parts of a run as one operation each, with what is written beside it
(`Run.ask_apply`, `Run.responseTime_apply`).
-/

namespace StackWatch

namespace Progress

variable {σ : Type} {config : Config} {project : Option String} {c : Component} {p : Progress σ}

/-- What holds of a run at any time. -/
structure Kept (config : Config) (p : Progress σ) : Prop where
  lawful : Chronicle (Entry.Lawful config) p.journal
  holds : p.session.Holds (lastLogin config.tokenUrl p.trace)
  configured : p.session.config = config
  chosen : p.session.project = projectOf p.journal

/-- What holds of a run that reports a project, or none. -/
structure Ready (config : Config) (project : Option String) (p : Progress σ) : Prop
    extends Kept config p where
  reported : projectOf p.journal = project
  /-- the last login was for the project -/
  asked : ∀ request answer, lastPost? p.trace = some (request, answer) →
    request.body = some (config.grantFor project).toJson
  /-- no login is held only after a query lost it -/
  excused : lastLogin config.tokenUrl p.trace = none → LostLogin config.tokenUrl p.journal

/-- What holds of a run in the section of a component. -/
structure Within (config : Config) (project : Option String) (c : Component) (p : Progress σ) : Prop
    extends Ready config project p where
  absent : c ∈ p.skipped → p.session.endpoint? c = none

/-- A section may be entered if its component has not been skipped. -/
theorem Ready.within (h : p.Ready config project) (hc : c ∉ p.skipped) :
    p.Within config project c :=
  ⟨h, fun hskipped => absurd hskipped hc⟩

/-- What has an endpoint was not skipped. -/
theorem Within.notMem_skipped (h : p.Within config project c) {endpoint : String}
    (hendpoint : p.session.endpoint? c = some endpoint) : c ∉ p.skipped := fun hskipped =>
  nomatch hendpoint.symm.trans (h.absent hskipped)

/-! ## Remarks -/

/-- The progress with more entries in its journal. -/
def write (p : Progress σ) (entries : List Entry) : Progress σ :=
  { p with journal := p.journal ++ entries }

variable {remarks : List Entry}

theorem lastPost?_remarks (hremarks : ∀ e ∈ remarks, e.IsRemark) :
    lastPost? (eventsOf remarks) = none := by
  have hnone : (eventsOf remarks).filterMap Event.post? = [] := by
    refine List.filterMap_eq_nil_iff.2 fun event hevent => ?_
    obtain ⟨entry, hmem, hentry⟩ := List.mem_filterMap.1 hevent
    cases entry with
    | event e =>
      obtain rfl : e = event := Option.some.inj hentry
      cases e with
      | notice n => rfl
      | exchange purpose request answer => exact (hremarks _ hmem).elim
    | _ => cases hentry
  rw [lastPost?, hnone]
  rfl

theorem skipped_write (p : Progress σ) (entries : List Entry) :
    (p.write entries).skipped = p.skipped ++ skippedOf entries := skippedOf_append

theorem trace_write (p : Progress σ) : (p.write remarks).trace = p.trace ++ eventsOf remarks :=
  eventsOf_append

theorem lastLogin_write (tokenUrl : String) (p : Progress σ)
    (hremarks : ∀ e ∈ remarks, e.IsRemark) :
    lastLogin tokenUrl (p.write remarks).trace = lastLogin tokenUrl p.trace := by
  rw [trace_write, lastLogin, loginAfter_append, loginAfter_eq, lastPost?_remarks hremarks]
  rfl

/-- Remarks that the law allows may be written at any time. -/
theorem Kept.write (h : p.Kept config) (hremarks : ∀ e ∈ remarks, e.IsRemark)
    (hlaw : ∀ ⦃before entry after⦄, remarks = before ++ entry :: after →
      entry.Lawful config (p.journal ++ before)) : (p.write remarks).Kept config where
  lawful := h.lawful.append hlaw
  holds := by
    rw [lastLogin_write _ p hremarks]
    exact h.holds
  configured := h.configured
  chosen := h.chosen.trans (projectOf_remarks hremarks).symm

theorem Ready.write (h : p.Ready config project) (hremarks : ∀ e ∈ remarks, e.IsRemark)
    (hlaw : ∀ ⦃before entry after⦄, remarks = before ++ entry :: after →
      entry.Lawful config (p.journal ++ before)) : (p.write remarks).Ready config project where
  toKept := h.toKept.write hremarks hlaw
  reported := (projectOf_remarks hremarks).trans h.reported
  asked request answer hpost := by
    rw [trace_write, lastPost?_append, lastPost?_remarks hremarks] at hpost
    exact h.asked request answer hpost
  excused hnone := by
    rw [lastLogin_write _ p hremarks] at hnone
    exact (h.excused hnone).append remarks

/-- A single remark. -/
theorem Ready.write_single (h : p.Ready config project) {entry : Entry} (hremark : entry.IsRemark)
    (hlaw : entry.Lawful config p.journal) : (p.write [entry]).Ready config project :=
  h.write (by simpa using hremark) (Chronicle.single hlaw)

end Progress

/-! ## Operations -/

namespace Step

variable {σ : Type} {d : Deployment σ} {s : Session} {w : σ}

/-- A login leaves nothing but its own exchange. -/
theorem eq_login_of_mem {event : Event} (h : event ∈ (authorize d s w).trace) :
    ∃ answer, event = .exchange .authorization s.loginRequest answer := by
  rw [authorize_trace] at h
  split at h
  · exact ⟨_, List.mem_singleton.1 h⟩
  · cases h

/-- A login that succeeded has asked once, and was answered with what it holds now. -/
theorem authorize_of_ok (h : (authorize d s w).result = .ok ()) :
    ∃ answer login, (authorize d s w).trace = [.exchange .authorization s.loginRequest answer] ∧
      Login.ofAnswer s.config.tokenUrl answer = .ok login := by
  rw [authorize_apply] at h ⊢
  split at h
  · rename_i hurl
    rw [if_pos hurl]
    dsimp only at h ⊢
    cases hanswer : Login.ofAnswer s.config.tokenUrl (d s.loginRequest w).1 with
    | error e =>
      rw [hanswer] at h
      cases h
    | ok login => exact ⟨_, login, rfl, hanswer⟩
  · cases h

end Step

namespace Operation

variable {σ α : Type} {op : Operation}

/-- What the law needs to know of a step that does an operation. -/
structure Serves (op : Operation) (m : Step σ α) : Prop where
  tracks : Step.Tracks op.Permits m
  keeps : ∀ {d s w held}, s.Holds held →
    (m d s w).session.config = s.config ∧ (m d s w).session.project = s.project
  /-- only a query logs in, and for its session -/
  posts : ∀ {d s w held}, s.Holds held → ∀ request ∈ (m d s w).requests, request.method = .post →
    request = s.loginRequest ∧ ∃ (shape : Shape) (q : Query shape), op = .ask q
  chooses : ∀ project, op.projectAfter project = project

theorem serves_ask {shape : Shape} (q : Query shape) :
    (ask q).Serves (q.perform : Step σ (Option shape.Value)) where
  tracks := q.perform_tracks
  keeps h := q.perform_keeps h
  posts h _ hrequest hpost := ⟨q.perform_posts h hrequest hpost, shape, q, rfl⟩
  chooses _ := rfl

theorem serves_probe (p : Probe) : (probe p).Serves (Step.probe p : Step σ (Option Float)) where
  tracks := Step.tracks_probe p
  keeps h := ⟨(p.probe_keeps h.sound).2.config, (p.probe_keeps h.sound).2.project⟩
  posts h request hrequest hpost :=
    nomatch hpost.symm.trans (Step.probe_gets h.sound p request hrequest)
  chooses _ := rfl

/-- A query asks its own component. -/
theorem Targets.component_ask {shape : Shape} {q : Query shape} {c : Component}
    {endpoint url : String} (h : Targets (.ask q) c endpoint url) : q.component? = some c := by
  cases h with
  | collection hr => exact Query.component?_of_mem hr
  | lookup hr => exact Query.component?_of_looksUp hr

/-- A probe asks the component that it times. -/
theorem Targets.component_probe {p : Probe} {c : Component} {endpoint url : String}
    (h : Targets (.probe p) c endpoint url) : p.component = c := by
  cases h
  rfl

end Operation

namespace Progress

variable {σ α : Type} {config : Config} {project : Option String} {p : Progress σ}
  {op : Operation} {m : Step σ α} {d : Deployment σ}

/-- The progress after an operation. -/
def after (p : Progress σ) (op : Operation) (o : Outcome σ α) : Progress σ :=
  ⟨o.session, o.state, p.journal ++ op.record o.trace⟩

theorem trace_after (p : Progress σ) (op : Operation) (o : Outcome σ α) :
    (p.after op o).trace = p.trace ++ o.trace := by
  rw [trace, after, eventsOf_append, eventsOf_record]
  rfl

theorem skipped_after (p : Progress σ) (op : Operation) (o : Outcome σ α) :
    (p.after op o).skipped = p.skipped := by
  rw [skipped, after, skippedOf_append, skippedOf_record, List.append_nil]
  rfl

theorem metrics_after (p : Progress σ) (op : Operation) (o : Outcome σ α) :
    metricsOf (p.after op o).journal = metricsOf p.journal := by
  rw [after, metricsOf_append, metricsOf_record, List.append_nil]

/-- The last request for a token before an event of an operation asked for the project's. -/
theorem Ready.asked_during (h : p.Ready config project) (hserves : op.Serves m)
    {earlier rest : List Event} (htrace : (m d p.session p.state).trace = earlier ++ rest)
    {request : Request} {answer : Answer}
    (hpost : lastPost? (p.trace ++ earlier) = some (request, answer)) :
    request.body = some (config.grantFor project).toJson := by
  rw [lastPost?_append] at hpost
  cases hearlier : lastPost? earlier with
  | none =>
    rw [hearlier] at hpost
    exact h.asked request answer hpost
  | some post =>
    rw [hearlier] at hpost
    obtain rfl : post = (request, answer) := Option.some.inj hpost
    obtain ⟨hmethod, purpose, hmem⟩ := mem_of_lastPost? hearlier
    have hrequest : request ∈ (m d p.session p.state).requests := by
      refine mem_requestsOf.2 ⟨purpose, answer, ?_⟩
      rw [htrace]
      exact List.mem_append_left _ hmem
    obtain ⟨rfl, -⟩ := hserves.posts h.holds request hrequest hmethod
    -- the session's own login is for the project that is reported
    change some p.session.grant.toJson = _
    rw [Session.grant, h.configured, h.chosen, h.reported]
    rfl

/-- A token that is held during an operation was issued for the project. -/
theorem Ready.issued (h : p.Ready config project) (hserves : op.Serves m)
    {earlier rest : List Event} (htrace : (m d p.session p.state).trace = earlier ++ rest)
    {login : Login} (hheld : lastLogin config.tokenUrl (p.trace ++ earlier) = some login) :
    Issued config project (p.trace ++ earlier) login.1 := by
  obtain ⟨request, answer, hpost, hanswer⟩ := lastPost?_of_lastLogin hheld
  exact ⟨request, answer, login.2, hpost, h.asked_during hserves htrace hpost, hanswer⟩

/-- Every event of an operation is lawful, if it leaves none where its component was skipped. -/
theorem Ready.lawful_event (h : p.Ready config project) (hserves : op.Serves m)
    (hscope : op.InScope project)
    (hquiet : ∀ c endpoint url, op.Targets c endpoint url → c ∈ p.skipped →
      (m d p.session p.state).trace = [])
    {earlier rest : List Event} {event : Event}
    (htrace : (m d p.session p.state).trace = earlier ++ event :: rest) :
    (Entry.event event).Lawful config (p.journal ++ op.record earlier) := by
  have hpermits := hserves.tracks.permits h.holds htrace
  have hprior : eventsOf (p.journal ++ op.record earlier) = p.trace ++ earlier := by
    rw [eventsOf_append, eventsOf_record]
    rfl
  have hproject : projectOf (p.journal ++ op.record earlier) = project := by
    rw [projectOf_record, hserves.chooses, h.reported]
  have hskipped : skippedOf (p.journal ++ op.record earlier) = p.skipped := by
    rw [skippedOf_append, skippedOf_record, List.append_nil]
    rfl
  rw [h.configured, lastLogin, ← loginAfter_append, ← lastLogin] at hpermits
  -- the login that is held when the event is left, and what is asked under it
  generalize hheld : lastLogin config.tokenUrl (p.trace ++ earlier) = held at hpermits
  cases hpermits with
  | notice held n => exact .notice _ _ n
  | login held hmethod _ _ => exact .login _ _ _ hmethod
  | projects held _ _ htoken =>
    refine ⟨trivial, fun _ => ⟨op, lastOperation_record .., ?_, ?_, fun _ => rfl⟩, trivial⟩
    · rw [hproject]
      exact hscope
    · intro token hsome
      obtain ⟨login, hlogin, rfl⟩ := Option.map_eq_some_iff.1 (htoken.symm.trans hsome)
      rw [hproject, hprior]
      exact h.issued hserves htrace (hheld.trans hlogin)
  | polling _ htarget _ _ htoken =>
    refine ⟨?_, fun _ => ⟨op, lastOperation_record .., ?_, ?_, ?_⟩, trivial⟩
    · change _ ∉ skippedOf _
      rw [hskipped]
      intro hmem
      simpa [htrace] using hquiet _ _ _ htarget hmem
    · rw [hproject]
      exact hscope
    · intro token hsome
      obtain rfl := Option.some.inj (htoken.symm.trans hsome)
      rw [hproject, hprior]
      exact h.issued hserves htrace hheld
    · intro hnone
      cases htoken.symm.trans hnone

/-- No login is held after an operation only if a query lost it. -/
theorem Ready.excused_after (h : p.Ready config project) (hserves : op.Serves m)
    (hnone : lastLogin config.tokenUrl (p.after op (m d p.session p.state)).trace = none) :
    LostLogin config.tokenUrl (p.after op (m d p.session p.state)).journal := by
  rw [trace_after, lastLogin, loginAfter_append, loginAfter_eq] at hnone
  cases hpost : lastPost? (m d p.session p.state).trace with
  | none =>
    rw [hpost] at hnone
    exact (h.excused hnone).append _
  | some post =>
    rw [hpost] at hnone
    obtain ⟨hmethod, purpose, hmem⟩ := mem_of_lastPost? hpost
    obtain ⟨earlier, rest, htrace⟩ := List.append_of_mem hmem
    have hrequest : post.1 ∈ (m d p.session p.state).requests :=
      mem_requestsOf.2 ⟨purpose, post.2, hmem⟩
    obtain ⟨-, shape, q, rfl⟩ := hserves.posts h.holds post.1 hrequest hmethod
    have hpurpose : purpose = .authorization := by
      have hpermits := hserves.tracks.permits h.holds htrace
      generalize loginAfter _ _ earlier = held at hpermits
      cases hpermits with
      | login => rfl
      | projects _ hget | polling _ _ hget => cases hmethod.symm.trans hget
    cases hanswer : Login.ofAnswer config.tokenUrl post.2 with
    | ok login =>
      simp only [hanswer] at hnone
      cases hnone
    | error e =>
      refine ⟨p.journal ++ (Operation.ask q).record earlier, rest.map .event,
        post.1, post.2, shape, q, e, ?_, lastOperation_record .., hanswer⟩
      simp [after, Operation.record, htrace, hpurpose]

/-- **One operation.** A run that reports a project goes on to do so after an operation that belongs
there, if that leaves no trace where its component was skipped. -/
theorem Ready.step (h : p.Ready config project) (hserves : op.Serves m)
    (hscope : op.InScope project)
    (hquiet : ∀ c endpoint url, op.Targets c endpoint url → c ∈ p.skipped →
      (m d p.session p.state).trace = []) :
    (p.after op (m d p.session p.state)).Ready config project where
  lawful := by
    refine h.lawful.append fun before entry rest heq => ?_
    rcases Operation.record_eq_append_cons heq with ⟨rfl, rfl⟩
      | ⟨earlier, event, later, htrace, rfl, rfl⟩
    · exact .operation _ _ op
    · exact h.lawful_event hserves hscope hquiet htrace
  holds := by
    have hholds := hserves.tracks.holds (d := d) (w := p.state) h.holds
    rw [h.configured, lastLogin, ← loginAfter_append, ← trace_after p op] at hholds
    exact hholds
  configured := (hserves.keeps h.holds).1.trans h.configured
  chosen := by
    change (m d p.session p.state).session.project = projectOf (p.journal ++ op.record _)
    rw [projectOf_record, hserves.chooses, ← h.chosen]
    exact (hserves.keeps h.holds).2
  reported := by
    change projectOf (p.journal ++ op.record _) = project
    rw [projectOf_record, hserves.chooses, h.reported]
  asked request answer hpost := by
    rw [trace_after] at hpost
    exact h.asked_during hserves (List.append_nil _).symm hpost
  excused := h.excused_after hserves

/-- A component that is not there is not there by the last catalog, or there is none because a query
lost its login. -/
theorem Ready.warranted (h : p.Ready config project) {c : Component}
    (hendpoint : p.session.endpoint? c = none) :
    (∃ login, lastLogin config.tokenUrl p.trace = some login ∧
      login.2.findUrl? c config.interface = none) ∨ LostLogin config.tokenUrl p.journal := by
  cases hheld : lastLogin config.tokenUrl p.trace with
  | none => exact .inr (h.excused hheld)
  | some login =>
    refine .inl ⟨login, rfl, ?_⟩
    have hholds := h.holds
    rw [hheld] at hholds
    rw [Session.endpoint?, hholds.sound.interface, hholds.catalog, h.configured] at hendpoint
    exact hendpoint

end Progress

/-! ## The parts of a run -/

namespace Run

variable {σ α : Type} {shape : Shape} {d : Deployment σ} {p : Progress σ} {q : Query shape}

/-- An operation is recorded, and what it came to is at hand. -/
theorem step_apply (op : Operation) (m : Step σ α) (d : Deployment σ) (p : Progress σ) :
    step op m d p = ((m d p.session p.state).result, p.after op (m d p.session p.state)) := rfl

/-- What is emitted is written with the common tags. -/
theorem emit_apply (metrics : List Metric) (d : Deployment σ) (p : Progress σ) :
    emit metrics d p = ((), p.write
      ((metrics.map fun m => { m with tags := p.session.baseTags ++ m.tags }).map .metric)) := by
  rw [List.map_map]
  rfl

/-- What is told of a component, given what its probe came to. -/
def tell (c : Component) : Except ApiError (Option Float) → Run σ Unit
  | .ok none => pure ()
  | .ok (some elapsed) => do
    emit [⟨c.responseTimeName, elapsed, []⟩]
    emitCheck c .ok
  | .error (.componentNotFound c) => recordMissing c
  | .error e => do
    note (.unreachable c e)
    skip c
    emitCheck c .critical

/-- Timing a component is its probe, and what is told of it. -/
theorem responseTime_apply (c : Component) (d : Deployment σ) (p : Progress σ) :
    reportResponseTime c d p = tell c (Step.probe (.ofComponent c) d p.session p.state).result d
      (p.after (.probe (.ofComponent c)) (Step.probe (.ofComponent c) d p.session p.state)) := rfl

/-- The remark that a query leaves when it failed, though its component is there. -/
def failureOf (q : Query shape) : Except ApiError (Option shape.Value) → List Entry
  | .ok _ => []
  | .error e => [.event (.notice (.reportFailed q.title e))]

theorem remarks_failureOf (q : Query shape) (result : Except ApiError (Option shape.Value)) :
    ∀ e ∈ failureOf q result, e.IsRemark := by
  cases result <;> simp [failureOf, Entry.IsRemark]

theorem view_failureOf {view : Entry → Option α} (h : ∀ event, view (.event event) = none)
    (q : Query shape) (result : Except ApiError (Option shape.Value)) :
    (failureOf q result).filterMap view = [] := by
  cases result with
  | ok value => rfl
  | error e => exact List.filterMap_cons_none (h _)

/-- The progress after a query whose component is there. -/
def asked {σ : Type} (q : Query shape) (d : Deployment σ) (p : Progress σ) : Progress σ :=
  (p.after (.ask q) (q.perform d p.session p.state)).write
    (failureOf q (q.perform d p.session p.state).result)

/-- A query whose component is there. -/
theorem ask_apply {P : Option shape.Value → Prop}
    (h : Yields P (q.perform d p.session p.state).result) :
    ask q d p = ((q.perform d p.session p.state).result.toOption.join, asked q d p) := by
  rw [ask, bind_apply, step_apply, asked]
  generalize p.after (.ask q) (q.perform d p.session p.state) = p₁
  cases hresult : (q.perform d p.session p.state).result with
  | ok value => simp [failureOf, Progress.write, Except.toOption]
  | error e =>
    rw [hresult] at h
    cases e with
    | componentNotFound c => exact absurd rfl (h c)
    | _ => rfl

/-- The data of a query, if it comes to any. -/
theorem ask_value {shape : Shape} (q : Query shape) (d : Deployment σ) (p : Progress σ) :
    (ask q d p).1 = (q.perform d p.session p.state).result.toOption.join := by
  rw [ask, bind_apply, step_apply]
  cases (q.perform d p.session p.state).result with
  | ok value => rfl
  | error e => cases e <;> rfl

/-- A query that misses a component has it recorded. -/
theorem ask_absent {c : Component}
    (h : (q.perform d p.session p.state).result = .error (.componentNotFound c)) :
    ask q d p =
      (none, (recordMissing c d (p.after (.ask q) (q.perform d p.session p.state))).2) := by
  rw [ask, bind_apply, step_apply, h]
  rfl

/-! ## The journal only grows -/

section Extends

variable {β : Type}

/-- A part that only adds to the journal. -/
def Extends (m : Run σ α) : Prop := ∀ d p, p.journal <+: (m d p).2.journal

theorem extends_pure (a : α) : Extends (pure a : Run σ α) := fun _ _ => List.prefix_refl _

theorem Extends.bind {m : Run σ α} {g : α → Run σ β} (hm : Extends m) (hg : ∀ a, Extends (g a)) :
    Extends (m >>= g) := fun d p => (hm d p).trans (hg _ d _)

theorem extends_get {g : Progress σ → Run σ α} (h : ∀ p, Extends (g p)) : Extends (get >>= g) :=
  fun d p => h p d p

theorem extends_write (entries : List Entry) : Extends (write entries : Run σ Unit) := fun _ _ =>
  List.prefix_append _ _

theorem extends_step (op : Operation) (m : Step σ α) : Extends (step op m) := fun _ _ =>
  List.prefix_append _ _

theorem extends_skip (c : Component) : Extends (skip c : Run σ Unit) := by
  refine extends_get fun p => ?_
  split
  · exact extends_pure ()
  · exact extends_write _

theorem extends_recordMissing (c : Component) : Extends (recordMissing c : Run σ Unit) := by
  refine (extends_skip c).bind fun _ => extends_get fun p => ?_
  split
  · exact extends_pure ()
  · exact (extends_write _).bind fun _ => extends_write _

/-- A query leaves the record of its operation, and what is written behind it. -/
theorem ask_extends (q : Query shape) (d : Deployment σ) (p : Progress σ) :
    (p.after (.ask q) (q.perform d p.session p.state)).journal <+: (ask q d p).2.journal := by
  rw [ask, bind_apply, step_apply]
  cases (q.perform d p.session p.state).result with
  | ok value => exact List.prefix_refl _
  | error e =>
    cases e with
    | componentNotFound c => exact extends_recordMissing c d _
    | _ => exact List.prefix_append _ _

theorem extends_ask (q : Query shape) : Extends (ask q : Run σ (Option shape.Value)) := fun d p =>
  (List.prefix_append _ _).trans (ask_extends q d p)

theorem extends_emit (metrics : List Metric) : Extends (emit metrics : Run σ Unit) :=
  extends_get fun _ => extends_write _

end Extends

end Run

/-- A run begins with the new session of its configuration. -/
theorem Check.run_of_new {σ : Type} {config : Config} {s : Session}
    (hnew : Session.new config = .ok s) (d : Deployment σ) (w : σ) :
    Check.run config d w = .ok (Run.reportDeployment d (start s w)).2 := by
  rw [Check.run, hnew]
  rfl

end StackWatch
