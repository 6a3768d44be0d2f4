import StackWatch.Proofs.Composition
import StackWatch.Proofs.Beside

/-!
# What a stretch of a run adds

Under a login that would be granted again, a query enters none but its own URLs
(`Query.perform_grows`). So a stretch of sections whose components are there grows by the
URLs of the queries that it asks, and writes nothing but those queries, notices and
metrics (`Run.Stretch.grown`).
-/

namespace StackWatch

/-! ## Sessions -/

/-- A session that goes on under its login, and has read none but some new URLs. -/
structure Session.Grows (answer : Request → Answer) (login : Login) (urls : List String)
    (s s' : Session) : Prop where
  steady : s'.Steady answer login
  akin : s.Akin s'
  kept : s.ledger.urls ⊆ s'.ledger.urls
  new : ∀ url ∈ s'.ledger.urls, url ∈ s.ledger.urls ∨ url ∈ urls

namespace Session.Grows

variable {answer : Request → Answer} {login : Login} {urls urls' : List String} {s s' s'' : Session}

theorem refl (h : s.Steady answer login) : s.Grows answer login urls s :=
  ⟨h, .refl s, List.Subset.refl _, fun _ => .inl⟩

theorem trans (h : s.Grows answer login urls s') (h' : s'.Grows answer login urls' s'') :
    s.Grows answer login (urls ++ urls') s'' where
  steady := h'.steady
  akin := h.akin.trans h'.akin
  kept := List.Subset.trans h.kept h'.kept
  new url hurl := by
    rcases h'.new url hurl with hurl | hurl
    · exact (h.new url hurl).imp_right (List.mem_append_left _)
    · exact .inr (List.mem_append_right _ hurl)

/-- What is read twice is no more than what is read. -/
theorem again (h : s.Grows answer login urls s') (h' : s'.Grows answer login urls s'') :
    s.Grows answer login urls s'' :=
  ⟨h'.steady, h.akin.trans h'.akin, List.Subset.trans h.kept h'.kept,
    fun url hurl => (h'.new url hurl).elim (h.new url) .inr⟩

theorem relogged (h : s.Steady answer login) : s.Grows answer login urls (s.relogged login) :=
  ⟨(h.relogged "").1, h.akin_relogged, List.Subset.refl _, fun _ => .inl⟩

end Session.Grows

namespace Query

variable {shape : Shape} {answer : Request → Answer} {login : Login} {s : Session}

/-- An attempt enters none but the URLs of its query. -/
theorem attempt_grows (h : s.Steady answer login) (q : Query shape) :
    s.Grows answer login ((Operation.ask q).urls s.config login.2)
      (q.attempt (.stateless answer) s ()).session := by
  obtain ⟨hsound, hsame⟩ := q.attempt_keeps (d := .stateless answer) (w := ()) h.holds.sound
  have hsteady := h.of_sameLogin hsound hsame
  by_cases hdata : ∃ value, (q.attempt (.stateless answer) s ()).result = .ok (some value)
  · obtain ⟨value, hdata⟩ := hdata
    cases hq : q.component? with
    | none =>
      cases q <;> try cases hq
      have hsession : (authProjects.attempt (.stateless answer) s ()).session = s :=
        (Step.looks_authProjects _ s ()).1
      rw [hsession]
      exact .refl h
    | some c =>
      obtain ⟨endpoint, read, nested, hendpoint, hread, -, -, -, hledger⟩ :=
        q.attempt_of_data h.holds.sound hq hdata
      have hentered : ∀ url, url ∈ (q.attempt (.stateless answer) s ()).session.ledger.urls ↔
          url ∈ s.ledger.urls ∨ url ∈ read.map (·.url endpoint) := fun url => by
        rw [hledger, Ledger.mem_urls_foldl_insert]
      refine ⟨hsteady, .of_sameLogin hsame, fun url hurl =>
        (hentered url).2 (.inl hurl), fun url hurl => ?_⟩
      refine ((hentered url).1 hurl).imp_right fun hmem => ?_
      obtain ⟨r, hr, rfl⟩ := List.mem_map.1 hmem
      have hcomponent := Option.some.inj (hq.symm.trans (component?_of_mem (hread.subset hr)))
      rw [h.endpoint?, hcomponent] at hendpoint
      exact Operation.mem_urls (hread.subset hr) hendpoint
  · have hledger := q.attempt_ledger_of_no_data (d := .stateless answer) (w := ()) h.holds.sound
      fun value hvalue => hdata ⟨value, hvalue⟩
    refine ⟨hsteady, .of_sameLogin hsame, ?_, fun url hurl => .inl ?_⟩
    · rw [hledger]
      exact List.Subset.refl _
    · rwa [hledger] at hurl

/-- **A query** under a login that would be granted again enters none but its own URLs. -/
theorem perform_grows (h : s.Steady answer login) (q : Query shape) :
    s.Grows answer login ((Operation.ask q).urls s.config login.2)
      (q.perform (.stateless answer) s ()).session := by
  have hfirst := attempt_grows h q
  have hrestart : q.restart (.stateless answer) s () =
      (q.attempt (.stateless answer) s ()).session.relogged login :=
    congrArg Outcome.session hfirst.steady.authorize
  have hagain := hfirst.again (.relogged hfirst.steady)
  rw [← hrestart] at hagain
  have hsecond := attempt_grows hagain.steady q
  rw [hagain.akin.config] at hsecond
  cases q.course (.stateless answer) s () with
  | served _ hwhole | failed _ _ _ hwhole | broken _ _ hwhole =>
    rw [hwhole]
    exact hfirst
  | locked _ _ hlogin =>
    -- the login does not fail
    rw [hfirst.steady.authorize] at hlogin
    cases hlogin
  | again _ _ _ _ hwhole | lost _ _ _ _ hwhole =>
    rw [hwhole]
    exact hagain.again hsecond

end Query

/-! ## Runs -/

/-- The URLs of the operations that a journal records. -/
def urlsOf (config : Config) (catalog : Catalog) (journal : List Entry) : List String :=
  (operationsOf journal).flatMap (·.urls config catalog)

@[simp] theorem urlsOf_append (config : Config) (catalog : Catalog) (before after : List Entry) :
    urlsOf config catalog (before ++ after) = urlsOf config catalog before ++
      urlsOf config catalog after := by
  rw [urlsOf, operationsOf_append, List.flatMap_append]
  rfl

/-- Entries that choose no project. -/
def Steadfast (entries : List Entry) : Prop :=
  ∀ op ∈ operationsOf entries, ∀ project, op.projectAfter project = project

theorem Steadfast.append {entries later : List Entry} (h : Steadfast entries)
    (h' : Steadfast later) : Steadfast (entries ++ later) := by
  intro op hop
  rw [operationsOf_append] at hop
  exact (List.mem_append.1 hop).elim (h op) (h' op)

theorem steadfast_remarks {remarks : List Entry} (h : ∀ e ∈ remarks, e.IsRemark) :
    Steadfast remarks := by
  rw [Steadfast, operationsOf_remarks h]
  exact nofun

theorem steadfast_record {op : Operation} (trace : List Event)
    (h : ∀ project, op.projectAfter project = project) : Steadfast (op.record trace) := by
  intro op' hop'
  rw [operationsOf_record] at hop'
  rw [List.mem_singleton.1 hop']
  exact h

/-- Entries that choose no project, and tell nothing of any component. -/
structure Quiet (entries : List Entry) : Prop where
  checks : checksOf entries = []
  missing : missingOf entries = []
  skipped : skippedOf entries = []
  project : Steadfast entries

theorem Quiet.append {entries entries' : List Entry} (h : Quiet entries) (h' : Quiet entries') :
    Quiet (entries ++ entries') where
  checks := by rw [checksOf_append, h.checks, h'.checks, List.append_nil]
  missing := by rw [missingOf_append, h.missing, h'.missing, List.append_nil]
  skipped := by rw [skippedOf_append, h.skipped, h'.skipped, List.append_nil]
  project := h.project.append h'.project

theorem quiet_metrics (metrics : List Metric) : Quiet (metrics.map .metric) where
  checks := view_metrics metrics fun _ => rfl
  missing := view_metrics metrics fun _ => rfl
  skipped := view_metrics metrics fun _ => rfl
  project := steadfast_remarks (remarks_metrics metrics)

theorem quiet_record (op : Operation) (trace : List Event)
    (h : ∀ project, op.projectAfter project = project) : Quiet (op.record trace) where
  checks := checksOf_record op trace
  missing := missingOf_record op trace
  skipped := skippedOf_record op trace
  project := steadfast_record trace h

namespace Run

variable {α : Type} {answer : Request → Answer} {config : Config} {login : Login} {c : Component}
  {d : Deployment Unit} {p p' p'' : Progress Unit} {entries entries' : List Entry}

/-- A run that reports under a login that would be granted again. -/
structure Afoot (answer : Request → Answer) (config : Config) (login : Login)
    (p : Progress Unit) : Prop where
  steady : p.session.Steady answer login
  configured : p.session.config = config

/-- What a part of a run has added: quiet entries, and the URLs that were asked for. -/
structure Grown (answer : Request → Answer) (config : Config) (login : Login) (entries : List Entry)
    (p p' : Progress Unit) : Prop where
  journal : p'.journal = p.journal ++ entries
  quiet : Quiet entries
  grows : p.session.Grows answer login (urlsOf config login.2 entries) p'.session

namespace Grown

theorem afoot (h : Grown answer config login entries p p') (hp : Afoot answer config login p) :
    Afoot answer config login p' := ⟨h.grows.steady, h.grows.akin.config.trans hp.configured⟩

theorem refl (hp : Afoot answer config login p) : Grown answer config login [] p p :=
  ⟨(List.append_nil _).symm, ⟨rfl, rfl, rfl, nofun⟩, .refl hp.steady⟩

theorem trans (h : Grown answer config login entries p p')
    (h' : Grown answer config login entries' p' p'') :
    Grown answer config login (entries ++ entries') p p'' where
  journal := by rw [h'.journal, h.journal, List.append_assoc]
  quiet := h.quiet.append h'.quiet
  grows := by
    rw [urlsOf_append]
    exact h.grows.trans h'.grows

/-- What both parts have added is what the whole has. -/
theorem eq_append {all : List Entry} (h : Grown answer config login entries p p')
    (h' : Grown answer config login entries' p' p'') (hall : p''.journal = p.journal ++ all) :
    all = entries ++ entries' :=
  List.append_cancel_left (hall.symm.trans (h.trans h').journal)

theorem skipped (h : Grown answer config login entries p p') : p'.skipped = p.skipped := by
  rw [Progress.skipped, Progress.skipped, h.journal, skippedOf_append,
    h.quiet.skipped, List.append_nil]

end Grown

/-- Where its component is there, a query grows by its own URLs, and tells
nothing but that it failed. -/
theorem grown_ask (hp : Afoot answer config login p) {shape : Shape} {q : Query shape}
    (hq : q.component? = some c) {endpoint : String}
    (hendpoint : login.2.findUrl? c config.interface = some endpoint) :
    ∃ entries, Grown answer config login entries p (ask q (.stateless answer) p).2 ∧
      .ask q ∈ operationsOf entries := by
  have hpresent : p.session.endpoint? c = some endpoint := by
    rw [hp.steady.endpoint?, hp.configured]
    exact hendpoint
  have hgrows := q.perform_grows hp.steady
  rw [hp.configured] at hgrows
  rw [ask_apply (Query.perform_yields hp.steady.holds hq hpresent)]
  generalize hfailure :
    failureOf q (q.perform (.stateless answer) p.session p.state).result = failure
  have hremarks : ∀ e ∈ failure, e.IsRemark := hfailure ▸ remarks_failureOf q _
  have hview : ∀ {ι : Type} {view : Entry → Option ι}, (∀ event, view (.event event) = none) →
      failure.filterMap view = [] := fun h => hfailure ▸ view_failureOf h q _
  generalize htrace : (q.perform (.stateless answer) p.session p.state).trace = trace
  have hops : operationsOf ((Operation.ask q).record trace ++ failure) = [.ask q] := by
    rw [operationsOf_append, operationsOf_record, operationsOf_remarks hremarks, List.append_nil]
  refine ⟨(Operation.ask q).record trace ++ failure, ⟨?_, ?_, ?_⟩, by rw [hops]; simp⟩
  · change p.journal ++ _ ++ _ = _
    rw [htrace, hfailure, List.append_assoc]
  · exact (quiet_record _ _ fun _ => rfl).append
      ⟨hview fun _ => rfl, hview fun _ => rfl, hview fun _ => rfl, steadfast_remarks hremarks⟩
  · rw [urlsOf, hops, List.flatMap_singleton]
    exact hgrows

/-- **What is made of queries and metrics** grows by what it asks for. By induction on the part. -/
theorem Part.grown {m : Run Unit α} (hm : Part c m) {endpoint : String}
    (hendpoint : login.2.findUrl? c config.interface = some endpoint)
    (hp : Afoot answer config login p) :
    ∃ entries, Grown answer config login entries p (m (.stateless answer) p).2 := by
  induction hm generalizing p with
  | pure a => exact ⟨[], .refl hp⟩
  | @bind α β m f _ _ ihm ihf =>
    obtain ⟨entries, hfirst⟩ := ihm hp
    obtain ⟨entries', hrest⟩ := ihf (m (.stateless answer) p).1 (hfirst.afoot hp)
    exact ⟨entries ++ entries', hfirst.trans hrest⟩
  | ask q hq =>
    obtain ⟨entries, hgrown, -⟩ := grown_ask hp hq hendpoint
    exact ⟨entries, hgrown⟩
  | emit metrics =>
    rw [emit_apply]
    refine ⟨_, rfl, quiet_metrics _, ?_⟩
    exact .refl hp.steady
  | configured asks _ ih =>
    rw [bind_apply, get_apply, ite_apply]
    split
    · exact ih hp
    · exact ⟨[], .refl hp⟩

/-- Every component that was not given up is in the catalog. -/
def Served (config : Config) (catalog : Catalog) (p : Progress Unit) : Prop :=
  ∀ c, c ∉ p.skipped → ∃ endpoint, catalog.findUrl? c config.interface = some endpoint

theorem Served.of_skipped {catalog : Catalog} (h : Served config catalog p)
    (hskipped : p'.skipped = p.skipped) :
    Served config catalog p' := fun c hc => h c (hskipped ▸ hc)

/-- **What is made of sections** grows by what it asks for. By induction on the stretch. -/
theorem Stretch.grown {m : Run Unit α} (hm : Stretch m) (hserved : Served config login.2 p)
    (hp : Afoot answer config login p) :
    ∃ entries, Grown answer config login entries p (m (.stateless answer) p).2 := by
  induction hm generalizing p with
  | pure a => exact ⟨[], .refl hp⟩
  | @bind α β m f _ _ ihm ihf =>
    obtain ⟨entries, hfirst⟩ := ihm hserved hp
    obtain ⟨entries', hrest⟩ :=
      ihf (m (.stateless answer) p).1 (hserved.of_skipped hfirst.skipped) (hfirst.afoot hp)
    exact ⟨entries ++ entries', hfirst.trans hrest⟩
  | sectionOf c hm =>
    rw [unlessSkipped, bind_apply, get_apply, ite_apply]
    split
    · exact ⟨[], .refl hp⟩
    · rename_i hc
      obtain ⟨endpoint, hendpoint⟩ := hserved c hc
      exact hm.grown hendpoint hp

end Run

end StackWatch
