import StackWatch.Proofs.Conduct

/-!
# Every run keeps to the law

The journal of every run is lawful (`Check.run_lawful`). The proof follows the run:
`Run.Leads I m J` says that a part which begins where `I` holds ends where `J` does. Every section
has one such lemma, put together from those of its queries. A section keeps the invariant of its
component (`Within`), and what stands between the sections keeps that of the project (`Ready`).
-/

namespace StackWatch

namespace Run

variable {σ α β : Type} {I I' : Progress σ → Prop} {J J' : α → Progress σ → Prop}

/-! ## Parts of a run -/

/-- A part that begins where one thing holds ends where another does. -/
def Leads (I : Progress σ → Prop) (m : Run σ α) (J : α → Progress σ → Prop) : Prop :=
  ∀ d p, I p → J (m d p).1 (m d p).2

/-- A part that keeps an invariant. -/
abbrev Keeps (I : Progress σ → Prop) (m : Run σ α) : Prop := Leads I m fun _ => I

theorem leads_pure {a : α} (h : ∀ p, I p → J a p) : Leads I (pure a) J := fun _ p hp => h p hp

theorem Leads.bind {m : Run σ α} {f : α → Run σ β} {K : β → Progress σ → Prop} (hm : Leads I m J)
    (hf : ∀ a, Leads (J a) (f a) K) : Leads I (m >>= f) K := fun d p hp =>
  hf _ d _ (hm d p hp)

theorem Leads.mono {m : Run σ α} (hm : Leads I m J) (hI : ∀ p, I' p → I p)
    (hJ : ∀ a p, J a p → J' a p) : Leads I' m J' := fun d p hp => hJ _ _ (hm d p (hI p hp))

/-- A part that goes by the progress as it stands. -/
theorem leads_get {f : Progress σ → Run σ α}
    (h : ∀ p₀, Leads (fun p => I p ∧ p = p₀) (f p₀) J) : Leads I (get >>= f) J := fun d p hp =>
  h p d p ⟨hp, rfl⟩

theorem Keeps.forEach {ι : Type} {f : ι → Run σ Unit} :
    ∀ {items : List ι}, (∀ a ∈ items, Keeps I (f a)) → Keeps I (forEach f items)
  | [], _ => leads_pure fun _ hp => hp
  | a :: rest, h => by
    refine Leads.bind (h a (List.mem_cons_self ..)) fun _ => ?_
    exact Keeps.forEach fun b hb => h b (List.mem_cons_of_mem _ hb)

end Run

/-! ## Writing -/

namespace Progress

variable {σ : Type} {config : Config} {project : Option String} {c : Component} {p p' : Progress σ}

/-- What a component leaves when it is skipped: nothing else changes. -/
structure Skips (config : Config) (project : Option String) (c : Component) (p p' : Progress σ) :
    Prop where
  ready : p'.Ready config project
  session : p'.session = p.session
  skipped : ∀ c', c' ∈ p'.skipped ↔ c' ∈ p.skipped ∨ c' = c
  metrics : metricsOf p'.journal = metricsOf p.journal
  last : lastOperation p'.journal = lastOperation p.journal

theorem Skips.write (h : p.Skips config project c p') {entry : Entry} (hremark : entry.IsRemark)
    (hlaw : entry.Lawful config p'.journal) (hskipped : entry.skipped? = none)
    (hmetric : entry.metric? = none) : p.Skips config project c (p'.write [entry]) where
  ready := h.ready.write_single hremark hlaw
  session := h.session
  skipped c' := by
    have hnone : skippedOf [entry] = [] := List.filterMap_cons_none hskipped
    rw [skipped_write, hnone, List.append_nil]
    exact h.skipped c'
  metrics := by
    have hnone : metricsOf [entry] = [] := List.filterMap_cons_none hmetric
    rw [Progress.write, metricsOf_append, hnone, List.append_nil]
    exact h.metrics
  last := (lastOperation_remarks (by simpa using hremark)).trans h.last

theorem Ready.skip (h : p.Ready config project) (c : Component) (d : Deployment σ) :
    p.Skips config project c (Run.skip c d p).2 := by
  have hrun : (Run.skip c d p).2 = if c ∈ p.skipped then p else p.write [.skipped c] := by
    rw [Run.skip, Run.bind_apply, Run.ite_apply, Run.get_apply]
    split <;> rfl
  rw [hrun]
  split
  · rename_i hmem
    refine ⟨h, rfl, fun c' => ⟨.inl, ?_⟩, rfl, rfl⟩
    rintro (hmem' | rfl)
    · exact hmem'
    · exact hmem
  · refine ⟨h.write_single trivial (.skipped _ _ c), rfl, fun c' => ?_, ?_, ?_⟩
    · rw [skipped_write, List.mem_append]
      exact or_congr_right List.mem_singleton
    · rw [Progress.write, metricsOf_append]
      exact List.append_nil _
    · exact lastOperation_remarks (by simp [Entry.IsRemark])

/-- A component may be found missing where the session has no endpoint for it. -/
theorem Ready.recordMissing (h : p.Ready config project) (hendpoint : p.session.endpoint? c = none)
    (hprobe : ∀ probe, lastOperation p.journal = some (.probe probe) → Unmeasured c p.journal)
    (d : Deployment σ) : p.Skips config project c (Run.recordMissing c d p).2 := by
  have hskip := h.skip c d
  have hrun : (Run.recordMissing c d p).2 =
      if c ∈ (Run.skip c d p).2.report.missing then (Run.skip c d p).2
      else ((Run.skip c d p).2.write [.event (.notice (.componentMissing c))]).write
        [.missing c] := by
    rw [Run.recordMissing, Run.bind_apply, Run.bind_apply, Run.ite_apply, Run.get_apply]
    split <;> rfl
  rw [hrun]
  generalize (Run.skip c d p).2 = p₁ at hskip
  split
  · exact hskip
  · have hnoted : p.Skips config project c (p₁.write [.event (.notice (.componentMissing c))]) :=
      hskip.write trivial (.notice _ _ _) rfl rfl
    refine hnoted.write trivial ⟨⟨?_, fun probe hlast => ?_⟩, trivial, ?_⟩ rfl rfl
    · exact (hnoted.skipped c).2 (.inr rfl)
    · rw [hnoted.last] at hlast
      rw [Unmeasured, hnoted.metrics]
      exact hprobe probe hlast
    · refine hnoted.ready.warranted ?_
      rw [hnoted.session]
      exact hendpoint

end Progress

namespace Run

variable {σ α : Type} {config : Config} {project : Option String} {c : Component}

open Progress

/-! ## Queries -/

/-- What an operation on a component comes to: the component is not there, or it is there, was not
skipped, and there may be data of which something holds. -/
inductive Answered {σ α : Type} (c : Component) (P : α → Prop) (p : Progress σ) :
    Except ApiError α → Prop where
  | absent (hendpoint : p.session.endpoint? c = none) :
      Answered c P p (.error (.componentNotFound c))
  | present {result : Except ApiError α} (hc : c ∉ p.skipped) (hresult : Yields P result) :
      Answered c P p result

theorem leads_step_ask {shape : Shape} {q : Query shape} (hq : q.component? = some c)
    (hscope : q.InScope project) :
    Leads (σ := σ) (Within config project c) (step (.ask q) q.perform) fun result p =>
      p.Ready config project ∧ lastOperation p.journal = some (.ask q) ∧
        Answered c c.NamesAny p result := by
  intro d p h
  refine ⟨h.step (Operation.serves_ask q) hscope fun c' endpoint url htarget hskipped => ?_,
    lastOperation_record .., ?_⟩
  · obtain rfl : c = c' := Option.some.inj (hq.symm.trans htarget.component_ask)
    rw [Query.perform_absent h.holds.sound hq (h.absent hskipped)]
  · change Answered c _ (p.after (.ask q) (q.perform d p.session p.state))
      (q.perform d p.session p.state).result
    cases hendpoint : p.session.endpoint? c with
    | none =>
      rw [Query.perform_absent h.holds.sound hq hendpoint]
      exact .absent hendpoint
    | some endpoint =>
      refine .present ?_ (Query.perform_yields h.holds hq hendpoint)
      rw [skipped_after]
      exact h.notMem_skipped hendpoint

/-- A notice may be written anywhere. -/
theorem ready_note {p : Progress σ} (h : p.Ready config project) (n : Notice) :
    (p.write [.event (.notice n)]).Ready config project := h.write_single trivial (.notice _ _ n)

theorem skipped_note (p : Progress σ) (n : Notice) :
    (p.write [.event (.notice n)]).skipped = p.skipped := by
  rw [skipped_write]
  exact List.append_nil _

/-- **A query in the section of its component.** Where it comes to data, the component was not
skipped, and the data are the component's. -/
theorem leads_ask {shape : Shape} {q : Query shape} (hq : q.component? = some c)
    (hscope : q.InScope project) :
    Leads (σ := σ) (Within config project c) (ask q) fun value p =>
      p.Within config project c ∧ ∀ v, value = some v → c ∉ p.skipped ∧ c.NamesData v := by
  refine (leads_step_ask hq hscope).bind fun result d p hp => ?_
  obtain ⟨hready, hlast, hanswered⟩ := hp
  cases hanswered with
  | absent hendpoint =>
    have hloss := hready.recordMissing hendpoint (fun _ hprobe => nomatch hlast.symm.trans hprobe) d
    refine ⟨⟨hloss.ready, fun _ => ?_⟩, nofun⟩
    change (recordMissing c d p).2.session.endpoint? c = none
    rw [hloss.session]
    exact hendpoint
  | present hc hresult =>
    cases result with
    | ok value => exact ⟨hready.within hc, fun v hv => ⟨hc, hresult v hv⟩⟩
    | error e =>
      have hnoted : (p.write [.event (.notice (.reportFailed q.title e))]).Within
          config project c :=
        (ready_note hready _).within (by rwa [skipped_note])
      cases e with
      | componentNotFound c' => exact absurd rfl (hresult c')
      | _ => exact ⟨hnoted, nofun⟩

/-! ## Emitting -/

/-- What is reported of a component that was not skipped. -/
theorem leads_emit {metrics : List Metric} (h : ∀ m ∈ metrics, c.Details m.name) :
    Leads (σ := σ) (fun p => p.Within config project c ∧ c ∉ p.skipped) (emit metrics)
      fun _ p => p.Within config project c ∧ c ∉ p.skipped := by
  rintro d p ⟨hwithin, hc⟩
  rw [emit_apply]
  have hskipped : ∀ metrics : List Metric, skippedOf (metrics.map .metric) = [] := fun metrics =>
    view_metrics metrics fun _ => rfl
  have hready : (p.write ((metrics.map fun m =>
      { m with tags := p.session.baseTags ++ m.tags }).map .metric)).Ready config project := by
    refine hwithin.toReady.write (remarks_metrics _) fun before entry after heq => ?_
    obtain ⟨earlier, later, hmetrics, rfl, hlater⟩ := List.map_eq_append_iff.1 heq
    obtain ⟨m, rest, rfl, rfl, -⟩ := List.map_eq_cons_iff.1 hlater
    refine ⟨fun c' hc' => ?_, trivial, trivial⟩
    obtain ⟨m', hm', rfl⟩ : ∃ m' ∈ metrics, { m' with tags := p.session.baseTags ++ m'.tags } = m :=
      List.mem_map.1 (by rw [hmetrics]; simp)
    obtain rfl : c' = c := Component.names_unique hc' (h m' hm').names
    rw [skippedOf_append, hskipped, List.append_nil]
    exact hc
  have hc' : c ∉ (p.write ((metrics.map fun m =>
      { m with tags := p.session.baseTags ++ m.tags }).map .metric)).skipped := by
    rw [skipped_write, hskipped, List.append_nil]
    exact hc
  exact ⟨hready.within hc', hc'⟩

/-- A part that goes by the data of a query, and reports only of the query's component. -/
theorem leads_with {shape : Shape} {q : Query shape} {β : Type} {J : β → Progress σ → Prop}
    {f : Option shape.Value → Run σ β} (hq : q.component? = some c) (hscope : q.InScope project)
    (hnone : Leads (Within config project c) (f none) J)
    (hsome : ∀ v, c.NamesData v →
      Leads (fun p => p.Within config project c ∧ c ∉ p.skipped) (f (some v)) J) :
    Leads (Within config project c) (ask q >>= f) J := by
  refine (leads_ask hq hscope).bind fun value => ?_
  cases value with
  | none => exact hnone.mono (fun _ hp => hp.1) fun _ _ h => h
  | some v =>
    intro d p hp
    obtain ⟨hwithin, hdata⟩ := hp
    obtain ⟨hc, hnames⟩ := hdata v rfl
    exact hsome v hnames d p ⟨hwithin, hc⟩

/-- Asking for a collection and reporting it. -/
theorem keeps_entities {q : Query .entities} {series : Series} {tags : List String}
    (hq : q.component? = some c) (hseries : series.component = c) (hscope : q.InScope project) :
    Keeps (σ := σ) (Within config project c) (reportEntities q series tags) := by
  subst hseries
  refine leads_with hq hscope (leads_pure fun _ hp => hp) fun entities hnames => ?_
  exact (leads_emit (series.details_gauges hnames tags)).bind fun _ => leads_pure fun _ hp => hp.1

theorem keeps_listing {l : Listing} {series : Series} {tags : List String}
    (hl : l.component = c) (hseries : series.component = c) (hscope : l.InScope project) :
    Keeps (σ := σ) (Within config project c) (reportListing l series tags) :=
  Leads.bind (keeps_entities (congrArg some hl) hseries hscope) fun _ => leads_pure fun _ hp => hp

theorem keeps_figures {q : Query .figures} {tags : List String} (hq : q.component? = some c)
    (hscope : q.InScope project) :
    Keeps (σ := σ) (Within config project c) (reportFigures q tags) := by
  refine leads_with hq hscope (leads_pure fun _ hp => hp) fun figures hnames => ?_
  exact (leads_emit (details_gauges hnames tags)).mono (fun _ hp => hp) fun _ _ hp => hp.1

/-- A section is passed over if its component was skipped. -/
theorem Keeps.unlessSkipped {part : Run σ Unit} (h : Keeps (Within config project c) part) :
    Keeps (Ready config project) (unlessSkipped c part) := by
  refine leads_get fun p₀ => ?_
  split
  · exact leads_pure fun _ hp => hp.1
  · rename_i hc
    refine Leads.mono h (fun p hp => ?_) fun _ _ hp => hp.toReady
    obtain ⟨hready, rfl⟩ := hp
    exact hready.within hc

/-! ## Sections without a project -/

theorem keeps_groupUsers (group : String × Entity) :
    Keeps (σ := σ) (Within config none .identity) (reportGroupUsers group) := by
  refine leads_with (q := .listing (.groupUsers group.1)) rfl rfl (leads_pure fun _ hp => hp)
    fun users _ => ?_
  refine (leads_emit fun m hm => ?_).mono (fun _ hp => hp) fun _ _ hp => hp.1
  obtain rfl := List.mem_singleton.1 hm
  exact ⟨"groups", "users", rfl⟩

theorem keeps_membership (groups : KeyMap Entity) :
    Keeps (σ := σ) (Within config none .identity) (reportMembership groups) := by
  refine leads_get fun p₀ => ?_
  split
  · exact (Keeps.forEach fun group _ => keeps_groupUsers group).mono (fun _ hp => hp.1)
      fun _ _ hp => hp
  · exact leads_pure fun _ hp => hp.1

theorem keeps_identity : Keeps (σ := σ) (Ready config none) reportIdentity := by
  refine Keeps.unlessSkipped ?_
  refine Leads.bind (keeps_listing rfl rfl rfl) fun _ => ?_
  refine Leads.bind (keeps_listing rfl rfl rfl) fun _ => ?_
  refine Leads.bind (keeps_listing rfl rfl rfl) fun _ => ?_
  refine Leads.bind (keeps_entities rfl rfl rfl) fun groups => ?_
  refine (keeps_membership groups).bind fun _ => ?_
  refine Leads.bind (keeps_listing rfl rfl rfl) fun _ => ?_
  exact Leads.bind (keeps_entities rfl rfl rfl) fun _ => leads_pure fun _ hp => hp

theorem keeps_compute : Keeps (σ := σ) (Ready config none) reportCompute := by
  refine Keeps.unlessSkipped ?_
  refine Leads.bind (keeps_figures rfl rfl) fun _ => ?_
  refine Leads.bind (keeps_listing rfl rfl rfl) fun _ => ?_
  refine Leads.bind (keeps_listing rfl rfl rfl) fun _ => ?_
  exact Leads.bind (keeps_listing rfl rfl rfl) fun _ => keeps_listing rfl rfl rfl

theorem keeps_network : Keeps (σ := σ) (Ready config none) reportNetwork := by
  refine Keeps.unlessSkipped ?_
  exact keeps_listing rfl rfl rfl

theorem keeps_baremetal : Keeps (σ := σ) (Ready config none) reportBaremetal := by
  refine Keeps.unlessSkipped ?_
  exact Leads.bind (keeps_listing rfl rfl rfl) fun _ => keeps_listing rfl rfl rfl

theorem keeps_loadBalancer : Keeps (σ := σ) (Ready config none) reportLoadBalancer := by
  refine Keeps.unlessSkipped ?_
  exact keeps_listing rfl rfl rfl

/-! ## Sections of a project -/

section Project

variable {id : String} {tags : List String}

theorem Keeps.ifStatistics {I : Progress σ → Prop} {part : Run σ Unit} (h : Keeps I part) :
    Keeps I (ifStatistics part) := by
  refine leads_get fun p₀ => ?_
  split
  · exact Leads.mono h (fun _ hp => hp.1) fun _ _ hp => hp
  · exact leads_pure fun _ hp => hp.1

theorem keeps_amphora (amphora : String) :
    Keeps (σ := σ) (Within config (some id) .loadBalancer) (reportAmphora tags amphora) :=
  keeps_listing rfl rfl rfl

theorem keeps_balancer (balancer : String) :
    Keeps (σ := σ) (Within config (some id) .loadBalancer) (reportBalancer tags balancer) := by
  refine Leads.bind (Keeps.ifStatistics (keeps_figures rfl rfl)) fun _ => ?_
  refine leads_with (q := .listing (.amphoraeOf balancer)) rfl rfl (leads_pure fun _ hp => hp)
    fun amphorae _ => ?_
  refine (Keeps.ifStatistics (Keeps.forEach fun amphora _ => keeps_amphora amphora)).mono
    (fun _ hp => hp.1) fun _ _ hp => hp

theorem keeps_balancers :
    Keeps (σ := σ) (Within config (some id) .loadBalancer) (reportBalancers id tags) := by
  refine Leads.bind (keeps_entities rfl rfl rfl) fun balancers => ?_
  refine Leads.bind (Keeps.forEach fun balancer _ => keeps_balancer balancer) fun _ => ?_
  refine Leads.bind (keeps_entities rfl rfl rfl) fun listeners => ?_
  refine Leads.bind (Keeps.ifStatistics (Keeps.forEach fun _ _ => keeps_figures rfl rfl))
    fun _ => ?_
  refine Leads.bind (keeps_entities rfl rfl rfl) fun pools => ?_
  refine Leads.bind (Keeps.forEach fun _ _ => keeps_listing rfl rfl rfl) fun _ => ?_
  exact keeps_listing rfl rfl rfl

theorem keeps_servers :
    Keeps (σ := σ) (Within config (some id) .compute) (reportServers id tags) := by
  refine Leads.bind (keeps_entities rfl rfl rfl) fun _ => ?_
  exact Leads.bind (keeps_entities rfl rfl rfl) fun _ => leads_pure fun _ hp => hp

theorem keeps_networkQuotas :
    Keeps (σ := σ) (Within config (some id) .network) (reportNetworkQuotas id tags) := by
  refine leads_with (q := .networkQuotas id) rfl rfl (leads_pure fun _ hp => hp)
    fun quotas hnames => ?_
  refine (Keeps.forEach fun quota hquota => leads_emit fun m hm => ?_).mono (fun _ hp => hp)
    fun _ _ hp => hp.1
  obtain ⟨entry, hentry, rfl⟩ := List.mem_map.1 hquota
  exact details_gauges (hnames entry hentry) _ m hm

theorem keeps_resources (project : AuthProject) :
    Keeps (σ := σ) (Ready config (some project.id)) (reportResources project) := by
  refine Leads.bind (Keeps.unlessSkipped keeps_servers) fun _ => ?_
  refine Leads.bind (Keeps.unlessSkipped keeps_networkQuotas) fun _ => ?_
  exact Keeps.unlessSkipped keeps_balancers

end Project

end Run

/-! ## Timing -/

namespace Progress

variable {σ : Type} {config : Config} {c : Component} {rest : List Component} {p p' : Progress σ}

/-- What holds of a run that has still to time some components: they were not skipped, and nothing
was reported of them. -/
structure Timing (config : Config) (rest : List Component) (p : Progress σ) : Prop
    extends Ready config none p where
  fresh : ∀ c ∈ rest, c ∉ p.skipped ∧ Unmeasured c p.journal

theorem Timing.of_same (h : p.Timing config rest) (hready : p'.Ready config none)
    (hskipped : p'.skipped = p.skipped) (hmetrics : metricsOf p'.journal = metricsOf p.journal) :
    p'.Timing config rest where
  toReady := hready
  fresh c hc := by
    rw [hskipped, Unmeasured, hmetrics]
    exact h.fresh c hc

/-- A remark that reports nothing and skips no component. -/
theorem Timing.write (h : p.Timing config rest) {entry : Entry} (hremark : entry.IsRemark)
    (hlaw : entry.Lawful config p.journal) (hskipped : entry.skipped? = none)
    (hmetric : entry.metric? = none) : (p.write [entry]).Timing config rest := by
  refine h.of_same (h.write_single hremark hlaw) ?_ ?_
  · have hnone : skippedOf [entry] = [] := List.filterMap_cons_none hskipped
    rw [skipped_write, hnone, List.append_nil]
  · have hnone : metricsOf [entry] = [] := List.filterMap_cons_none hmetric
    rw [Progress.write, metricsOf_append, hnone, List.append_nil]

/-- To skip a component leaves the others as they were. -/
theorem Timing.of_skips (h : p.Timing config rest) (hc : c ∉ rest)
    (hskips : p.Skips config none c p') : p'.Timing config rest where
  toReady := hskips.ready
  fresh c' hc' := by
    obtain ⟨hskipped, hunmeasured⟩ := h.fresh c' hc'
    rw [Unmeasured, hskips.metrics]
    refine ⟨fun hmem => ?_, hunmeasured⟩
    rcases (hskips.skipped c').1 hmem with hmem | rfl
    · exact hskipped hmem
    · exact hc hc'

/-- What is reported of a component is not reported of the others. -/
theorem Timing.write_metric (h : p.Timing config rest) (hc : c ∉ rest) (hskipped : c ∉ p.skipped)
    {m : Metric} (hm : c.Names m.name) : (p.write [.metric m]).Timing config rest where
  toReady :=
    h.write_single trivial ⟨fun c' hc' => Component.names_unique hm hc' ▸ hskipped, trivial,
    trivial⟩
  fresh c' hc' := by
    obtain ⟨hskipped', hunmeasured⟩ := h.fresh c' hc'
    refine ⟨?_, fun m' hm' => ?_⟩
    · rw [skipped_write]
      exact fun hmem => hskipped' ((List.mem_append.1 hmem).resolve_right List.not_mem_nil)
    · rw [Progress.write, metricsOf_append] at hm'
      rcases List.mem_append.1 hm' with hm' | hm'
      · exact hunmeasured m' hm'
      · obtain rfl := List.mem_singleton.1 hm'
        intro hnames
        exact hc (Component.names_unique hm hnames ▸ hc')

end Progress

namespace Run

variable {σ : Type} {config : Config} {c : Component} {rest : List Component}

open Progress

theorem leads_step_probe :
    Leads (σ := σ) (Timing config (c :: rest))
      (step (.probe (.ofComponent c)) (Step.probe (.ofComponent c))) fun result p =>
        p.Timing config (c :: rest) ∧ lastOperation p.journal = some (.probe (.ofComponent c)) ∧
          Answered c (fun _ => True) p result := by
  intro d p h
  obtain ⟨hskipped, -⟩ := h.fresh c (List.mem_cons_self ..)
  have hcomponent := Probe.component_ofComponent c
  refine ⟨h.of_same ?_ (skipped_after ..) (metrics_after ..), lastOperation_record .., ?_⟩
  · refine h.step (Operation.serves_probe _) rfl fun c' endpoint url htarget hmem => ?_
    obtain rfl : c = c' := hcomponent.symm.trans htarget.component_probe
    exact absurd hmem hskipped
  · change Answered c _ (p.after _ (Step.probe (.ofComponent c) d p.session p.state))
      (Step.probe (.ofComponent c) d p.session p.state).result
    cases hendpoint : p.session.endpoint? c with
    | none =>
      rw [← hcomponent] at hendpoint
      rw [Probe.probe_absent h.holds.sound hendpoint, hcomponent]
      rw [hcomponent] at hendpoint
      exact .absent hendpoint
    | some endpoint =>
      rw [← hcomponent] at hendpoint
      refine .present ?_ (Probe.probe_yields h.holds.sound hendpoint)
      rw [skipped_after]
      exact hskipped

/-- **Timing one component** tells nothing of those that come later. -/
theorem leads_responseTime (hc : c ∉ rest) :
    Leads (σ := σ) (Timing config (c :: rest)) (reportResponseTime c)
      fun _ => Timing config rest := by
  refine leads_step_probe.bind fun result d p hp => ?_
  obtain ⟨htiming, hlast, hanswered⟩ := hp
  obtain ⟨hskipped, hunmeasured⟩ := htiming.fresh c (List.mem_cons_self ..)
  have hrest : p.Timing config rest :=
    ⟨htiming.toReady, fun c' hc' => htiming.fresh c' (List.mem_cons_of_mem _ hc')⟩
  cases hanswered with
  | absent hendpoint =>
    exact hrest.of_skips hc (hrest.recordMissing hendpoint (fun _ _ => hunmeasured) d)
  | present _ hresult =>
    cases result with
    | ok elapsed =>
      cases elapsed with
      | none => exact hrest
      | some milliseconds =>
        have hreported := hrest.write_metric hc hskipped
          (m := ⟨c.responseTimeName, milliseconds, p.session.baseTags ++ []⟩) c.names_responseTime
        exact hreported.write trivial
          ⟨fun _ _ hstatus => (nomatch hstatus), trivial, trivial⟩ rfl rfl
    | error e =>
      have hnoted : (p.write [.event (.notice (.unreachable c e))]).Timing config rest :=
        hrest.write trivial (.notice _ _ _) rfl rfl
      have hskips := hnoted.skip c d
      have hcritical : ∀ tags, ((skip c d (p.write [.event (.notice (.unreachable c e))])).2.write
          [.check ⟨c.checkName, .critical, tags⟩]).Timing config rest := by
        intro tags
        refine (hnoted.of_skips hc hskips).write trivial
          ⟨fun c' hname _ => ?_, trivial, trivial⟩ rfl rfl
        -- the check is that of the component, which has just been skipped
        obtain rfl := Component.checkName_injective hname
        refine ⟨(hskips.skipped c).2 (.inr rfl), ?_⟩
        rw [Unmeasured, hskips.metrics, Progress.write, metricsOf_append]
        simpa [Unmeasured, metricsOf, Entry.metric?] using hunmeasured
      cases e with
      | componentNotFound c' => exact absurd rfl (hresult c')
      | _ => exact hcritical _

/-- By induction on the components that are still to be timed. -/
theorem leads_responseTimes : ∀ {components : List Component}, components.Nodup →
    Leads (σ := σ) (Timing config components) (forEach reportResponseTime components) fun _ =>
      Ready config none
  | [], _ => leads_pure fun _ hp => hp.toReady
  | c :: rest, h => by
    obtain ⟨hc, hrest⟩ := List.nodup_cons.1 h
    exact (leads_responseTime hc).bind fun _ => leads_responseTimes hrest

/-! ## Projects -/

theorem leads_chooseProject (project : Option String) :
    Leads (σ := σ) (Kept config) (chooseProject project) fun _ p =>
      p.Kept config ∧ projectOf p.journal = project := by
  intro d p h
  have hproject : projectOf (p.journal ++ (Operation.setProject project).record []) = project :=
    projectOf_record ..
  have hholds := (Step.tracks_setProject (P := fun _ _ _ => True) project).holds
    (d := d) (w := p.state) h.holds
  have hafter : (chooseProject project d p).2 = p.after (.setProject project)
    (Step.modify ({ · with project }) d p.session p.state) := rfl
  rw [hafter]
  refine ⟨⟨h.lawful.concat (.operation _ _ _), ?_, h.configured, hproject.symm⟩, hproject⟩
  rw [trace_after]
  exact (List.append_nil p.trace).symm ▸ hholds

/-- A login keeps the law, whatever comes of it. -/
theorem kept_authorize {p : Progress σ} (h : p.Kept config) (d : Deployment σ) :
    (p.after .authorize (Step.authorize d p.session p.state)).Kept config := by
  obtain ⟨hconfig, hproject⟩ := Step.authorize_keeps (d := d) (s := p.session) (w := p.state)
  refine ⟨h.lawful.append fun before entry rest heq => ?_, ?_, hconfig.trans h.configured, ?_⟩
  · rcases Operation.record_eq_append_cons heq with ⟨rfl, rfl⟩
      | ⟨earlier, event, later, htrace, rfl, rfl⟩
    · exact .operation _ _ _
    · have hmem : event ∈ (Step.authorize d p.session p.state).trace := by
        rw [htrace]
        simp
      obtain ⟨answer, rfl⟩ := Step.eq_login_of_mem hmem
      exact .login _ _ answer rfl
  · have hholds := (Step.tracks_login (σ := σ) .authorize).holds (d := d) (w := p.state) h.holds
    rw [h.configured, lastLogin, ← loginAfter_append, ← trace_after p .authorize] at hholds
    exact hholds
  · have hsame : projectOf (p.after .authorize (Step.authorize d p.session p.state)).journal =
        projectOf p.journal := projectOf_record ..
    exact (hproject.trans h.chosen).trans hsame.symm

/-- A login is for the project that was chosen last. -/
theorem leads_authorize {project : Option String} :
    Leads (σ := σ) (fun p => p.Kept config ∧ projectOf p.journal = project)
      (step .authorize Step.authorize) fun result p =>
        p.Kept config ∧ (result = .ok () → p.Ready config project) := by
  rintro d p ⟨h, hproject⟩
  have hkept := kept_authorize h d
  refine ⟨hkept, fun hresult => ?_⟩
  obtain ⟨answer, login, htrace, hanswer⟩ := Step.authorize_of_ok hresult
  have hpost : lastPost? (p.after .authorize (Step.authorize d p.session p.state)).trace =
      some (p.session.loginRequest, answer) := by
    rw [trace_after, htrace, lastPost?_append]
    rfl
  refine
    { toKept := hkept
      reported := (projectOf_record ..).trans hproject
      asked := fun request answer' hlast => ?_
      excused := fun hnone => ?_ }
  · obtain ⟨rfl, rfl⟩ := Prod.mk.inj (Option.some.inj (hpost.symm.trans hlast))
    change some p.session.grant.toJson = _
    rw [Session.grant, h.configured, h.chosen, hproject]
    rfl
  · have hheld : lastLogin config.tokenUrl
        (p.after .authorize (Step.authorize d p.session p.state)).trace = some login := by
      rw [lastLogin, loginAfter_eq, hpost, ← h.configured]
      exact congrArg Except.toOption hanswer
    cases hnone.symm.trans hheld

/-- The section of a project begins with its login, and is passed over if that fails. -/
theorem keeps_project (project : AuthProject) :
    Keeps (σ := σ) (Kept config) (reportProject project) := by
  refine (leads_chooseProject _).bind fun _ => leads_authorize.bind fun result d p hp => ?_
  obtain ⟨hkept, hready⟩ := hp
  cases result with
  | error e => exact hkept.write (by simp [Entry.IsRemark]) (Chronicle.single (.notice _ _ _))
  | ok _ => exact (keeps_resources project d p (hready rfl)).toKept

theorem leads_step_authProjects :
    Leads (σ := σ) (Ready config none) (step (.ask .authProjects) Query.authProjects.perform)
      fun result p => p.Ready config none ∧ Yields (fun _ => True) result := fun d p h =>
  ⟨h.step (Operation.serves_ask .authProjects) rfl
    fun _ _ _ htarget _ => (nomatch htarget.component_ask),
    Query.perform_authProjects_yields d p.session p.state⟩

/-- The list of projects is asked of keystone itself, and no component is missed for it. -/
theorem keeps_authProjects : Keeps (σ := σ) (Ready config none) (ask .authProjects) := by
  refine leads_step_authProjects.bind fun result d p hp => ?_
  obtain ⟨hready, hresult⟩ := hp
  cases result with
  | ok value => exact hready
  | error e =>
    cases e with
    | componentNotFound c => exact absurd rfl (hresult c)
    | _ => exact ready_note hready _

theorem leads_projects :
    Leads (σ := σ) (Ready config none) reportProjects fun _ => Kept config := by
  refine Leads.bind keeps_authProjects fun value => ?_
  cases value with
  | none => exact leads_pure fun _ hp => hp.toKept
  | some projects =>
    refine Leads.bind (J := fun _ => Kept config) ?_ fun _ => ?_
    · exact Leads.mono (Keeps.forEach fun project _ => keeps_project project)
        (fun _ hp => hp.toKept) fun _ _ hp => hp
    · exact (leads_chooseProject none).mono (fun _ hp => hp) fun _ _ hp => hp.1

/-! ## The whole -/

theorem leads_all :
    Leads (σ := σ) (Timing config Component.all) reportAll fun _ => Kept config := by
  refine (leads_responseTimes (by decide)).bind fun _ => ?_
  refine Leads.bind keeps_identity fun _ => ?_
  refine Leads.bind keeps_compute fun _ => ?_
  refine Leads.bind keeps_network fun _ => ?_
  refine Leads.bind keeps_baremetal fun _ => ?_
  exact Leads.bind keeps_loadBalancer fun _ => leads_projects

theorem leads_deployment :
    Leads (σ := σ) (fun p => p.Kept config ∧ p.journal = []) reportDeployment
      fun _ => Kept config := by
  have hlogin : Leads (σ := σ) (fun p => p.Kept config ∧ p.journal = [])
      (step .authorize Step.authorize) fun result p => p.Kept config ∧
        (result = .ok () → p.Timing config Component.all) := by
    rintro d p ⟨h, hempty⟩
    obtain ⟨hkept, hready⟩ := @leads_authorize σ config none d p ⟨h, by rw [hempty]; rfl⟩
    refine ⟨hkept, fun hresult => ⟨hready hresult, fun c _ => ?_⟩⟩
    change c ∉ (p.after .authorize _).skipped ∧ Unmeasured c (p.journal ++ _)
    rw [skipped_after, unmeasured_record, Progress.skipped, hempty]
    exact ⟨List.not_mem_nil, fun _ hm => absurd hm List.not_mem_nil⟩
  refine hlogin.bind fun result d p hp => ?_
  obtain ⟨hkept, htiming⟩ := hp
  cases result with
  | error e => exact hkept.write (by simp [Entry.IsRemark]) (Chronicle.single (.notice _ _ _))
  | ok _ =>
    have hnote : Keeps (σ := σ) (Timing config Component.all) (note .loggedIn) := fun _ _ h =>
      h.write trivial (.notice _ _ _) rfl rfl
    exact (hnote.bind fun _ => leads_all) d p (htiming rfl)

end Run

/-- A run starts from a new session, keeps the configuration of that, and keeps to the law. -/
theorem Check.run_kept {σ : Type} {config : Config} {d : Deployment σ} {w : σ} {p : Progress σ}
    (h : Check.run config d w = .ok p) : ∃ s, Session.new config = .ok s ∧ p.Kept s.config := by
  unfold Check.run at h
  cases hnew : Session.new config with
  | error e =>
    rw [hnew] at h
    cases h
  | ok s =>
    rw [hnew] at h
    obtain rfl := Except.ok.inj h
    have hstart : (Check.start s w).Kept s.config :=
      ⟨.nil, Session.holds_new hnew, rfl, (Session.new_fresh hnew).1⟩
    exact ⟨s, rfl, Run.leads_deployment d (Check.start s w) ⟨hstart, rfl⟩⟩

/-- **Every run keeps to the law.** -/
theorem Check.run_lawful {σ : Type} {config : Config} {d : Deployment σ} {w : σ} {p : Progress σ}
    (h : Check.run config d w = .ok p) : Chronicle (Entry.Lawful p.session.config) p.journal := by
  obtain ⟨s, -, hkept⟩ := Check.run_kept h
  rw [hkept.configured]
  exact hkept.lawful

end StackWatch
