import StackWatch.Proofs.Omitting

/-!
# What is optional is additive

To leave out the members of groups, or the traffic of load balancers, listeners and amphorae, takes
the metrics of those out of the report and nothing else (`Check.optional_additive`). The queries for
them sit in the midst of the sections, and may fail, be refused, log in again and enter URLs; no
other query sees that, as long as no other operation of the run has one of their URLs.

The proof takes the run section by section beside the one that leaves the extra out.
-/

namespace StackWatch

/-! ## The name of the numbers of members -/

/-- What the name of the numbers of members is made of. -/
def membersLabel : Label := (.identity, "groups.users")

theorem membersLabel_name : membersLabel.name = membersName := by decide

theorem Component.responseTimeName_ne (c : Component) : c.responseTimeName ≠ membersName := by
  cases c <;> decide

/-- The name of a count ends otherwise. -/
theorem Series.countName_ne (s : Series) : s.countName ≠ membersName := by
  intro h
  rw [← s.name_label, ← membersLabel_name] at h
  have hrest : s.noun ++ ".count" = "groups.users" := congrArg Prod.snd (Label.name_injective h)
  have hlast := congrArg (fun text : String => text.toList.getLast?) hrest
  simp at hlast

/-- No query has data of that name. -/
theorem Query.membersLabel_notMem {shape : Shape} (q : Query shape) : membersLabel ∉ q.labels := by
  cases q with
  | listing l => cases l <;> exact of_decide_eq_true rfl
  | _ => exact of_decide_eq_true rfl

theorem KeyMap.Labeled.ne_members {labels : List Label} {figures : KeyMap Float}
    (h : figures.Labeled labels) (hlabels : membersLabel ∉ labels) :
    ∀ f ∈ figures.entries, f.1 ≠ membersName := by
  intro f hf heq
  obtain ⟨label, hlabel, hname⟩ := h f hf
  have hsame : label = membersLabel :=
    Label.name_injective (hname.symm.trans (heq.trans membersLabel_name.symm))
  exact hlabels (hsame ▸ hlabel)

/-- Another name fits any operation that is not for members. -/
theorem Operation.Fits.of_ne {op : Operation} {name : String} (hop : op.extra? ≠ some .membership)
    (hname : name ≠ membersName) : op.Fits name := ⟨fun h => absurd h hop, fun h => absurd h hname⟩

section Fits

variable {tags : List String}

theorem fits_figures {q : Query .figures} (hop : (Operation.ask q).extra? ≠ some .membership)
    {figures : KeyMap Float} (h : q.Carries figures) :
    ∀ m ∈ gauges figures tags, (Operation.ask q).Fits m.name := by
  intro m hm
  obtain ⟨f, hf, rfl⟩ := List.mem_map.1 hm
  exact .of_ne hop (KeyMap.Labeled.ne_members h q.membersLabel_notMem f hf)

theorem fits_entities {q : Query .entities} (hop : (Operation.ask q).extra? ≠ some .membership)
    {entities : KeyMap Entity} (h : q.Carries entities) :
    ∀ e ∈ entities.entries, ∀ m ∈ gauges e.2.metrics tags, (Operation.ask q).Fits m.name := by
  intro e he m hm
  obtain ⟨f, hf, rfl⟩ := List.mem_map.1 hm
  exact .of_ne hop ((h.1 e he).ne_members q.membersLabel_notMem f hf)

theorem fits_series {q : Query .entities} (hop : (Operation.ask q).extra? ≠ some .membership)
    {entities : KeyMap Entity} (h : q.Carries entities) (series : Series) :
    ∀ m ∈ series.gauges entities tags, (Operation.ask q).Fits m.name := by
  intro m hm
  rcases List.mem_cons.1 hm with rfl | hm
  · exact .of_ne hop series.countName_ne
  · obtain ⟨e, he, hmetric⟩ := List.mem_flatMap.1 hm
    exact fits_entities hop h e he m hmetric

end Fits

namespace Run

variable {t : Omission} {login : Login} {asked : Option Component} {tags : List String}
  {p p' : Progress Unit}

/-! ## Reports -/

/-- What is asked for in any case is not for the extra. -/
theorem ne_of_none {op : Operation} {e : Extra} (h : op.extra? = none) : op.extra? ≠ some e := by
  rw [h]
  exact nofun

theorem joint_entities {q : Query .entities} (hq : (Operation.ask q).extra? = none)
    (series : Series) :
    Joint t (Nearby t login asked) (reportEntities q series tags)
      (reportEntities q series tags) fun _ => Nearby t login q.component? := by
  refine joint_asking (ne_of_none hq) (joint_pure fun _ _ h => h) fun entities => ?_
  refine (joint_emit (ne_of_none hq) fun h => fits_series (ne_of_none hq) h series).bind fun _ => ?_
  exact joint_pure fun _ _ h => h.toNearby

theorem joint_listing {l : Listing} (hl : (Operation.ask (.listing l)).extra? = none)
    (series : Series) :
    Joint t (Nearby t login asked) (reportListing l series tags)
      (reportListing l series tags) fun _ => Nearby t login (some l.component) :=
  (joint_entities hl series).bind fun _ => joint_pure fun _ _ h => h

/-- A listing is reported at once. -/
theorem reportListing_eq (l : Listing) (series : Series) (tags : List String) :
    reportListing l series tags = reporting (.listing l)
      fun entities => series.gauges entities tags := by
  funext d p
  simp only [reportListing, reportEntities, reporting, bind_apply]
  cases (ask (.listing l) d p).1 <;> rfl

/-- Figures are reported at once. -/
theorem reportFigures_eq (q : Query .figures) (tags : List String) :
    reportFigures q tags = reporting q fun figures => gauges figures tags := by
  funext d p
  simp only [reportFigures, reporting, bind_apply]
  cases (ask q d p).1 <;> rfl

/-- The number of a group's members. -/
def membersGauges (group : String × Entity) (users : KeyMap Entity) : List Metric :=
  let name := (group.2.attributeText? "name").toList.map (tag "group_name")
  [⟨membersName, users.size.toUInt64.toFloat, tag "group_id" group.1 :: name⟩]

/-- The members of a group are reported at once. -/
theorem reportGroupUsers_eq (group : String × Entity) :
    reportGroupUsers group = reporting (.listing (.groupUsers group.1)) (membersGauges group) := by
  funext d p
  simp only [reportGroupUsers, reporting, bind_apply]
  cases (ask (.listing (.groupUsers group.1)) d p).1 <;> rfl

/-! ## What is optional -/

theorem ne_membership {op : Operation} (h : op.extra? = some .statistics) :
    op.extra? ≠ some .membership := by
  rw [h]
  decide

/-- The members of a group. -/
theorem joint_groupUsers (group : String × Entity) :
    Joint t (Nearby t login (some .identity)) (reportGroupUsers group)
      (t.instead .membership (reportGroupUsers group))
      fun _ => Nearby t login (some .identity) := by
  have hfits : ∀ v : KeyMap Entity, Query.Carries (.listing (.groupUsers group.1)) v →
      ∀ m ∈ membersGauges group v,
      (Operation.ask (.listing (.groupUsers group.1))).Fits m.name := by
    intro v _ m hm
    rw [List.mem_singleton.1 hm]
    exact ⟨fun _ => rfl, fun _ => rfl⟩
  have hextra : (Operation.ask (.listing (.groupUsers group.1))).extra? = some .membership := rfl
  rw [reportGroupUsers_eq]
  exact joint_optional hfits hextra

/-- The traffic of an amphora. -/
theorem joint_amphora (amphora : String) :
    Joint t (Nearby t login (some .loadBalancer)) (reportAmphora tags amphora)
      (t.instead .statistics (reportAmphora tags amphora))
      fun _ => Nearby t login (some .loadBalancer) := by
  have hextra : (Operation.ask (.listing (.amphoraStatistics amphora))).extra? = some .statistics :=
    rfl
  have hfits : ∀ v : KeyMap Entity, Query.Carries (.listing (.amphoraStatistics amphora)) v →
      ∀ m ∈ Series.amphoraListeners.gauges v (tags ++ [tag "amphora_id" amphora]),
        (Operation.ask (.listing (.amphoraStatistics amphora))).Fits m.name := fun _ h =>
    fits_series (ne_membership hextra) h _
  rw [reportAmphora, reportListing_eq]
  exact joint_optional hfits hextra

/-- Figures of the traffic of something. -/
theorem joint_traffic {q : Query .figures} (hq : (Operation.ask q).extra? = some .statistics)
    (tags : List String) :
    Joint t (Nearby t login q.component?) (reportFigures q tags)
      (t.instead .statistics (reportFigures q tags)) fun _ => Nearby t login q.component? := by
  rw [reportFigures_eq]
  exact joint_optional (fun _ h => fits_figures (ne_membership hq) h) hq

/-! ## Sections without a project -/

/-- Both sessions have the configurations of their runs. -/
theorem Nearby.configurations (h : Nearby t login asked p p') :
    p.session.config = t.config ∧ p'.session.config = t.extra.off t.config :=
  h.related.following.configured

/-- A section of a component. -/
theorem joint_section {c : Component} {part : Run Unit Unit} (asked : Option Component)
    (h : Joint t (Nearby t login none) part part fun _ => Nearby t login asked) :
    Joint t (Nearby t login none) (unlessSkipped c part) (unlessSkipped c part) fun _ =>
      Nearby t login none :=
  joint_unlessSkipped (fun _ _ h => h.skipped) (h.mono (fun _ _ h => h) fun _ _ _ h => h.unasked)

theorem joint_membership (groups : KeyMap Entity) :
    Joint t (Nearby t login (some .identity)) (reportMembership groups)
      (reportMembership groups) fun _ => Nearby t login (some .identity) :=
  joint_ifAsked (x := .membership) (fun _ _ h => h.configurations)
    (joint_forEach_instead fun group _ => joint_groupUsers group)

theorem joint_identity :
    Joint t (Nearby t login none) reportIdentity reportIdentity fun _ => Nearby t login none := by
  refine joint_section (some .identity) ?_
  refine (joint_listing rfl _).bind fun _ => ?_
  refine (joint_listing rfl _).bind fun _ => ?_
  refine (joint_listing rfl _).bind fun _ => ?_
  refine (joint_entities rfl _).bind fun groups => ?_
  refine (joint_membership groups).bind fun _ => ?_
  refine (joint_listing rfl _).bind fun _ => ?_
  exact (joint_entities rfl _).bind fun _ => joint_pure fun _ _ h => h

theorem joint_compute :
    Joint t (Nearby t login none) reportCompute reportCompute fun _ => Nearby t login none := by
  have hlimits : Joint t (Nearby t login none) (reportFigures .computeLimits [])
      (reportFigures .computeLimits [])
      fun _ => Nearby t login (some .compute) := by
    rw [reportFigures_eq]
    exact joint_reporting (fun _ h => fits_figures (ne_of_none rfl) h) (ne_of_none rfl)
  refine joint_section (some .compute) ?_
  refine hlimits.bind fun _ => ?_
  refine (joint_listing rfl _).bind fun _ => ?_
  refine (joint_listing rfl _).bind fun _ => ?_
  refine (joint_listing rfl _).bind fun _ => ?_
  exact joint_listing rfl _

theorem joint_network :
    Joint t (Nearby t login none) reportNetwork reportNetwork fun _ => Nearby t login none :=
  joint_section _ (joint_listing rfl _)

theorem joint_baremetal :
    Joint t (Nearby t login none) reportBaremetal reportBaremetal fun _ => Nearby t login none :=
  joint_section _ ((joint_listing rfl _).bind fun _ => joint_listing rfl _)

theorem joint_loadBalancer :
    Joint t (Nearby t login none) reportLoadBalancer reportLoadBalancer
      fun _ => Nearby t login none :=
  joint_section _ (joint_listing rfl _)

/-! ## Sections of a project -/

/-- Traffic is reported where it is asked for. -/
theorem joint_ifStatistics {part : Run Unit Unit}
    (h : Joint t (Nearby t login asked) part (t.instead .statistics part)
      fun _ => Nearby t login asked) :
    Joint t (Nearby t login asked) (ifStatistics part) (ifStatistics part)
      fun _ => Nearby t login asked :=
  joint_ifAsked (x := .statistics) (fun _ _ h => h.configurations) h

theorem joint_balancer (balancer : String) :
    Joint t (Nearby t login (some .loadBalancer)) (reportBalancer tags balancer)
      (reportBalancer tags balancer) fun _ => Nearby t login (some .loadBalancer) := by
  refine (joint_ifStatistics (joint_traffic (q := .loadBalancerStatistics balancer) rfl _)).bind
    fun _ => ?_
  refine joint_asking (ne_of_none rfl) (joint_pure fun _ _ h => h) fun amphorae => ?_
  refine (joint_ifStatistics (joint_forEach_instead fun amphora _ => joint_amphora amphora)).mono
    (fun _ _ h => h.toNearby) fun _ _ _ h => h

theorem joint_pool (project pool : String) :
    Joint t (Nearby t login (some .loadBalancer)) (reportPool project tags pool)
      (reportPool project tags pool) fun _ => Nearby t login (some .loadBalancer) :=
  joint_listing rfl _

theorem joint_balancers (project : String) :
    Joint t (Nearby t login asked) (reportBalancers project tags)
      (reportBalancers project tags) fun _ => Nearby t login (some .loadBalancer) := by
  refine (joint_entities rfl _).bind fun balancers => ?_
  refine (joint_forEach fun balancer _ => joint_balancer balancer).bind fun _ => ?_
  refine (joint_entities rfl _).bind fun listeners => ?_
  refine (joint_ifStatistics (joint_forEach_instead fun listener _ =>
    joint_traffic (q := .listenerStatistics listener) rfl _)).bind fun _ => ?_
  refine (joint_entities rfl _).bind fun pools => ?_
  refine (joint_forEach fun pool _ => joint_pool project pool).bind fun _ => ?_
  exact joint_listing rfl _

theorem joint_servers (project : String) :
    Joint t (Nearby t login asked) (reportServers project tags)
      (reportServers project tags) fun _ => Nearby t login (some .compute) := by
  refine (joint_entities rfl _).bind fun _ => ?_
  exact (joint_entities rfl _).bind fun _ => joint_pure fun _ _ h => h

theorem joint_networkQuotas (project : String) :
    Joint t (Nearby t login asked) (reportNetworkQuotas project tags)
      (reportNetworkQuotas project tags) fun _ => Nearby t login (some .network) := by
  refine joint_asking (ne_of_none rfl) (joint_pure fun _ _ h => h) fun quotas => ?_
  refine Joint.mono (joint_forEach fun quota hquota => ?_) (fun _ _ h => h)
    fun _ _ _ h => h.toNearby
  refine joint_emit (ne_of_none rfl) fun h => ?_
  obtain ⟨entry, hentry, rfl⟩ := List.mem_map.1 hquota
  exact fits_entities (ne_of_none rfl) h entry hentry

theorem joint_resources (project : AuthProject) :
    Joint t (Nearby t login none) (reportResources project) (reportResources project) fun _ =>
      Nearby t login none := by
  refine (joint_section _ (joint_servers project.id)).bind fun _ => ?_
  refine (joint_section _ (joint_networkQuotas project.id)).bind fun _ => ?_
  exact joint_section _ (joint_balancers project.id)

/-- The section of a project, under whatever login that brings. -/
theorem joint_project (project : AuthProject) :
    Joint t (Loose t) (reportProject project) (reportProject project) fun _ => Loose t := by
  refine (joint_choose _).bind fun _ => joint_authorize.bind fun result => ?_
  cases result with
  | error e => exact (joint_note_loose _).mono (fun _ _ h => h.1) fun _ _ _ h => h
  | ok _ =>
    have hresources : Joint t (fun p p' => ∃ login, Nearby t login none p p')
        (reportResources project)
        (reportResources project) fun _ => Loose t :=
      Joint.exists fun login => (joint_resources project).mono (fun _ _ h => h)
        fun _ _ _ h => h.loosen
    exact hresources.mono (fun _ _ h => h.2 rfl) fun _ _ _ h => h

theorem joint_projects :
    Joint t (Nearby t login none) reportProjects reportProjects fun _ => Loose t := by
  refine (joint_ask .authProjects (ne_of_none rfl)).bind fun value => ?_
  cases value with
  | none => exact joint_pure fun _ _ h => h.1.loosen
  | some projects =>
    have hprojects : Joint t (Loose t) (forEach reportProject projects)
        (forEach reportProject projects) fun _ =>
        Loose t := joint_forEach fun project _ => joint_project project
    exact (hprojects.mono (fun _ _ h => h.1.loosen) fun _ _ _ h => h).bind
      fun _ => joint_choose none

/-! ## The whole -/

theorem joint_all : Joint t (Nearby t login none) reportAll reportAll fun _ => Loose t := by
  refine (joint_forEach fun c _ => joint_responseTime c c.responseTimeName_ne).bind fun _ => ?_
  refine joint_identity.bind fun _ => ?_
  refine joint_compute.bind fun _ => ?_
  refine joint_network.bind fun _ => ?_
  refine joint_baremetal.bind fun _ => ?_
  exact joint_loadBalancer.bind fun _ => joint_projects

theorem joint_deployment :
    Joint t (Loose t) reportDeployment reportDeployment fun _ => Loose t := by
  refine joint_authorize.bind fun result => ?_
  cases result with
  | error e => exact (joint_note_loose _).mono (fun _ _ h => h.1) fun _ _ _ h => h
  | ok _ =>
    have hall : Joint t (fun p p' => ∃ login, Nearby t login none p p')
        (note .loggedIn >>= fun _ => reportAll)
        (note .loggedIn >>= fun _ => reportAll) fun _ => Loose t :=
      Joint.exists fun login => (joint_note _).bind fun _ => joint_all
    exact hall.mono (fun _ _ h => h.2 rfl) fun _ _ _ h => h

end Run

/-- Whether no two different operations of a journal have a URL in common. -/
def Distinguished (config : Config) (journal : List Entry) : Prop :=
  ∀ v ∈ visits config journal, ∀ v' ∈ visits config journal, v'.2 = v.2 → v'.1 = v.1

instance (config : Config) (journal : List Entry) : Decidable (Distinguished config journal) :=
  inferInstanceAs (Decidable (∀ v ∈ _, ∀ v' ∈ _, _ = _ → _ = _))

namespace Check

variable {config : Config} {answer : Request → Answer} {s : Session} {p : Progress Unit}

/-- A session is a fellow of itself. -/
theorem fellow_new (hnew : Session.new config = .ok s) (known : String → Prop) :
    s.Fellow s.config known s where
  sound := (Session.holds_new hnew).sound
  configured := rfl
  setup := ⟨rfl, rfl, (Session.holds_new hnew).sound⟩
  project := rfl
  agree _ _ := Iff.rfl

/-- A run beside the one that leaves an extra out. -/
theorem run_off (hnew : Session.new config = .ok s)
    (hrun : Check.run config (.stateless answer) () = .ok p)
    (hdistinct : Distinguished s.config p.journal) (e : Extra) :
    Fitting p.journal ∧ ∃ p', Check.run (e.off config) (.stateless answer) () = .ok p' ∧
      Pruned e p.journal p'.journal := by
  let t : Omission :=
    { extra := e
      answer := answer
      config := s.config
      known := fun url => ∀ v ∈ visits s.config p.journal, v.2 = url → v.1.extra? ≠ some e }
  have hparts : t.Parts p.journal := by
    intro v hv
    refine ⟨fun hknown => hknown v hv rfl, fun hkept v' hv' hurl => ?_⟩
    rw [hdistinct v hv v' hv' hurl]
    exact hkept
  have hstart : Run.Loose t (start s ()) (start (s.without e) ()) :=
    { related := ⟨s, (), fellow_new hnew t.known, rfl, rfl⟩
      holds := Session.holds_new hnew
      pruned := ⟨rfl, rfl, rfl, rfl⟩
      fitting := nofun }
  obtain rfl := Except.ok.inj ((run_of_new hnew _ ()).symm.trans hrun)
  obtain ⟨-, hloose⟩ := Run.joint_deployment.related hstart hparts
  exact ⟨hloose.fitting, _, run_of_new (Session.new_off hnew e) _ (), hloose.pruned⟩

/-- **What is optional is additive.** Take a run against a deployment without a state, in which no
two different operations have a URL in common, whatever any of them is answered. Without the members
of groups the report is the same but for the numbers of members, and without traffic counters it is
the same but for the metrics that were emitted for the queries for those. -/
theorem optional_additive (hnew : Session.new config = .ok s)
    (hrun : Check.run config (.stateless answer) () = .ok p)
    (hdistinct : Distinguished s.config p.journal) :
    (∃ p', Check.run { config with collectGroupUsers := false } (.stateless answer) () = .ok p' ∧
        p'.report = { p.report with
          metrics :=
            p.report.metrics.filter fun m => m.name ≠ "openstack.keystone.groups.users" }) ∧
      (emissions p.journal).map (·.2) = p.report.metrics ∧
      ∃ p', Check.run { config with collectStatistics := false } (.stateless answer) () = .ok p' ∧
        p'.report = { p.report with
          metrics := ((emissions p.journal).filter fun m =>
            m.1.bind Operation.extra? ≠ some .statistics).map (·.2) } := by
  obtain ⟨hfitting, p₁, hrun₁, hpruned₁⟩ := run_off hnew hrun hdistinct .membership
  obtain ⟨-, p₂, hrun₂, hpruned₂⟩ := run_off hnew hrun hdistinct .statistics
  have hall : (emissions p.journal).map (·.2) = metricsOf p.journal := map_snd_emissionsAfter none _
  have hnamed : (emissions p.journal).filter (fun m => ¬ Extra.membership.Brings m) =
      (emissions p.journal).filter fun m => m.2.name ≠ membersName :=
    List.filter_congr fun m hm => by rw [decide_eq_decide, hfitting m hm]
  have hmetrics : metricsOf p₁.journal = (metricsOf p.journal).filter
      fun m => m.name ≠ membersName := by
    rw [hpruned₁.metrics, hnamed, ← hall, List.filter_map]
    rfl
  exact ⟨⟨p₁, hrun₁, hpruned₁.report hmetrics⟩, hall, p₂, hrun₂, hpruned₂.report hpruned₂.metrics⟩

/-- A catalog with identity and load balancing. -/
def balancedCatalog : Catalog :=
  ⟨[⟨Component.identity.name, none, [⟨.public, "http://identity", none⟩]⟩,
    ⟨Component.loadBalancer.name, none, [⟨.public, "http://octavia", none⟩]⟩]⟩

/-- What a deployment answers that grants every login, and that tells of a group with one member, of
a project, and of a load balancer with its traffic, whatever it is asked for. -/
def balancedAnswer (request : Request) : Answer :=
  match request.method with
  | .post =>
    .response 201 (some "token")
      (.json (.obj [("token", .obj [("catalog", balancedCatalog.toJson)])])) 0
  | .get =>
    .response 200 none (.json (.obj [("groups", .arr [.obj [("id", .str "g")]]),
      ("loadbalancers", .arr [.obj [("id", .str "b")]]),
      ("projects", .arr [.obj [("id", .str "p")]]), ("stats", .obj [("bytes_in", .int 5)]),
      ("users", .arr [.obj [("id", .str "u")]])])) 0

/-- The one group has one number of members, and the one load balancer one traffic counter; without
them, all else is reported as it was. -/
theorem balanced_additive :
    let p := (Run.reportDeployment (.stateless balancedAnswer) (start .sample ())).2
    (p.report.metrics.filter fun m => m.name = "openstack.keystone.groups.users").length = 1 ∧
      ((emissions p.journal).filter fun m =>
        m.1.bind Operation.extra? = some .statistics).length = 1 ∧
      (∃ p', Check.run { Config.sample with collectGroupUsers := false }
        (.stateless balancedAnswer) () = .ok p' ∧
        p'.report = { p.report with
          metrics :=
            p.report.metrics.filter fun m => m.name ≠ "openstack.keystone.groups.users" }) ∧
      (emissions p.journal).map (·.2) = p.report.metrics ∧
      ∃ p', Check.run { Config.sample with collectStatistics := false }
        (.stateless balancedAnswer) () = .ok p' ∧
        p'.report = { p.report with
          metrics := ((emissions p.journal).filter fun m =>
            m.1.bind Operation.extra? ≠ some .statistics).map (·.2) } := by
  intro p
  have hrun : Check.run .sample (.stateless balancedAnswer) () = .ok p := rfl
  have hdistinct : Distinguished Session.sample.config p.journal := by decide +kernel
  exact ⟨by decide +kernel, by decide +kernel, optional_additive Session.new_sample hrun hdistinct⟩

end Check

end StackWatch
