import StackWatch.Proofs.TwoRuns

/-!
# A failure is confined to what it would have brought

When one query of a single collection fails, in whatever way, the report of the run loses what would
have been reported for that query and nothing else (`Check.failure_confined`). The query may log in
again, and leaves its URL unread; neither is seen by any later query, by the components that are
skipped, or by the sections of the projects.

The proof runs both deployments beside each other, section by section.
-/

namespace StackWatch

namespace Run

variable {shape : Shape} {f : Fork} {config : Config} {q : Query shape} {u : String} {login : Login}

/-! ## Queries and what they report -/

/-- A query that is no leaf is not the one whose answer differs. -/
theorem ask_ne_of_not_isLeaf (hleaf : q.isLeaf = true) {shape' : Shape} {q' : Query shape'}
    (h : q'.isLeaf = false) : Operation.ask q' ≠ .ask q := by
  intro heq
  cases heq
  exact Bool.noConfusion (h.symm.trans hleaf)

/-- A part that goes by the data of another query. -/
theorem together_with {β : Type} {shape' : Shape} {q' : Query shape'}
    {g : Option shape'.Value → Run Unit β} {S : β → Progress Unit → Progress Unit → Prop}
    (hop : Operation.ask q' ≠ .ask q)
    (hg : ∀ value, Together f config q (Apart f config q u login) (g value) S) :
    Together f config q (SteadyTwins f config q u login) (ask q' >>= g) S :=
  (together_ask hop).bind hg

theorem abreast_entities {q' : Query .entities} (hop : Operation.ask q' ≠ .ask q) (series : Series)
    (tags : List String) :
    Abreast f config q (SteadyTwins f config q u login) (reportEntities q' series tags) := by
  refine together_with hop fun value => ?_
  cases value with
  | none => exact together_pure fun _ _ h => h.1
  | some entities => exact (abreast_emit _).bind fun _ => together_pure fun _ _ h => h.1

theorem abreast_listing_of_ne {l : Listing} (hop : Operation.ask (.listing l) ≠ .ask q)
    (series : Series) (tags : List String) :
    Abreast f config q (SteadyTwins f config q u login) (reportListing l series tags) :=
  (abreast_entities hop series tags).bind fun _ => together_pure fun _ _ h => h

theorem abreast_figures_of_ne {q' : Query .figures} (hop : Operation.ask q' ≠ .ask q)
    (tags : List String) :
    Abreast f config q (SteadyTwins f config q u login) (reportFigures q' tags) := by
  refine together_with hop fun value => ?_
  cases value with
  | none => exact together_pure fun _ _ h => h.1
  | some figures => exact (abreast_emit _).mono (fun _ _ h => h) fun _ _ _ h => h.1

/-- A collection that is reported, whether or not it is the one whose answer differs. -/
theorem abreast_listing (hq : f.Blinds config login q u) (l : Listing) (series : Series)
    (tags : List String) :
    Abreast f config q (SteadyTwins f config q u login) (reportListing l series tags) := by
  by_cases hop : Operation.ask (.listing l) = .ask q
  · cases hop
    have hrun : (reportListing l series tags : Run Unit Unit) = ask (.listing l) >>= fun value =>
        value.elim (pure ()) fun entities => emit (series.gauges entities tags) := by
      funext d p
      simp only [reportListing, reportEntities, bind_apply]
      cases (ask (.listing l) d p).1 <;> rfl
    rw [hrun]
    exact abreast_leaf hq rfl fun entities => ⟨_, rfl⟩
  · exact abreast_listing_of_ne hop series tags

/-- Figures that are reported, whether or not they are those of the answer that differs. -/
theorem abreast_figures (hq : f.Blinds config login q u) (q' : Query .figures)
    (tags : List String) :
    Abreast f config q (SteadyTwins f config q u login) (reportFigures q' tags) := by
  by_cases hop : Operation.ask q' = .ask q
  · cases hop
    exact abreast_leaf hq rfl fun figures => ⟨_, rfl⟩
  · exact abreast_figures_of_ne hop tags

/-! ## Timing -/

/-- Timing a component. -/
theorem abreast_responseTime (c : Component) :
    Abreast f config q (SteadyTwins f config q u login) (reportResponseTime c) := by
  have hop : Operation.probe (.ofComponent c) ≠ .ask q := nofun
  refine (together_step hop (Fork.tandem_probe _) (Step.tracks_probe _)
    fun h => Probe.probe_ledger_subset h.sound _).bind fun result => ?_
  refine Together.mono (R := Apart f config q u login) (S := fun _ => Apart f config q u login) ?_
    (fun _ _ h => h) fun _ _ _ h => h.1
  cases result with
  | ok elapsed =>
    cases elapsed with
    | none => exact together_pure fun _ _ h => h
    | some milliseconds => exact (abreast_emit _).bind fun _ => sturdy_apart.emitCheck c _
  | error e =>
    cases e with
    | componentNotFound c' => exact sturdy_apart.recordMissing c'
    | _ =>
      refine (sturdy_apart.note _).bind fun _ => ?_
      exact (sturdy_apart.skip c).bind fun _ => sturdy_apart.emitCheck c _

/-! ## Sections without a project -/

theorem abreast_groupUsers (hleaf : q.isLeaf = true) (group : String × Entity) :
    Abreast f config q (SteadyTwins f config q u login) (reportGroupUsers group) := by
  refine together_with (ask_ne_of_not_isLeaf hleaf rfl) fun value => ?_
  cases value with
  | none => exact together_pure fun _ _ h => h.1
  | some users => exact (abreast_emit _).mono (fun _ _ h => h) fun _ _ _ h => h.1

theorem abreast_membership (hleaf : q.isLeaf = true) (groups : KeyMap Entity) :
    Abreast f config q (SteadyTwins f config q u login) (reportMembership groups) := by
  refine together_get (fun p p' h => ?_) fun p₀ => ?_
  · rw [h.paired.stays.config]
  · split
    · exact Abreast.forEach fun group _ => abreast_groupUsers hleaf group
    · exact together_pure fun _ _ h => h

section Global

variable (hq : f.Blinds config login q u)
include hq

theorem abreast_identity : Abreast f config q (SteadyTwins f config q u login) reportIdentity := by
  have hleaf := hq.leaf
  refine sturdy_steady.unlessSkipped ?_
  refine Together.bind (abreast_listing hq _ _ _) fun _ => ?_
  refine Together.bind (abreast_listing hq _ _ _) fun _ => ?_
  refine Together.bind (abreast_listing hq _ _ _) fun _ => ?_
  refine Together.bind (abreast_entities (ask_ne_of_not_isLeaf hleaf rfl) _ _) fun groups => ?_
  refine (abreast_membership hleaf groups).bind fun _ => ?_
  refine Together.bind (abreast_listing hq _ _ _) fun _ => ?_
  exact (abreast_entities (ask_ne_of_not_isLeaf hleaf rfl) _ _).bind fun _ =>
    together_pure fun _ _ h => h

theorem abreast_compute : Abreast f config q (SteadyTwins f config q u login) reportCompute := by
  refine sturdy_steady.unlessSkipped ?_
  refine Together.bind (abreast_figures hq _ _) fun _ => ?_
  refine Together.bind (abreast_listing hq _ _ _) fun _ => ?_
  refine Together.bind (abreast_listing hq _ _ _) fun _ => ?_
  exact Together.bind (abreast_listing hq _ _ _) fun _ =>
    abreast_listing hq _ _ _

theorem abreast_network : Abreast f config q (SteadyTwins f config q u login) reportNetwork :=
  sturdy_steady.unlessSkipped (abreast_listing hq _ _ _)

theorem abreast_baremetal :
    Abreast f config q (SteadyTwins f config q u login) reportBaremetal := by
  refine sturdy_steady.unlessSkipped ?_
  exact Together.bind (abreast_listing hq _ _ _) fun _ =>
    abreast_listing hq _ _ _

theorem abreast_loadBalancer :
    Abreast f config q (SteadyTwins f config q u login) reportLoadBalancer :=
  sturdy_steady.unlessSkipped (abreast_listing hq _ _ _)

end Global

/-! ## Sections of a project -/

section Project

variable {id : String} {tags : List String} (hleaf : q.isLeaf = true)
include hleaf

theorem abreast_amphora (amphora : String) :
    Abreast f config q (SteadyTwins f config q u login) (reportAmphora tags amphora) :=
  abreast_listing_of_ne (ask_ne_of_not_isLeaf hleaf rfl) _ _

theorem abreast_balancer (balancer : String) :
    Abreast f config q (SteadyTwins f config q u login) (reportBalancer tags balancer) := by
  refine Together.bind (sturdy_steady.ifStatistics
    (abreast_figures_of_ne (ask_ne_of_not_isLeaf hleaf rfl) _)) fun _ => ?_
  refine together_with (ask_ne_of_not_isLeaf hleaf rfl) fun value => ?_
  cases value with
  | none => exact together_pure fun _ _ h => h.1
  | some amphorae =>
    exact Together.mono (sturdy_steady.ifStatistics (Abreast.forEach fun amphora _ =>
      abreast_amphora hleaf amphora)) (fun _ _ h => h.1) fun _ _ _ h => h

theorem abreast_balancers :
    Abreast f config q (SteadyTwins f config q u login) (reportBalancers id tags) := by
  refine Together.bind (abreast_entities (ask_ne_of_not_isLeaf hleaf rfl) _ _) fun balancers => ?_
  refine Together.bind (Abreast.forEach fun balancer _ => abreast_balancer hleaf balancer)
    fun _ => ?_
  refine Together.bind (abreast_entities (ask_ne_of_not_isLeaf hleaf rfl) _ _) fun listeners => ?_
  refine Together.bind (sturdy_steady.ifStatistics
    (Abreast.forEach fun _ _ => abreast_figures_of_ne (ask_ne_of_not_isLeaf hleaf rfl) _))
    fun _ => ?_
  refine Together.bind (abreast_entities (ask_ne_of_not_isLeaf hleaf rfl) _ _) fun pools => ?_
  refine Together.bind (Abreast.forEach fun _ _ =>
    abreast_listing_of_ne (ask_ne_of_not_isLeaf hleaf rfl) _ _) fun _ => ?_
  exact abreast_listing_of_ne (ask_ne_of_not_isLeaf hleaf rfl) _ _

theorem abreast_servers :
    Abreast f config q (SteadyTwins f config q u login) (reportServers id tags) := by
  refine Together.bind (abreast_entities (ask_ne_of_not_isLeaf hleaf rfl) _ _) fun _ => ?_
  exact (abreast_entities (ask_ne_of_not_isLeaf hleaf rfl) _ _).bind fun _ =>
    together_pure fun _ _ h => h

theorem abreast_networkQuotas :
    Abreast f config q (SteadyTwins f config q u login) (reportNetworkQuotas id tags) := by
  refine together_with (ask_ne_of_not_isLeaf hleaf rfl) fun value => ?_
  cases value with
  | none => exact together_pure fun _ _ h => h.1
  | some quotas =>
    exact (Abreast.forEach fun quota _ => abreast_emit _).mono (fun _ _ h => h) fun _ _ _ h => h.1

theorem abreast_resources (project : AuthProject) :
    Abreast f config q (SteadyTwins f config q u login) (reportResources project) := by
  refine Together.bind (sturdy_steady.unlessSkipped (abreast_servers hleaf)) fun _ => ?_
  refine Together.bind (sturdy_steady.unlessSkipped (abreast_networkQuotas hleaf)) fun _ => ?_
  exact sturdy_steady.unlessSkipped (abreast_balancers hleaf)

end Project

/-! ## Projects -/

theorem abreast_chooseProject (project : Option String) :
    Abreast f config q (Twins f config q u) (chooseProject project) := by
  refine Together.bind (S := fun _ => Twins f config q u)
    ⟨extends_step _ _, fun {p p'} h _ => ⟨rfl, ?_⟩⟩
    fun _ => together_pure fun _ _ h => h
  refine h.after _ (Step.tracks_setProject (P := fun _ _ _ => True) project) ?_ (List.Subset.refl _)
  exact
    { sound := ⟨h.paired.sound.interface, h.paired.sound.found, h.paired.sound.clients⟩
      sound' := ⟨h.paired.sound'.interface, h.paired.sound'.found, h.paired.sound'.clients⟩
      configured := h.paired.configured
      stays := { h.paired.stays with project := rfl } }

/-- A login is granted on both sides or on neither, and what it grants would be granted again. -/
theorem together_authorize {request : Request} :
    Together f config q (fun p p' => Twins f config q u p p' ∧ p.session.loginRequest = request)
      (step .authorize Step.authorize) fun result p p' => Twins f config q u p p' ∧
        (result = .ok () → ∃ login, Login.ofAnswer config.tokenUrl (f.answer request) = .ok login ∧
          SteadyTwins f config q u login p p') := by
  refine ⟨extends_step _ _, ?_⟩
  rintro p p' ⟨h, rfl⟩ -
  obtain ⟨hresult, hpaired, hgranted⟩ := Fork.paired_authorize h.paired
  have hafter := h.after .authorize (Step.tracks_login .authorize) hpaired
    (by rw [Step.authorize_ledger]; exact List.Subset.refl _)
  refine ⟨hresult, hafter, fun hok => ?_⟩
  obtain ⟨login, hlogin, hsteady⟩ := hgranted hok
  exact ⟨login, hlogin, hafter, hsteady⟩

/-- The section of a project, under whatever login that brings. -/
theorem abreast_project (hleaf : q.isLeaf = true) (project : AuthProject) :
    Abreast f config q (Twins f config q u) (reportProject project) := by
  refine (abreast_chooseProject _).bind fun _ => ?_
  refine Together.mono (R := fun p p' => ∃ request, Twins f config q u p p' ∧
    p.session.loginRequest = request) (Together.exists fun request => ?_)
    (fun p p' h => ⟨_, h, rfl⟩) fun _ _ _ h => h
  refine together_authorize.bind fun result => ?_
  cases result with
  | error e => exact (sturdy_twins.note _).mono (fun _ _ h => h.1) fun _ _ _ h => h
  | ok _ =>
    have hresources : Together f config q (fun p p' => ∃ login, SteadyTwins f config q u login p p')
        (reportResources project) fun _ => Twins f config q u := by
      refine Together.exists fun login => ?_
      exact (abreast_resources hleaf project).mono (fun _ _ h => h) fun _ _ _ h => h.toTwins
    refine hresources.mono (fun p p' h => ?_) fun _ _ _ h => h
    obtain ⟨login, -, hsteady⟩ := h.2 rfl
    exact ⟨login, hsteady⟩

/-- The sections of the projects, after which none is chosen. -/
theorem together_projects (hleaf : q.isLeaf = true) :
    Together f config q (SteadyTwins f config q u login) reportProjects
      fun _ => Twins f config q u := by
  refine together_with (S := fun _ => Twins f config q u) (ask_ne_of_not_isLeaf hleaf rfl)
    fun value => ?_
  cases value with
  | none => exact together_pure fun _ _ h => h.1.toTwins
  | some projects =>
    refine Together.bind (S := fun _ => Twins f config q u) ?_ fun _ => ?_
    · exact Together.mono (Abreast.forEach fun project _ => abreast_project hleaf project)
        (fun _ _ h => h.1.toTwins) fun _ _ _ h => h
    · exact abreast_chooseProject none

/-! ## The whole -/

theorem together_all (hq : f.Blinds config login q u) :
    Together f config q (SteadyTwins f config q u login) reportAll fun _ => Twins f config q u := by
  refine Together.bind (Abreast.forEach fun c _ => abreast_responseTime c) fun _ => ?_
  refine Together.bind (abreast_identity hq) fun _ => ?_
  refine Together.bind (abreast_compute hq) fun _ => ?_
  refine Together.bind (abreast_network hq) fun _ => ?_
  refine Together.bind (abreast_baremetal hq) fun _ => ?_
  exact Together.bind (abreast_loadBalancer hq) fun _ => together_projects hq.leaf

/-- A run whose first login is that under which the query has the URL. -/
theorem together_deployment {request : Request} {login : Login}
    (hlogin : Login.ofAnswer config.tokenUrl (f.answer request) = .ok login)
    (hq : f.Blinds config login q u) :
    Together f config q (fun p p' => Twins f config q u p p' ∧ p.session.loginRequest = request)
      reportDeployment fun _ => Twins f config q u := by
  refine together_authorize.bind fun result => ?_
  cases result with
  | error e => exact (sturdy_twins.note _).mono (fun _ _ h => h.1) fun _ _ _ h => h
  | ok _ =>
    refine ((sturdy_steady.note .loggedIn).bind fun _ => together_all hq).mono (fun p p' h => ?_)
      fun _ _ _ h => h
    obtain ⟨login', hlogin', hsteady⟩ := h.2 rfl
    obtain rfl := Except.ok.inj (hlogin.symm.trans hlogin')
    exact hsteady

end Run

namespace Check

variable {shape : Shape} {config : Config} {q : Query shape} {u token : String} {catalog : Catalog}
  {answer answer' : Request → Answer} {s : Session} {p p' : Progress Unit}

/-- **A failure is confined.** Take a query of a single collection and its URL by the catalog of the
first login, such that nothing else in the run against a deployment without a state has to do with
that URL, and another deployment that answers everything else alike, and that URL in a way in which
the query cannot read it. The report against the second is that against the first without the
metrics that were emitted for the query, which stand together: all others are the same, in the same
order, and so are the service checks and the components that are missing. -/
theorem failure_confined (hleaf : q.isLeaf = true) (hnew : Session.new config = .ok s)
    (hlogin : Login.ofAnswer s.config.tokenUrl (answer s.loginRequest) = .ok (token, catalog))
    (hu : u ∈ (Operation.ask q).urls s.config catalog)
    (hrun : Check.run config (.stateless answer) () = .ok p)
    (hsole : Chronicle (Entry.Spares s.config q (Url.wire u)) p.journal)
    (hagree : ∀ request, (request.method = .get → request.url ≠ Url.wire u) →
      answer' request = answer request)
    (hfails : ∀ request : Request, request.method = .get → request.url = Url.wire u →
      ¬ q.IsReadable (answer' request)) :
    ∃ p', Check.run config (.stateless answer') () = .ok p' ∧
      ∃ before block after, emissions p.journal = before ++ block ++ after ∧
        (∀ e ∈ block, e.1 = some (.ask q)) ∧ (∀ e ∈ before ++ after, e.1 ≠ some (.ask q)) ∧
        p.report.metrics = (before ++ block ++ after).map (·.2) ∧
        p'.report.metrics = (before ++ after).map (·.2) ∧
        p'.report.serviceChecks = p.report.serviceChecks ∧
        p'.report.missing = p.report.missing := by
  let f : Fork := ⟨answer, answer', Url.wire u, hagree⟩
  have hq : f.Blinds s.config (token, catalog) q u := ⟨hleaf, hu, rfl, hfails⟩
  have hheld := Session.holds_new hnew
  have hstart : Twins f s.config q u (start s ()) (start s ()) :=
    { paired := ⟨hheld.sound, hheld.sound, rfl, .refl _ s⟩
      holds := hheld
      severed := ⟨[], .nil, fun h => absurd rfl h⟩ }
  obtain rfl := Except.ok.inj ((run_of_new hnew _ ()).symm.trans hrun)
  obtain ⟨-, htwins⟩ := (Run.together_deployment hlogin hq).related ⟨hstart, rfl⟩ hsole
  obtain ⟨block, hsevered, -⟩ := htwins.severed
  obtain ⟨before, after, hsplit, hothers, hmetrics⟩ := hsevered.metrics
  refine ⟨_, run_of_new hnew (.stateless answer') (), before, block, after, hsplit,
    hsevered.own, hothers, ?_, hmetrics, hsevered.checks, hsevered.missing⟩
  rw [← hsplit]
  exact (map_snd_emissionsAfter none _).symm

/-- What a deployment answers that grants every login, and limits compute to five cores. -/
def limitedAnswer (request : Request) : Answer :=
  match request.method with
  | .post =>
    .response 201 (some "token")
      (.json (.obj [("token", .obj [("catalog", Catalog.sample.toJson)])])) 0
  | .get =>
    .response 200 none
      (.json (.obj [("limits", .obj [("absolute", .obj [("max_total_cores", .int 5)])])])) 0

/-- The same, but that the limits are refused. -/
def refusedAnswer (request : Request) : Answer :=
  if request.method = .get ∧ request.url = "http://nova/limits" then
    .response 401 none (.json .null) 0
  else limitedAnswer request

/-- Where the limits of compute are refused, the one metric that they would have brought is lost,
and what was reported before it is not. -/
theorem computeLimits_confined :
    let p := (Run.reportDeployment (.stateless limitedAnswer) (start .sample ())).2
    p.report.metrics.length = 2 ∧
      ∃ p', Check.run .sample (.stateless refusedAnswer) () = .ok p' ∧
        ∃ before block after, emissions p.journal = before ++ block ++ after ∧
          (∀ e ∈ block, e.1 = some (.ask .computeLimits)) ∧
          (∀ e ∈ before ++ after, e.1 ≠ some (.ask .computeLimits)) ∧
          p.report.metrics = (before ++ block ++ after).map (·.2) ∧
          p'.report.metrics = (before ++ after).map (·.2) ∧
          p'.report.serviceChecks = p.report.serviceChecks ∧
          p'.report.missing = p.report.missing := by
  intro p
  have hrun : Check.run .sample (.stateless limitedAnswer) () = .ok p := rfl
  have hwire : Url.wire "http://nova/limits" = "http://nova/limits" := by decide +kernel
  have hlogin : Login.ofAnswer Config.sample.tokenUrl (limitedAnswer Session.sample.loginRequest) =
      .ok ("token", Catalog.sample) := rfl
  have hsole : Chronicle (Entry.Spares .sample .computeLimits (Url.wire "http://nova/limits"))
      p.journal := by decide +kernel
  refine ⟨by decide +kernel,
    failure_confined rfl Session.new_sample hlogin (by decide +kernel) hrun hsole
    (fun request hne => ?_) fun request hget hurl => ?_⟩
  · rw [refusedAnswer, if_neg]
    rintro ⟨hget, hurl⟩
    exact hne hget (hurl.trans hwire.symm)
  · rw [refusedAnswer, if_pos ⟨hget, hurl.trans hwire⟩]
    exact Query.not_isReadable_of_isFailure fun _ _ => .status rfl

end Check

end StackWatch
