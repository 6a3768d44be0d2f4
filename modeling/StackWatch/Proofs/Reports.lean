import StackWatch.Proofs.Lawful

/-!
# What a report can be relied on for

Three consequences of the law, for every configuration, every deployment and every run of the check.

A component that was skipped is left alone until the end (`Check.skipped_silent`). Every request
goes out under a token for the project that is reported at that time (`Check.requests_in_scope`).
And a component that a report lists as missing is absent from a catalog that was issued during the
run, as long as no query loses its login (`Check.missing_from_catalog`). Where a query does, the
components that come after it are found missing although every catalog lists them:
`Deployment.revoking` shows one.
-/

namespace StackWatch

variable {σ : Type} {config : Config} {d : Deployment σ} {w : σ} {p : Progress σ}

/-! ## Skipped components -/

/-- Whether an entry is a request to a component, or one of its metrics. -/
def Entry.Concerns (c : Component) : Entry → Prop
  | .event (.exchange (.polling c') _ _) => c' = c
  | .metric m => c.Names m.name
  | _ => False

theorem mem_metricsOf {m : Metric} {journal : List Entry} :
    m ∈ metricsOf journal ↔ .metric m ∈ journal := by
  rw [metricsOf, List.mem_filterMap]
  constructor
  · rintro ⟨entry, hmem, hentry⟩
    cases entry with
    | metric m' =>
      obtain rfl : m' = m := Option.some.inj hentry
      exact hmem
    | _ => cases hentry
  · intro hmem
    exact ⟨_, hmem, rfl⟩

/-- What a lawful journal holds of a component after it was skipped. -/
theorem Chronicle.silent_after {journal before after : List Entry} {c : Component}
    (h : Chronicle (Entry.Lawful config) journal) (hskipped : c ∈ skippedOf before)
    (hjournal : journal = before ++ after) : ∀ entry ∈ after, ¬ entry.Concerns c := by
  intro entry hentry hconcerns
  obtain ⟨between, rest, rfl⟩ := List.append_of_mem hentry
  have hlawful : entry.Lawful config (before ++ between) :=
    h (hjournal.trans (List.append_assoc ..).symm)
  have hmem : c ∈ skippedOf (before ++ between) := by
    rw [skippedOf_append]
    exact List.mem_append_left _ hskipped
  cases entry with
  | metric m => exact hlawful.quiet c hconcerns hmem
  | event event =>
    cases event with
    | notice n => exact hconcerns
    | exchange purpose request answer =>
      cases purpose with
      | polling c' =>
        obtain rfl : c' = c := hconcerns
        exact hlawful.quiet hmem
      | _ => exact hconcerns
  | _ => exact hconcerns

/-- Of a component that is skipped before anything is reported of it, nothing is reported. -/
theorem Chronicle.unmeasured {journal before after : List Entry} {c : Component}
    (h : Chronicle (Entry.Lawful config) journal) (hskipped : c ∈ skippedOf before)
    (hunmeasured : Unmeasured c before) (hjournal : journal = before ++ after) :
    Unmeasured c journal := by
  intro m hm hnames
  rw [hjournal, metricsOf_append] at hm
  rcases List.mem_append.1 hm with hm | hm
  · exact hunmeasured m hm hnames
  · exact h.silent_after hskipped hjournal (.metric m) (mem_metricsOf.1 hm) hnames

/-- **Skipped components stay silent.** From the moment at which a component is skipped, nothing is
asked of it and nothing is reported of it. So nothing at all is reported of a component that could
not be reached, or that was found missing when it was timed. -/
theorem Check.skipped_silent (h : Check.run config d w = .ok p) :
    (∀ before c after, p.journal = before ++ .skipped c :: after →
      ∀ entry ∈ after, ¬ entry.Concerns c) ∧
    (∀ c : Component, ∀ check ∈ p.report.serviceChecks, check.name = c.checkName →
      check.status = .critical → ∀ m ∈ p.report.metrics, ¬ c.Names m.name) ∧
    ∀ before c after probe, p.journal = before ++ .missing c :: after →
      lastOperation before = some (.probe probe) → ∀ m ∈ p.report.metrics, ¬ c.Names m.name := by
  have hlawful := Check.run_lawful h
  refine ⟨fun before c after hjournal => ?_, fun c check hcheck hname hstatus => ?_,
    fun before c after probe hjournal hlast => ?_⟩
  · have hskipped : c ∈ skippedOf (before ++ [.skipped c]) := by
      rw [skippedOf_append]
      exact List.mem_append_right _ (List.mem_singleton_self c)
    exact hlawful.silent_after hskipped (by rw [hjournal, List.append_assoc]; rfl)
  · obtain ⟨entry, hentry, hmatch⟩ := List.mem_filterMap.1 hcheck
    obtain ⟨before, after, hjournal⟩ := List.append_of_mem hentry
    cases entry with
    | check check' =>
      obtain rfl : check' = check := Option.some.inj hmatch
      obtain ⟨hskipped, hunmeasured⟩ := (hlawful hjournal).quiet c hname hstatus
      exact hlawful.unmeasured hskipped hunmeasured hjournal
    | _ => cases hmatch
  · obtain ⟨hskipped, hunmeasured⟩ := (hlawful hjournal).quiet
    exact hlawful.unmeasured hskipped (hunmeasured probe hlast) hjournal

/-- A deployment that grants every login, and drops every other request. -/
def Deployment.mute : Deployment Unit := .stateless fun request =>
  match request.method with
  | .post =>
    .response 201 (some "token")
      (.json (.obj [("token", .obj [("catalog", Catalog.sample.toJson)])])) 0
  | .get => .dropped

/-- Where nothing but logins is answered, compute cannot be reached, and
nothing is reported of it. -/
theorem Check.compute_silent :
    let p := (Run.reportDeployment Deployment.mute (Check.start .sample ())).2
    ⟨Component.compute.checkName, .critical, Session.sample.baseTags⟩ ∈ p.report.serviceChecks ∧
      p.report.missing.length = 5 ∧ ∀ m ∈ p.report.metrics, ¬ Component.compute.Names m.name := by
  intro p
  have hrun : Check.run .sample Deployment.mute () = .ok p := rfl
  have hcheck : ⟨Component.compute.checkName, .critical, Session.sample.baseTags⟩ ∈
      p.report.serviceChecks := by decide +kernel
  exact ⟨hcheck, by decide +kernel, (Check.skipped_silent hrun).2.1 .compute _ hcheck rfl rfl⟩

/-! ## Requests and projects -/

/-- **Every request is in scope.** Whatever is got in a run is got in the course of an operation
that belongs to the project that is reported, or to none if none is, and under a token that the
last request for one brought, which asked for that project. The list of projects alone may be
asked for without a token. -/
theorem Check.requests_in_scope (h : Check.run config d w = .ok p) {before after : List Entry}
    {purpose : Purpose} {request : Request} {answer : Answer}
    (hjournal : p.journal = before ++ .event (.exchange purpose request answer) :: after)
    (hget : request.method = .get) :
    ∃ op, lastOperation before = some op ∧ op.InScope (projectOf before) ∧
      (∀ token, request.token = some token →
        Issued p.session.config (projectOf before) (eventsOf before) token) ∧
      (request.token = none → purpose = .projectList) :=
  (Check.run_lawful h hjournal).inScope hget

/-- A deployment with one project, that counts the logins it grants: the first token is `first`, and
every later one `second`. -/
def Deployment.counting : Deployment Nat := fun request n =>
  match request.method with
  | .post =>
    (.response 201 (some (if n = 0 then "first" else "second"))
      (.json (.obj [("token", .obj [("catalog", Catalog.sample.toJson)])])) 0, n + 1)
  | .get =>
    (.response 200 none
      (.json (.obj [("projects", .arr [.obj [("id", .str "p")]]),
        ("quota_set", .obj [("id", .str "p")])])) 0, n)

/-- A run with the accepted configuration keeps it. -/
theorem Check.config_of_sample (h : Check.run .sample d w = .ok p) :
    p.session.config = .sample := by
  obtain ⟨s, hnew, hkept⟩ := Check.run_kept h
  obtain rfl := Except.ok.inj (Session.new_sample.symm.trans hnew)
  exact hkept.configured

/-- Whether an entry is a request that gets a URL with a token. -/
def Entry.getsWith (url token : String) : Entry → Bool
  | .event (.exchange _ request _) =>
    request.url == url && request.token == some token && request.method == .get
  | _ => false

/-- The quota of the project is asked for with the second token, which was issued for the project
that is reported then. -/
theorem Check.quotaSet_in_scope :
    let p := (Run.reportDeployment Deployment.counting (Check.start .sample 0)).2
    ∃ before after purpose request answer,
      p.journal = before ++ .event (.exchange purpose request answer) :: after ∧
        request.url = "http://nova/os-quota-sets/p" ∧ request.token = some "second" ∧
        ∃ op, lastOperation before = some op ∧ op.InScope (projectOf before) ∧
          Issued .sample (projectOf before) (eventsOf before) "second" := by
  intro p
  have hrun : Check.run .sample Deployment.counting 0 = .ok p := rfl
  have hany : (p.journal.any (Entry.getsWith "http://nova/os-quota-sets/p" "second")) = true := by
    decide +kernel
  obtain ⟨entry, hentry, hmatch⟩ := List.any_eq_true.1 hany
  obtain ⟨before, after, hjournal⟩ := List.append_of_mem hentry
  unfold Entry.getsWith at hmatch
  split at hmatch
  · rename_i purpose request answer
    simp only [Bool.and_eq_true, beq_iff_eq] at hmatch
    obtain ⟨⟨hurl, htoken⟩, hget⟩ := hmatch
    obtain ⟨op, hlast, hscope, hissued, -⟩ := Check.requests_in_scope hrun hjournal hget
    rw [Check.config_of_sample hrun] at hissued
    exact ⟨before, after, purpose, request, answer, hjournal, hurl, htoken, op, hlast, hscope,
      hissued "second" htoken⟩
  · cases hmatch

/-! ## Missing components -/

/-- **Missing means missing**, as long as no query loses its login: a component that is reported as
missing is absent from the catalog of a login that succeeded during the run. -/
theorem Check.missing_from_catalog (h : Check.run config d w = .ok p)
    (hkept : ¬ LostLogin p.session.config.tokenUrl p.journal) :
    ∀ c ∈ p.report.missing, ∃ purpose request answer token catalog,
      .exchange purpose request answer ∈ p.trace ∧ request.method = .post ∧
        Login.ofAnswer p.session.config.tokenUrl answer = .ok (token, catalog) ∧
        catalog.findUrl? c p.session.config.interface = none := by
  intro c hc
  obtain ⟨entry, hentry, hmatch⟩ := List.mem_filterMap.1 hc
  obtain ⟨before, after, hjournal⟩ := List.append_of_mem hentry
  have hlawful := Check.run_lawful h hjournal
  cases entry with
  | missing c' =>
    obtain rfl : c' = c := Option.some.inj hmatch
    rcases hlawful.warranted with ⟨login, hlogin, hfind⟩ | hlost
    · obtain ⟨request, answer, hpost, hanswer⟩ := lastPost?_of_lastLogin hlogin
      obtain ⟨hmethod, purpose, hmem⟩ := mem_of_lastPost? hpost
      refine ⟨purpose, request, answer, login.1, login.2, ?_, hmethod, hanswer, hfind⟩
      rw [Progress.trace, hjournal, eventsOf_append]
      exact List.mem_append_left _ hmem
    · exact absurd (hjournal ▸ hlost.append _) hkept
  | _ => cases hmatch

/-- Where every login of a run is answered with a catalog, no query loses its login. -/
theorem not_lostLogin {tokenUrl : String} {journal : List Entry}
    (h : (eventsOf journal).all (fun event =>
      match event with
      | .exchange .authorization _ answer => (Login.ofAnswer tokenUrl answer).toOption.isSome
      | _ => true) = true) : ¬ LostLogin tokenUrl journal := by
  rintro ⟨before, after, request, answer, shape, q, e, rfl, -, hanswer⟩
  have hmem : .exchange .authorization request answer ∈
      eventsOf (before ++ .event (.exchange .authorization request answer) :: after) :=
    List.mem_filterMap.2 ⟨.event (.exchange .authorization request answer), by simp, rfl⟩
  have hgranted := List.all_eq_true.1 h _ hmem
  simp only [hanswer] at hgranted
  cases hgranted

/-- The network of a deployment that has none is missing, and no catalog has an endpoint for it. -/
theorem Check.network_missing :
    let p := (Run.reportDeployment Deployment.counting (Check.start .sample 0)).2
    Component.network ∈ p.report.missing ∧ ∃ purpose request answer token catalog,
      .exchange purpose request answer ∈ p.trace ∧ request.method = .post ∧
        Login.ofAnswer Config.sample.tokenUrl answer = .ok (token, catalog) ∧
        catalog.findUrl? .network Config.sample.interface = none := by
  intro p
  have hrun : Check.run .sample Deployment.counting 0 = .ok p := rfl
  have hmissing : Component.network ∈ p.report.missing := by decide +kernel
  have hkept : ¬ LostLogin Config.sample.tokenUrl p.journal := not_lostLogin (by decide +kernel)
  have hconfig := Check.config_of_sample hrun
  rw [← hconfig] at hkept ⊢
  exact ⟨hmissing, Check.missing_from_catalog hrun hkept .network hmissing⟩

/-- A deployment that grants the first login and no other, and shows nothing but its roots: whatever
lies below them is refused. -/
def Deployment.revoking : Deployment Nat := fun request n =>
  match request.method with
  | .post =>
    if n = 0 then
      (.response 201 (some "token")
        (.json (.obj [("token", .obj [("catalog", Catalog.sample.toJson)])])) 0, n + 1)
    else (.response 503 none (.json .null) 0, n + 1)
  | .get =>
    if request.url = "http://nova/" then (.response 200 none (.json .null) 0, n)
    else (.response 401 none (.json .null) 0, n)

/-- Whether the catalog that an exchange brings has an endpoint for a
component, if it brings one. -/
def Event.lists (config : Config) (c : Component) : Event → Bool
  | .exchange _ _ answer =>
    (Login.ofAnswer config.tokenUrl answer).toOption.all fun login =>
      (login.2.findUrl? c config.interface).isSome
  | .notice _ => true

/-- Where a query loses its login, what comes after it is found missing: compute, although the one
catalog that was issued lists it. -/
theorem Check.compute_missing_after_lost_login :
    ¬ ∀ (config : Config) (d : Deployment Nat) (w : Nat) (p : Progress Nat),
      Check.run config d w = .ok p → ∀ c ∈ p.report.missing,
        ∃ purpose request answer token catalog, .exchange purpose request answer ∈ p.trace ∧
          request.method = .post ∧
          Login.ofAnswer p.session.config.tokenUrl answer = .ok (token, catalog) ∧
          catalog.findUrl? c p.session.config.interface = none := by
  intro hclaim
  let p := (Run.reportDeployment Deployment.revoking (Check.start .sample 0)).2
  have hrun : Check.run .sample Deployment.revoking 0 = .ok p := rfl
  have hmissing : Component.compute ∈ p.report.missing := by decide +kernel
  obtain ⟨purpose, request, answer, token, catalog, hmem, hpost, hanswer, hfind⟩ :=
    hclaim .sample Deployment.revoking 0 p hrun .compute hmissing
  -- every catalog that was issued lists compute
  have hlists : (p.trace.all (Event.lists .sample .compute)) = true := by decide +kernel
  have hlisted := List.all_eq_true.1 hlists _ hmem
  rw [Check.config_of_sample hrun] at hanswer hfind
  simp only [Event.lists, hanswer, Except.toOption, Option.all_some, hfind] at hlisted
  cases hlisted

end StackWatch
