import StackWatch.Proofs.Opening
import StackWatch.Proofs.Rearranging
import StackWatch.Proofs.Turns

/-!
# Projects are reported independently

The projects of a run share one session: its token and catalog, its clients, its ledger, and the
components that were given up all go on from one project to the next. None of that can be seen in
what is reported of a project, as long as no URL is asked for while two of them are reported
(`Check.projects_independent`): the same projects in another order are the same blocks of metrics in
that order, and a project whose login is refused takes its own block with it and nothing else.

So does a project that is not listed any more, unless identity's own projects are read where those
of the user are listed: the two have different URLs, but of a URL with a fragment only what comes
before it is sent (`Check.own_projects_dependent`).
-/

namespace StackWatch

/-- Two runs of which the second reports some of the projects of the first one, in whatever order,
and has the logins of some refused: each other project has the same block of metrics, and what
belongs to no project is the same. -/
structure Progress.SameBlocks (projects projects' : List AuthProject) (refused : List String)
    (p p' : Progress Unit) : Prop where
  metrics : p.report.metrics = p.metricsFor none ++ projects.flatMap
    fun a => p.metricsFor (some a.id)
  metrics' : p'.report.metrics = p'.metricsFor none ++ projects'.flatMap
    fun a => p'.metricsFor (some a.id)
  checks : p'.report.serviceChecks = p.report.serviceChecks
  missing : p'.report.missing = p.report.missing
  others : p'.metricsFor none = p.metricsFor none
  blocks : ∀ a ∈ projects', p'.metricsFor (some a.id) =
    if a.id ∈ refused then [] else p.metricsFor (some a.id)

/-! ## The same projects in another order -/

section Listed

variable {url : String} {items items' : List Json} {projects : List AuthProject}

/-- The identifiers of the projects are those of the items. By induction on the items. -/
theorem itemKeys_of_mapM : ∀ {items : List Json} {projects : List AuthProject},
    items.mapM (AuthProject.ofJson url) = .ok projects →
      items.map (itemKey? "projects") = projects.map fun a => some a.id
  | [], projects, h => by
    obtain rfl := Except.ok.inj h
    rfl
  | item :: rest, projects, h => by
    have hkey : itemKey? "projects" item = (entityId url item).toOption :=
      (toOption_entityId url item).symm
    rw [List.mapM_cons] at h
    cases hid : entityId url item with
    | error e =>
      rw [AuthProject.ofJson, hid] at h
      cases h
    | ok id =>
      cases hrest : rest.mapM (AuthProject.ofJson url) with
      | error e =>
        rw [AuthProject.ofJson, hid, hrest] at h
        cases h
      | ok others =>
        rw [AuthProject.ofJson, hid, hrest] at h
        obtain rfl := Except.ok.inj h
        rw [List.map_cons, List.map_cons, itemKeys_of_mapM hrest, hkey, hid]
        rfl

/-- **Projects that are told apart** become the same collection in whatever
order they are listed. -/
theorem collect_projects_perm (hread : items.mapM (AuthProject.ofJson url) = .ok projects)
    (hids : (projects.map (·.id)).Nodup) (hperm : items'.Perm items) (url' : String) :
    Listing.projects.collect url' items' = Listing.projects.collect url' items := by
  have hkeys := itemKeys_of_mapM hread
  have hapart : items.Pairwise (Apart "projects") := by
    have hnodup : (items.map (itemKey? "projects")).Nodup := by
      rw [hkeys]
      exact List.pairwise_map.2 ((List.pairwise_map.1 hids).imp
        fun hne heq => hne (Option.some.inj heq))
    exact (List.pairwise_map.1 hnodup).imp fun hne id hid hid' => hne (hid.trans hid'.symm)
  have hcollect := Listing.projects.collect_rearranged url' (.moved hperm hapart)
  -- every item has an identifier, so neither order fails
  have hok : ∃ entities, Listing.projects.collect url' items = .ok entities := by
    rw [Listing.collect, collect, entriesOf_eq_gather, gather_of_forall_ok]
    · exact ⟨_, rfl⟩
    · intro item hitem
      obtain ⟨a, -, hkey⟩ := List.mem_map.1 (hkeys ▸ List.mem_map_of_mem hitem)
      have hid : (entityId url' item).toOption = some a.id :=
        (toOption_entityId url' item).trans hkey.symm
      change ∃ first, ((entityId url' item).map some).map _ = .ok first
      cases hitem : entityId url' item with
      | error e =>
        rw [hitem] at hid
        cases hid
      | ok id => exact ⟨_, rfl⟩
  obtain ⟨entities, hok⟩ := hok
  rw [hok] at hcollect ⊢
  generalize Listing.projects.collect url' items' = other at hcollect
  cases hcollect with
  | ok heq => rw [heq]

end Listed

namespace Run

variable {answer answer' : Request → Answer} {config : Config} {login : Login}
  {items items' : List Json} {refused : List String} {start : Session} {p p' : Progress Unit}
  {projects projects' : List AuthProject}

/-- The sections of projects, and the end of a run. -/
def reportListed (projects : List AuthProject) : Run Unit Unit := do
  forEach reportProject projects
  chooseProject none

/-- **The sections of projects** in two runs that came to them alike. -/
theorem Opening.listed (h : Opening answer answer' config login start p p')
    (hserved : Served config login.2 p)
    (hlists : Relisting config login.2 items items' answer answer')
    (hrefusing : Refusing config refused answer answer') (huniform : Uniform config login.2 answer)
    (hids : (projects.map (·.id)).Nodup) (hids' : (projects'.map (·.id)).Nodup)
    (hsome : projects' ⊆ projects) (hdisjoint : Disjoint config login.2 projects fun a =>
      (reportListed projects (.stateless answer) p).2.portion (some a.id)) :
    (reportListed projects (.stateless answer) p).2.SameBlocks projects projects' refused
      (reportListed projects' (.stateless answer') p').2 := by
  have hrelated := h.parallel.related
  have hreport := reportOf_eq_of_blur h.blur_eq
  have hsound := hrelated.steady.holds.sound
  have hsetup := Session.SameSetup.of_akin hrelated.akin hrelated.steady'.holds.sound
  obtain ⟨sections, hpassed⟩ := passed_projects huniform projects hsound hrelated.configured hserved
  have hin : (reportListed projects (.stateless answer) p).2.InSections
      (projects.map (·.id)) p.journal
      sections := by
    refine ⟨?_, h.steadfast, hpassed.sectioned⟩
    change (forEach reportProject projects (.stateless answer) p).2.journal ++ _ = _
    rw [hpassed.journal, List.append_assoc]
    rfl
  have hportions : (fun a : AuthProject =>
      (reportListed projects (.stateless answer) p).2.portion (some a.id)) =
      fun a => portionAfter (some a.id) none sections := funext fun a => hin.portion_some a.id
  rw [hportions] at hdisjoint
  obtain ⟨sections', hpassed', hblocks⟩ :=
    turns_alike hlists hrefusing huniform hrelated.configured hserved
    (fun a ha => turn_of_mem huniform hsound hrelated.configured hserved hids
      hpassed.journal hdisjoint ha)
    hdisjoint projects' hsome hids' hsetup h.parallel.skipped h.parallel.missing
    fun _ _ url _ => hrelated.agree url trivial
  have hin' : (reportListed projects' (.stateless answer') p').2.InSections
      (projects'.map (·.id)) p'.journal
      sections' := by
    refine ⟨?_, h.steadfast.of_blur h.blur_eq, hpassed'.sectioned⟩
    change (forEach reportProject projects' (.stateless answer') p').2.journal ++ _ = _
    rw [hpassed'.journal, List.append_assoc]
    rfl
  obtain ⟨hchecks, hmissing, hothers⟩ := hin.views
  obtain ⟨hchecks', hmissing', hothers'⟩ := hin'.views
  refine ⟨?_, ?_, ?_, ?_, ?_, fun a ha => ?_⟩
  · rw [hin.metrics hids, List.flatMap_map]
  · rw [hin'.metrics hids', List.flatMap_map]
  · rw [hchecks, hchecks']
    exact congrArg Report.serviceChecks hreport
  · rw [hmissing, hmissing']
    exact congrArg Report.missing hreport
  · rw [hothers, hothers']
    exact congrArg Report.metrics hreport
  · rw [Progress.metricsFor, hin'.portion_some, hblocks a ha none,
      Progress.metricsFor, hin.portion_some]

/-- Two runs that come to no project. -/
theorem sameBlocks_of_steadfast (hblur : p'.journal.map Entry.blur = p.journal.map Entry.blur)
    (hsteadfast : Steadfast p.journal) : p.SameBlocks projects projects' refused p' := by
  have hportion : ∀ {q : Progress Unit}, Steadfast q.journal →
      q.metricsFor none = q.report.metrics ∧
      ∀ id, q.metricsFor (some id) = [] := by
    intro q hq
    refine ⟨?_, fun id => ?_⟩
    · rw [Progress.metricsFor, Progress.portion, (portionAfter_steadfast none none hq).1]
      rfl
    · rw [Progress.metricsFor, Progress.portion, (portionAfter_steadfast (some id) none hq).1]
      rfl
  obtain ⟨hnone, hsome⟩ := hportion hsteadfast
  obtain ⟨hnone', hsome'⟩ := hportion (hsteadfast.of_blur hblur)
  have hreport : p'.report = p.report := reportOf_eq_of_blur hblur
  refine ⟨?_, ?_, congrArg Report.serviceChecks hreport, congrArg Report.missing hreport,
    ?_, fun a _ => ?_⟩
  · simp [hnone, hsome]
  · simp [hnone', hsome']
  · rw [hnone, hnone', hreport]
  · rw [hsome, hsome', ite_self]

/-- **The projects of two runs** that came to them alike. -/
theorem Opening.sameBlocks (h : Opening answer answer' config login start p p')
    (hserved : Served config login.2 p)
    (hlists : Relisting config login.2 items items' answer answer')
    (hrefusing : Refusing config refused answer answer') (huniform : Uniform config login.2 answer)
    (hlisted : AuthProject.ofAnswer config.projectsUrl (answer start.listRequest) = .ok projects)
    (hlisted' : AuthProject.ofAnswer config.projectsUrl (answer' start.listRequest) = .ok projects')
    (hids : (projects.map (·.id)).Nodup) (hids' : (projects'.map (·.id)).Nodup)
    (hsome : projects' ⊆ projects) (hdisjoint : Disjoint config login.2 projects fun a =>
      (reportProjects (.stateless answer) p).2.portion (some a.id)) :
    (reportProjects (.stateless answer) p).2.SameBlocks projects projects' refused
      (reportProjects (.stateless answer') p').2 := by
  have hrelated := h.parallel.related
  have hconfig := hrelated.configured
  have hconfig' := hrelated.akin.config.trans hconfig
  have hhttp : p'.session.http = p.session.http := hrelated.akin.http
  cases hrequest : p.session.http.request? .get p.session.config.projectsUrl none with
  | none =>
    have hrequest' : p'.session.http.request? .get p'.session.config.projectsUrl none = none := by
      rw [hhttp, hrelated.akin.config, hrequest]
    have hasked : Opening answer answer' config login start
        (p.after (α := Unit) (.ask .authProjects) ⟨.ok (), p.session, p.state, []⟩)
        (p'.after (α := Unit) (.ask .authProjects) ⟨.ok (), p'.session, p'.state, []⟩) :=
      h.after (fun _ => rfl) rfl rfl rfl
    have hend : Opening answer answer' config login start (reportProjects (.stateless answer) p).2
        (reportProjects (.stateless answer') p').2 := by
      rw [reportProjects, bind_apply, bind_apply, ask_authProjects_unsent hrequest,
        ask_authProjects_unsent hrequest', hrelated.akin.config]
      exact hasked.write (remarks_failureOf _ _)
    exact sameBlocks_of_steadfast hend.blur_eq hend.steadfast
  | some request =>
    have hrequest' : p'.session.http.request? .get p'.session.config.projectsUrl none =
        some request := by
      rw [hhttp, hrelated.akin.config, hrequest]
    obtain rfl : request = start.listRequest := by
      rw [Step.eq_getRequest hrequest, Session.getRequest_of_http h.akin.http, h.akin.config]
      rfl
    rw [← hconfig] at hlisted
    rw [← hconfig'] at hlisted'
    have hask := ask_authProjects_listed (d := .stateless answer) hrequest hlisted
    have hask' := ask_authProjects_listed (d := .stateless answer') hrequest' hlisted'
    have hreport : reportProjects (.stateless answer) p =
        reportListed projects (.stateless answer) (ask .authProjects (.stateless answer) p).2 := by
      rw [reportProjects, bind_apply, hask]
      rfl
    have hreport' : reportProjects (.stateless answer') p' =
        reportListed projects' (.stateless answer')
          (ask .authProjects (.stateless answer') p').2 := by
      rw [reportProjects, bind_apply, hask']
      rfl
    rw [hreport, hask] at hdisjoint ⊢
    rw [hreport', hask']
    exact Opening.listed (h.after (fun _ => rfl) rfl rfl rfl)
      (hserved.of_skipped (Progress.skipped_after ..)) hlists
      hrefusing huniform hids hids' hsome hdisjoint

end Run

/-! ## The whole run -/

namespace Check

/-- Two deployments that differ in which projects they list to the user, and in which order, and in
which projects they refuse logins for. -/
structure Variation (s : Session) (catalog : Catalog) (items items' : List Json)
    (projects projects' : List AuthProject) (refused : List String)
    (answer answer' : Request → Answer) : Prop where
  /-- every login that is granted brings the same catalog -/
  uniform : Uniform s.config catalog answer
  refusing : Refusing s.config refused answer answer'
  /-- nothing else is answered differently but the projects that are listed to the user -/
  gets : ∀ request, request.method = .get → answer' request = answer request ∨
    request.url = Url.wire s.config.projectsUrl ∧
    (answer request).Relisted items items' (answer' request)
  /-- the projects that are listed after the first login -/
  listed : ∀ login, Login.ofAnswer s.config.tokenUrl (answer s.loginRequest) = .ok login →
    AuthProject.ofAnswer s.config.projectsUrl (answer (s.relogged login).listRequest) =
      .ok projects ∧
      AuthProject.ofAnswer s.config.projectsUrl (answer' (s.relogged login).listRequest) =
        .ok projects'
  read : items.mapM (AuthProject.ofJson s.config.projectsUrl) = .ok projects
  distinct : (projects.map (·.id)).Nodup
  distinct' : (projects'.map (·.id)).Nodup
  known : projects' ⊆ projects

variable {config : Config} {s : Session} {catalog : Catalog} {items items' : List Json}
  {projects projects' : List AuthProject} {refused : List String}
  {answer answer' : Request → Answer}

/-- **Projects are reported independently of each other.** Take any deployment without a state in
which every login brings the same catalog, the projects that are listed have different identifiers,
and no URL is asked for while two of them are reported. If it lists them in another order, or
refuses the logins of some, or lists only some, where identity's own projects are read elsewhere,
then all that belongs to no project is reported the same, and so is each project that is still
listed and not refused, in the order of the list. -/
theorem projects_independent (hnew : Session.new config = .ok s)
    (h : Variation s catalog items items' projects projects' refused answer answer')
    (hapart : items'.Perm items ∨
      ∀ endpoint, catalog.findUrl? .identity s.config.interface = some endpoint →
      Url.wire ((Resource.listing .projects).url endpoint) ≠ Url.wire s.config.projectsUrl)
    (hdisjoint : Run.Disjoint s.config catalog projects fun a =>
      (Run.reportDeployment (.stateless answer) (start s ())).2.portion (some a.id)) :
    ∃ p p', run config (.stateless answer) () = .ok p ∧
    run config (.stateless answer') () = .ok p' ∧
      p.SameBlocks projects projects' refused p' := by
  refine ⟨_, _, run_of_new hnew _ (), run_of_new hnew _ (), ?_⟩
  have hlists : Relisting s.config catalog items items' answer answer' :=
    ⟨h.gets, hapart.imp_left fun hperm => collect_projects_perm h.read h.distinct hperm⟩
  have hsame : answer' s.loginRequest = answer s.loginRequest := by
    refine h.refusing.login fun id _ => ?_
    rw [(Session.new_fresh hnew).1]
    exact (Option.some_ne_none id).symm
  have halike : LoginAlike answer s s (Step.authorize (.stateless answer) s ())
      (Step.authorize (.stateless answer') s ()) :=
    Step.authorize_alike (Session.holds_new hnew).sound rfl hsame
  have htrace := Run.blur_authorize answer answer' s s rfl rfl
  cases halike with
  | @refused e hresult hresult' =>
    have hrun : (Run.reportDeployment (.stateless answer) (start s ())).2 =
        ((start s ()).after .authorize (Step.authorize (.stateless answer) s ())).write
          [.event (.notice (.loginFailed e))] := Run.reportDeployment_refused hresult
    have hrun' : (Run.reportDeployment (.stateless answer') (start s ())).2 =
        ((start s ()).after .authorize (Step.authorize (.stateless answer') s ())).write
          [.event (.notice (.loginFailed e))] := Run.reportDeployment_refused hresult'
    rw [hrun, hrun']
    refine Run.sameBlocks_of_steadfast ?_ ?_
    · simp only [Progress.write, Progress.after, List.map_append, map_blur_record, htrace]
    · have hlogin : Steadfast
          (Operation.authorize.record (Step.authorize (.stateless answer) s ()).trace) :=
        steadfast_record _ fun _ => rfl
      exact hlogin.append (steadfast_remarks fun e he => by
        rw [List.mem_singleton.1 he]
        trivial)
  | @granted login hresult hresult' hsession hsession' hlogin hsteady =>
    obtain rfl : login.2 = catalog := h.uniform _ login rfl hlogin
    obtain ⟨hlisted, hlisted'⟩ := h.listed login hlogin
    rw [hsession] at hsteady
    have hbegun := Run.opening_login hsteady rfl hsame hsession hsession' htrace
    obtain ⟨hopening, hserved⟩ := hbegun.global hlists
    have hrun : (Run.reportDeployment (.stateless answer) (start s ())).2 = _ :=
      Run.reportDeployment_granted hresult
    have hrun' : (Run.reportDeployment (.stateless answer') (start s ())).2 = _ :=
      Run.reportDeployment_granted hresult'
    rw [hrun] at hdisjoint ⊢
    rw [hrun']
    exact hopening.sameBlocks hserved hlists h.refusing h.uniform hlisted hlisted'
      h.distinct h.distinct'
      h.known hdisjoint

/-! ## Three projects -/

/-- The project that a request for a token asks for. -/
def scopeProject? (request : Request) : Option String :=
  match request.scope? with
  | some (.obj [("project", .obj [("id", .str id)])]) => some id
  | _ => none

/-- The answer that grants a login with a catalog. -/
def grantAnswer (catalog : Catalog) : Answer :=
  .response 201 (some "token") (.json (.obj [("token", .obj [("catalog", catalog.toJson)])])) 0

/-- What a deployment answers that refuses the logins of some projects, lists projects to the user,
and answers every query with the same quotas. -/
def listingAnswer (catalog : Catalog) (items : List Json) (refused : List String)
    (request : Request) : Answer :=
  match request.method with
  | .post =>
    match scopeProject? request with
    | some id => if id ∈ refused then .response 403 none (.json .null) 0 else grantAnswer catalog
    | none => grantAnswer catalog
  | .get =>
    if request.url = Url.wire Config.sample.projectsUrl then
      .response 200 none (.json (.obj [("projects", .arr items)])) 0
    else .response 200 none
      (.json (.obj [("quota_set", .obj [("id", .str "quota"), ("cores", .int 4)])])) 0

/-- A project as it is listed. -/
def projectJson (id : String) : Json :=
  .obj [("id", .str id), ("name", .str id), ("enabled", .bool true)]

theorem scope?_eq_iff {request : Request} {id : String} :
    request.scope? = some (Scope.ofProject (some id)).toJson ↔ scopeProject? request = some id := by
  unfold scopeProject?
  constructor
  · intro h
    rw [h]
    rfl
  · intro h
    split at h
    · rename_i hscope
      rw [hscope, ← Option.some.inj h]
      rfl
    · cases h

theorem listing_varies {catalog : Catalog} {items items' : List Json}
    {projects projects' : List AuthProject} {refused : List String}
    (hgrant : Login.ofAnswer Config.sample.tokenUrl (grantAnswer catalog) = .ok ("token", catalog))
    (hread : items.mapM (AuthProject.ofJson Config.sample.projectsUrl) = .ok projects)
    (hread' : items'.mapM (AuthProject.ofJson Config.sample.projectsUrl) = .ok projects')
    (hids : (projects.map (·.id)).Nodup) (hids' : (projects'.map (·.id)).Nodup)
    (hknown : projects' ⊆ projects) :
    Variation .sample catalog items items' projects projects' refused
      (listingAnswer catalog items []) (listingAnswer catalog items' refused) := by
  have hlogin : ∀ request, request.method = .post →
      listingAnswer catalog items [] request = grantAnswer catalog := by
    intro request hpost
    unfold listingAnswer
    rw [hpost]
    dsimp only
    split
    · rfl
    · rfl
  refine ⟨?_, ⟨?_, ?_⟩, ?_, ?_, hread, hids, hids', hknown⟩
  · intro request login hpost h
    rw [hlogin request hpost] at h
    obtain rfl := Except.ok.inj (hgrant.symm.trans h)
    rfl
  · intro request hpost hothers
    rw [hlogin request hpost]
    unfold listingAnswer
    rw [hpost]
    dsimp only
    split
    · rename_i id hid
      rw [if_neg fun hmem => hothers id hmem (scope?_eq_iff.2 hid)]
    · rfl
  · intro request hpost id hid hscope login h
    unfold listingAnswer at h
    rw [hpost] at h
    dsimp only at h
    rw [scope?_eq_iff.1 hscope] at h
    dsimp only at h
    rw [if_pos hid] at h
    cases h
  · intro request hget
    unfold listingAnswer
    rw [hget]
    dsimp only
    by_cases hurl : request.url = Url.wire Config.sample.projectsUrl
    · rw [if_pos hurl, if_pos hurl]
      exact .inr ⟨hurl, .listed rfl rfl fun member hmember => by
        simp [Json.get?, findEntry, hmember]⟩
    · rw [if_neg hurl, if_neg hurl]
      exact .inl rfl
  · intro login _
    have hlisted : ∀ items refused,
        listingAnswer catalog items refused (Session.sample.relogged login).listRequest =
        .response 200 none (.json (.obj [("projects", .arr items)])) 0 := by
      intro items refused
      have hmethod : (Session.sample.relogged login).listRequest.method = .get := rfl
      have hurl : (Session.sample.relogged login).listRequest.url =
          Url.wire Config.sample.projectsUrl := rfl
      unfold listingAnswer
      rw [hmethod]
      dsimp only
      rw [if_pos hurl]
    have hread₀ : ∀ items, AuthProject.ofAnswer Config.sample.projectsUrl
        (.response 200 none (.json (.obj [("projects", .arr items)])) 0) =
          items.mapM (AuthProject.ofJson Config.sample.projectsUrl) := fun _ => rfl
    rw [hlisted, hlisted]
    exact ⟨(hread₀ items).trans hread, (hread₀ items').trans hread'⟩

/-- A catalog with identity, and what else it has. -/
def identityCatalog (identity : String) (others : Catalog) : Catalog :=
  ⟨⟨Component.identity.name, none, [⟨.public, identity, none⟩]⟩ :: others.entries⟩

/-- Three projects are listed, or the last and the first of them, while the first is refused its
login: the last is reported the same. -/
theorem three_projects_independent :
    let catalog := identityCatalog "http://keystone" .sample
    let items := ["one", "two", "three"].map projectJson
    let items' := ["three", "one"].map projectJson
    let projects := ["one", "two", "three"].map fun id => ⟨id, id⟩
    let projects' := ["three", "one"].map fun id => ⟨id, id⟩
    let answer := listingAnswer catalog items []
    let answer' := listingAnswer catalog items' ["one"]
    Session.new .sample = .ok .sample ∧
      Variation .sample catalog items items' projects projects' ["one"] answer answer' ∧
      (∀ endpoint, catalog.findUrl? .identity Config.sample.interface = some endpoint →
        Url.wire ((Resource.listing .projects).url endpoint) ≠ Url.wire Config.sample.projectsUrl) ∧
      Run.Disjoint Config.sample catalog projects (fun a =>
        (Run.reportDeployment (.stateless answer) (start .sample ())).2.portion (some a.id)) ∧
      ∃ p p', run .sample (.stateless answer) () = .ok p ∧
      run .sample (.stateless answer') () = .ok p' ∧
        p.SameBlocks projects projects' ["one"] p' := by
  intro catalog items items' projects projects' answer answer'
  have hvaries : Variation .sample catalog items items' projects projects' ["one"] answer answer' :=
    listing_varies rfl rfl rfl (by decide) (by decide) (by decide)
  have hapart : ∀ endpoint, catalog.findUrl? .identity Config.sample.interface = some endpoint →
      Url.wire ((Resource.listing .projects).url endpoint) ≠
        Url.wire Config.sample.projectsUrl := by
    intro endpoint hendpoint
    obtain rfl : "http://keystone" = endpoint := Option.some.inj hendpoint
    decide
  have hdisjoint : Run.Disjoint Config.sample catalog projects (fun a =>
      (Run.reportDeployment (.stateless answer) (start .sample ())).2.portion (some a.id)) := by
    decide +kernel
  exact ⟨Session.new_sample, hvaries, hapart, hdisjoint,
    projects_independent Session.new_sample hvaries (.inr hapart) hdisjoint⟩

/-- The endpoint of identity may be such that its own projects are read where those of the user are
listed: then one project less is one project less of identity's, too. -/
theorem own_projects_dependent :
    let catalog := identityCatalog (Config.sample.projectsUrl ++ "#") .empty
    let items := ["one", "two"].map projectJson
    let items' := ["one"].map projectJson
    let projects := ["one", "two"].map fun id => ⟨id, id⟩
    let projects' := ["one"].map fun id => ⟨id, id⟩
    let answer := listingAnswer catalog items []
    let answer' := listingAnswer catalog items' []
    let p := (Run.reportDeployment (.stateless answer) (start .sample ())).2
    let p' := (Run.reportDeployment (.stateless answer') (start .sample ())).2
    run .sample (.stateless answer) () = .ok p ∧ run .sample (.stateless answer') () = .ok p' ∧
      Variation .sample catalog items items' projects projects' [] answer answer' ∧
      Run.Disjoint Config.sample catalog projects (fun a => p.portion (some a.id)) ∧
      p'.metricsFor none ≠ p.metricsFor none ∧ ¬ p.SameBlocks projects projects' [] p' := by
  intro catalog items items' projects projects' answer answer' p p'
  have hvaries : Variation .sample catalog items items' projects projects' [] answer answer' :=
    listing_varies rfl rfl rfl (by decide) (by decide) (by decide)
  have hothers : p'.metricsFor none ≠ p.metricsFor none := fun heq => by
    have hlength : (p'.metricsFor none).length ≠ (p.metricsFor none).length := by decide +kernel
    exact hlength (congrArg List.length heq)
  exact ⟨run_of_new Session.new_sample _ (), run_of_new Session.new_sample _ (), hvaries, by
    decide +kernel, hothers, fun h => hothers h.others⟩

end Check

end StackWatch
