import StackWatch.Proofs.Conduct

/-!
# The list of projects

What the query for the user's projects comes to is told by one answer:
`AuthProject.ofAnswer` reads it, and `Query.listed_of_perform` says that data which come
back were read off an answer of the trace.
-/

namespace StackWatch

/-- The projects that an answer to a URL lists. -/
def AuthProject.ofAnswer (url : String) (answer : Answer) : Except ApiError (List AuthProject) :=
  match HttpClient.receive url answer with
  | .error e => .error e
  | .ok response =>
    match response.array "projects" with
    | .error e => .error e
    | .ok items => items.mapM (AuthProject.ofJson url)

/-- The request for the list of projects, as a session sends it. -/
def Session.listRequest (s : Session) : Request := s.getRequest s.config.projectsUrl

namespace Step

variable {σ : Type} {d : Deployment σ} {s : Session} {w : σ}

/-- The projects are read off the answer to one request, if that can be built. -/
theorem authProjects_apply :
    authProjects d s w =
      match s.http.request? .get s.config.projectsUrl none with
      | none => ⟨.error (.transport s.config.projectsUrl .notBuilt), s, w, []⟩
      | some request =>
        ⟨(AuthProject.ofAnswer s.config.projectsUrl (d request w).1).map some, s, (d request w).2,
          [.exchange .projectList request (d request w).1]⟩ := by
  rw [authProjects, bind_quiet (m := get) rfl]
  cases hrequest : s.http.request? .get s.config.projectsUrl none with
  | none => exact bind_failed (send_of_no_request hrequest)
  | some request =>
    have hsend : send .projectList .get s.config.projectsUrl none d s w = _ :=
      send_of_request hrequest
    unfold AuthProject.ofAnswer
    dsimp only
    cases hanswer : HttpClient.receive s.config.projectsUrl (d request w).1 with
    | error e =>
      rw [hanswer] at hsend
      exact bind_failed hsend
    | ok response =>
      rw [hanswer] at hsend
      rw [bind_of_ok (by rw [hsend]), hsend]
      dsimp only
      cases harray : response.array "projects" with
      | error e => rw [bind_failed (m := ofExcept _) rfl, List.append_nil]; rfl
      | ok items =>
        rw [bind_quiet (m := ofExcept _) rfl]
        dsimp only
        cases hitems : items.mapM (AuthProject.ofJson s.config.projectsUrl) with
        | error e => rw [bind_failed (m := ofExcept _) rfl, List.append_nil]; rfl
        | ok projects => rw [bind_quiet (m := ofExcept _) rfl, pure_apply, List.append_nil]; rfl

end Step

namespace Query

variable {σ : Type} {d : Deployment σ} {s : Session} {w : σ}

/-- An attempt that lists projects read them off the answer to its request. -/
theorem listed_of_attempt {projects : List AuthProject}
    (h : (authProjects.attempt d s w).result = .ok (some projects)) :
    ∃ request answer, .exchange .projectList request answer ∈ (authProjects.attempt d s w).trace ∧
      AuthProject.ofAnswer s.config.projectsUrl answer = .ok projects := by
  change (Step.authProjects d s w).result = _ at h
  change ∃ request answer, _ ∈ (Step.authProjects d s w).trace ∧ _
  rw [Step.authProjects_apply] at h ⊢
  cases hrequest : s.http.request? .get s.config.projectsUrl none with
  | none =>
    rw [hrequest] at h
    cases h
  | some request =>
    rw [hrequest] at h
    refine ⟨request, (d request w).1, List.mem_singleton_self _, ?_⟩
    dsimp only at h
    cases hanswer : AuthProject.ofAnswer s.config.projectsUrl (d request w).1 with
    | error e =>
      rw [hanswer] at h
      cases h
    | ok listed =>
      rw [hanswer] at h
      exact congrArg Except.ok (Option.some.inj (Except.ok.inj h))

/-- **Projects that come back** were listed by an answer of the trace. -/
theorem listed_of_perform {projects : List AuthProject}
    (h : (authProjects.perform d s w).result = .ok (some projects)) :
    ∃ request answer, .exchange .projectList request answer ∈ (authProjects.perform d s w).trace ∧
      AuthProject.ofAnswer s.config.projectsUrl answer = .ok projects := by
  cases authProjects.course d s w with
  | served _ hwhole =>
    rw [hwhole] at h ⊢
    exact listed_of_attempt h
  | again _ _ _ _ hwhole =>
    rw [hwhole, Outcome.result_after] at h
    obtain ⟨request, answer, hmem, hlisted⟩ := listed_of_attempt h
    rw [hwhole]
    refine ⟨request, answer, List.mem_append_right _ hmem, ?_⟩
    -- the login in between keeps the configuration
    have hconfig : (Step.authorize d (authProjects.attempt d s w).session
        (authProjects.attempt d s w).state).session.config = s.config := by
      rw [Step.authorize_keeps.1]
      exact congrArg Session.config (Step.looks_authProjects d s w).1
    rw [← hconfig]
    exact hlisted
  | failed _ _ _ hwhole | lost _ _ _ _ hwhole =>
    rw [hwhole] at h
    cases h
  | broken hfirst _ hwhole =>
    rw [hwhole, hfirst] at h
    cases h
  | locked _ _ _ hwhole =>
    rw [hwhole] at h
    cases h

end Query

namespace Run

variable {σ : Type} {d : Deployment σ} {p : Progress σ}

/-- A list of projects that cannot be asked for: its request cannot be built. -/
theorem ask_authProjects_unsent
    (hrequest : p.session.http.request? .get p.session.config.projectsUrl none = none) :
    ask .authProjects d p =
      (none, (p.after (α := Unit) (.ask .authProjects) ⟨.ok (), p.session, p.state, []⟩).write
        (failureOf .authProjects
          (.error (.transport p.session.config.projectsUrl .notBuilt)))) := by
  have hattempt : Query.authProjects.attempt d p.session p.state =
      ⟨.error (.transport p.session.config.projectsUrl .notBuilt), p.session, p.state, []⟩ := by
    change Step.authProjects d p.session p.state = _
    rw [Step.authProjects_apply, hrequest]
  have hperform := Query.perform_of_broken (congrArg Outcome.result hattempt) rfl
  rw [hattempt] at hperform
  have hyields : Yields (fun _ => True)
      (Query.authProjects.perform d p.session p.state).result := by
    rw [hperform]
    exact fun _ => ApiError.noConfusion
  rw [ask_apply hyields, asked, hperform]
  rfl

/-- A list of projects that is asked for and can be read. -/
theorem ask_authProjects_listed {request : Request} {projects : List AuthProject}
    (hrequest : p.session.http.request? .get p.session.config.projectsUrl none = some request)
    (hlisted : AuthProject.ofAnswer p.session.config.projectsUrl (d request p.state).1 =
      .ok projects) :
    ask .authProjects d p =
      (some projects, p.after (α := Unit) (.ask .authProjects)
        ⟨.ok (), p.session, (d request p.state).2,
        [.exchange .projectList request (d request p.state).1]⟩) := by
  have hattempt : Query.authProjects.attempt d p.session p.state =
      ⟨.ok (some projects), p.session, (d request p.state).2,
        [.exchange .projectList request (d request p.state).1]⟩ := by
    change Step.authProjects d p.session p.state = _
    rw [Step.authProjects_apply, hrequest]
    dsimp only
    rw [hlisted]
    rfl
  have hperform := Query.perform_of_served (congrArg Outcome.result hattempt)
  rw [hattempt] at hperform
  have hyields : Yields (fun _ => True)
      (Query.authProjects.perform d p.session p.state).result := by
    rw [hperform]
    exact trivial
  rw [ask_apply hyields, asked, hperform]
  simp [failureOf, Progress.write, Progress.after, Except.toOption]

end Run

/-- The sections of the components that are not bound to a project. -/
def Run.reportComponents {σ : Type} : Run σ Unit := do
  reportIdentity
  reportCompute
  reportNetwork
  reportBaremetal
  reportLoadBalancer

/-- All that comes before the projects. -/
def Run.reportGlobal {σ : Type} : Run σ Unit := do
  forEach reportResponseTime Component.all
  reportComponents

/-- After the first login come the sections without a project, and then the projects. -/
theorem Run.reportAll_apply {σ : Type} (d : Deployment σ) (p : Progress σ) :
    reportAll d p = reportProjects d (reportGlobal d p).2 := by
  simp only [reportAll, reportGlobal, reportComponents, bind_apply]

/-- A run whose first login fails notes that, and ends. -/
theorem Run.reportDeployment_of_error {σ : Type} {d : Deployment σ} {p : Progress σ} {e : ApiError}
    (h : (step .authorize Step.authorize d p).1 = .error e) :
    reportDeployment d p = note (.loginFailed e) d (step .authorize Step.authorize d p).2 := by
  rw [reportDeployment, bind_apply, h]

/-- A run whose first login is granted goes on. -/
theorem Run.reportDeployment_of_ok {σ : Type} {d : Deployment σ} {p : Progress σ}
    (h : (step .authorize Step.authorize d p).1 = .ok ()) :
    reportDeployment d p = reportAll d
      (note .loggedIn d (step .authorize Step.authorize d p).2).2 := by
  rw [reportDeployment, bind_apply, h]
  generalize (step .authorize Step.authorize d p).2 = p₁
  exact bind_apply (note .loggedIn) (fun _ => reportAll) d p₁

/-- What a run is that is refused its first login. -/
theorem Run.reportDeployment_refused {σ : Type} {d : Deployment σ} {p : Progress σ} {e : ApiError}
    (h : (Step.authorize d p.session p.state).result = .error e) :
    (reportDeployment d p).2 =
      (p.after .authorize (Step.authorize d p.session p.state)).write
      [.event (.notice (.loginFailed e))] := by
  have hstep : step .authorize Step.authorize d p = _ := step_apply ..
  rw [reportDeployment_of_error (congrArg Prod.fst (hstep.trans (congrArg (·, _) h))), hstep]
  rfl

/-- What a run is that is granted its first login. -/
theorem Run.reportDeployment_granted {σ : Type} {d : Deployment σ} {p : Progress σ}
    (h : (Step.authorize d p.session p.state).result = .ok ()) :
    (reportDeployment d p).2 = (reportProjects d (reportGlobal d
      ((p.after .authorize (Step.authorize d p.session p.state)).write
        [.event (.notice .loggedIn)])).2).2 := by
  have hstep : step .authorize Step.authorize d p = _ := step_apply ..
  rw [reportDeployment_of_ok (congrArg Prod.fst (hstep.trans (congrArg (·, _) h))),
    hstep, reportAll_apply]
  rfl

end StackWatch
