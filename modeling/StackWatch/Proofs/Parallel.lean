import StackWatch.Proofs.Pacing
import StackWatch.Proofs.Portions

/-!
# The same section in two runs

A section of a project comes to the same in two runs if its login is answered the same, and if
both runs have read the same of the URLs that the first one asks for in it
(`Run.project_alike`). Whatever else either has read before, and under which logins, is
forgotten with the login or never asked for.
-/

namespace StackWatch

namespace Run

variable {α : Type} {answer answer' : Request → Answer} {config : Config} {login : Login}
  {known : String → Prop} {items items' : List Json} {base base' : List Entry} {c : Component}
  {p p' : Progress Unit}

/-- Two runs under one login that have written the same since some point, and have read the same of
the URLs that are known. -/
abbrev Parallel (answer answer' : Request → Answer) (config : Config) (login : Login)
    (known : String → Prop) (base base' : List Entry) (p p' : Progress Unit) : Prop :=
  Paced (Step.LedgersApart answer answer' config login known) base base' p p'

namespace Parallel

theorem afoot (h : Parallel answer answer' config login known base base' p p') :
    Afoot answer config login p := ⟨h.related.steady, h.related.configured⟩

theorem baseTags_eq {s s' : Session} {w w' : Unit}
    (h : Step.LedgersApart answer answer' config login known s w s' w') :
    s'.baseTags = s.baseTags := by
  rw [Session.baseTags, Session.baseTags, h.akin.config]

end Parallel

variable (hlists : Relisting config login.2 items items' answer answer')
include hlists

/-- A query all of whose URLs are known. -/
theorem parallel_ask {shape : Shape} {q : Query shape} (hq : q.component? = some c)
    (hknown : ∀ url ∈ (Operation.ask q).urls config login.2, known url) :
    Matches (.stateless answer) (.stateless answer')
      (Parallel answer answer' config login known base base') (ask q) (ask q)
      fun _ => Parallel answer answer' config login known base base' :=
  paced_ask ((Step.lockstep_apart hlists).perform q hq fun _ hr _ hsite =>
    hknown _ (Operation.mem_urls hr hsite))

/-- **What is made of queries and metrics** comes to the same, if the URLs are known that the first
run asks for. By induction on the part. -/
theorem Part.parallel {m : Run Unit α} (hm : Part c m) {endpoint : String}
    (hendpoint : login.2.findUrl? c config.interface = some endpoint)
    (hp : Parallel answer answer' config login known base base' p p') {entries : List Entry}
    (hjournal : (m (.stateless answer) p).2.journal = p.journal ++ entries)
    (hknown : ∀ url ∈ urlsOf config login.2 entries, known url) :
    (m (.stateless answer') p').1 = (m (.stateless answer) p).1 ∧
      Parallel answer answer' config login known base base' (m (.stateless answer) p).2
        (m (.stateless answer') p').2 := by
  induction hm generalizing p p' entries with
  | pure a => exact ⟨rfl, hp⟩
  | @bind α β m f hm hf ihm ihf =>
    obtain ⟨first, hfirst⟩ := hm.grown hendpoint hp.afoot
    obtain ⟨rest, hrest⟩ := (hf (m (.stateless answer) p).1).grown hendpoint (hfirst.afoot hp.afoot)
    rw [hfirst.eq_append hrest hjournal, urlsOf_append] at hknown
    obtain ⟨hvalue, hafter⟩ :=
      ihm hp hfirst.journal fun url hurl => hknown url (List.mem_append_left _ hurl)
    rw [bind_apply, bind_apply, hvalue]
    exact ihf _ hafter hrest.journal fun url hurl => hknown url (List.mem_append_right _ hurl)
  | ask q hq =>
    obtain ⟨own, hown, hmem⟩ := grown_ask hp.afoot hq hendpoint
    obtain rfl : own = entries := List.append_cancel_left (hown.journal.symm.trans hjournal)
    exact parallel_ask hlists hq
      (fun url hurl => hknown url (List.mem_flatMap.2 ⟨_, hmem, hurl⟩)) p p' hp
  | emit metrics => exact paced_emit Parallel.baseTags_eq metrics p p' hp
  | configured asks _ ih =>
    rw [bind_apply, get_apply, ite_apply] at hjournal ⊢
    rw [bind_apply, get_apply, ite_apply, hp.related.akin.config]
    split
    · rename_i hasks
      rw [if_pos hasks] at hjournal
      exact ih hp hjournal hknown
    · exact ⟨rfl, hp⟩

/-- **What is made of sections** comes to the same. By induction on the stretch. -/
theorem Stretch.parallel {m : Run Unit α} (hm : Stretch m) (hserved : Served config login.2 p)
    (hp : Parallel answer answer' config login known base base' p p') {entries : List Entry}
    (hjournal : (m (.stateless answer) p).2.journal = p.journal ++ entries)
    (hknown : ∀ url ∈ urlsOf config login.2 entries, known url) :
    (m (.stateless answer') p').1 = (m (.stateless answer) p).1 ∧
      Parallel answer answer' config login known base base' (m (.stateless answer) p).2
        (m (.stateless answer') p').2 := by
  induction hm generalizing p p' entries with
  | pure a => exact ⟨rfl, hp⟩
  | @bind α β m f hm hf ihm ihf =>
    obtain ⟨first, hfirst⟩ := hm.grown hserved hp.afoot
    have hserved' := hserved.of_skipped hfirst.skipped
    obtain ⟨rest, hrest⟩ := (hf (m (.stateless answer) p).1).grown hserved' (hfirst.afoot hp.afoot)
    rw [hfirst.eq_append hrest hjournal, urlsOf_append] at hknown
    obtain ⟨hvalue, hafter⟩ :=
      ihm hserved hp hfirst.journal fun url hurl => hknown url (List.mem_append_left _ hurl)
    rw [bind_apply, bind_apply, hvalue]
    exact ihf _ hserved' hafter hrest.journal fun url hurl =>
      hknown url (List.mem_append_right _ hurl)
  | sectionOf c hm =>
    rw [unlessSkipped, bind_apply, get_apply, ite_apply] at hjournal ⊢
    rw [bind_apply, get_apply, ite_apply, hp.skipped]
    split
    · exact ⟨rfl, hp⟩
    · rename_i hc
      rw [if_neg hc] at hjournal
      obtain ⟨endpoint, hendpoint⟩ := hserved c hc
      exact hm.parallel hlists hendpoint hp hjournal hknown

/-- What is made of sections comes to the same, if the URLs are known of some entries among which
are all that the first run adds. -/
theorem Stretch.parallel_within {m : Run Unit α} (hm : Stretch m)
    (hserved : Served config login.2 p) {entries : List Entry}
    (hp : Parallel answer answer' config login (fun url => url ∈ urlsOf config login.2 entries)
      base base' p p')
    {before earlier : List Entry} (hbefore : p.journal = before ++ earlier)
    (hjournal : (m (.stateless answer) p).2.journal = before ++ entries) :
    Parallel answer answer' config login (fun url => url ∈ urlsOf config login.2 entries) base base'
      (m (.stateless answer) p).2 (m (.stateless answer') p').2 := by
  obtain ⟨rest, hgrown⟩ := hm.grown hserved hp.afoot
  have hentries : entries = earlier ++ rest := by
    rw [hgrown.journal, hbefore, List.append_assoc] at hjournal
    exact (List.append_cancel_left hjournal).symm
  obtain ⟨-, hafter⟩ := hm.parallel hlists hserved hp hgrown.journal fun url hurl => by
    rw [hentries, urlsOf_append]
    exact List.mem_append_right _ hurl
  exact hafter

end Run

/-! ## Sections of a project -/

/-- A session when another project was chosen. -/
abbrev Session.choose (s : Session) (project : Option String) : Session := { s with project }

/-- Two sessions of one configuration, whatever logins they hold. -/
structure Session.SameSetup (s s' : Session) : Prop where
  config : s'.config = s.config
  http : s'.forget.http = s.forget.http
  sound : s'.Sound

namespace Session.SameSetup

variable {s s' s'' : Session}

theorem trans (h : s.SameSetup s') (h' : s'.SameSetup s'') : s.SameSetup s'' :=
  ⟨h'.config.trans h.config, h'.http.trans h.http, h'.sound⟩

theorem of_akin (h : s.Akin s') (hs' : s'.Sound) : s.SameSetup s' :=
  ⟨h.config, congrArg (fun http : HttpClient => { http with token := none }) h.http, hs'⟩

/-- Both ask for the same token for a project. -/
theorem loginRequest (h : s.SameSetup s') (project : Option String) :
    (s'.choose project).loginRequest = (s.choose project).loginRequest := by
  have hnova : s'.http.novaVersion = s.http.novaVersion := by
    change s'.forget.http.novaVersion = s.forget.http.novaVersion
    rw [h.http]
  have hironic : s'.http.ironicVersion = s.http.ironicVersion := by
    change s'.forget.http.ironicVersion = s.forget.http.ironicVersion
    rw [h.http]
  simp only [Session.loginRequest, grant, h.config, hnova, hironic]

/-- Granted the same login, both send the same requests. -/
theorem relogged (h : s.SameSetup s') (project : Option String) (login : Login) :
    ((s.choose project).relogged login).Akin ((s'.choose project).relogged login) :=
  ⟨h.config, congrArg (fun http : HttpClient => { http with token := some login.1 }) h.http, rfl⟩

end Session.SameSetup

theorem Session.Sound.withProject {s : Session} (h : s.Sound) (project : Option String) :
    (s.choose project).Sound := ⟨h.interface, h.found, h.clients⟩

/-- Granted the same login, they go on beside each other. -/
theorem Session.SameSetup.relogged_beside {s s' : Session}
    {answer answer' : Request → Answer} {config : Config} {login : Login} {known : String → Prop}
    {project : Option String} (h : s.SameSetup s')
    (hsteady : ((s.choose project).relogged login).Steady answer login)
    (hconfig : s.config = config)
    (hanswer : answer' (s'.choose project).loginRequest =
      answer (s.choose project).loginRequest)
    (hagree : ∀ url, known url → (url ∈ s'.ledger.urls ↔ url ∈ s.ledger.urls)) :
    Session.Beside answer answer' config login known ((s.choose project).relogged login)
      ((s'.choose project).relogged login) where
  akin := h.relogged project login
  configured := hconfig
  steady := hsteady
  steady' := by
    have hurl : Url.isRequestable s'.config.tokenUrl = true := by
      rw [h.config]
      exact hsteady.holds.requestable rfl
    refine ⟨Session.holds_install (h.sound.withProject project) hurl login, ?_⟩
    change Login.ofAnswer s'.config.tokenUrl (answer' (s'.choose project).loginRequest) = _
    rw [hanswer, h.config]
    exact hsteady.granted
  agree := hagree

/-- Every login that is granted has one catalog. -/
def Uniform (config : Config) (catalog : Catalog) (answer : Request → Answer) : Prop :=
  ∀ request login, request.method = .post →
    Login.ofAnswer config.tokenUrl (answer request) = .ok login →
    login.2 = catalog

namespace Run

variable {answer answer' : Request → Answer} {config : Config} {catalog : Catalog}
  {items items' : List Json} {base base' : List Entry} {p p' p'' : Progress Unit}

/-- The progress after a project was chosen. -/
def choosing (project : Option String) (p : Progress Unit) : Progress Unit :=
  p.after (.setProject project) ⟨.ok (), p.session.choose project, p.state, []⟩

/-- The section of a project, after its login. -/
def afterLogin (project : AuthProject) : Except ApiError Unit → Run Unit Unit
  | .error e => note (.projectLoginFailed project.id e)
  | .ok () => reportResources project

/-- A section of a project is its choice, its login, and what goes by that. -/
theorem reportProject_apply (project : AuthProject) (d : Deployment Unit) (p : Progress Unit) :
    reportProject project d p =
      let o := Step.authorize d (p.session.choose (some project.id)) p.state
      afterLogin project o.result d ((choosing (some project.id) p).after .authorize o) := by
  rw [reportProject, bind_apply]
  rfl

/-- What is served before a section is served after its login. -/
theorem Served.begun (h : Served config catalog p) (project : Option String)
    (o : Outcome Unit Unit) : Served config catalog ((choosing project p).after .authorize o) :=
  h.of_skipped (by rw [Progress.skipped_after, choosing, Progress.skipped_after])

/-- Both choose the project. -/
theorem Paced.choosing (h : Paced (fun s _ s' _ => s.SameSetup s') base base' p p')
    (project : Option String) :
    Paced (fun s _ s' _ => s.SameSetup s') base base' (choosing project p) (choosing project p') :=
  h.after (.setProject project) ⟨h.related.config, h.related.http,
    h.related.sound.withProject _⟩ rfl

/-- What the sections of some projects have added. -/
structure Passed (config : Config) (catalog : Catalog) (ids : List String) (entries : List Entry)
    (p p' : Progress Unit) : Prop where
  journal : p'.journal = p.journal ++ entries
  sectioned : Sectioned ids entries
  setup : p.session.SameSetup p'.session
  kept : p.session.ledger.urls ⊆ p'.session.ledger.urls
  new : ∀ url ∈ p'.session.ledger.urls, url ∈ p.session.ledger.urls ∨
    url ∈ urlsOf config catalog entries

theorem Passed.trans {ids ids' : List String} {entries later : List Entry}
    (h : Passed config catalog ids entries p p') (h' : Passed config catalog ids' later p' p'') :
    Passed config catalog (ids ++ ids') (entries ++ later) p p'' where
  journal := by rw [h'.journal, h.journal, List.append_assoc]
  sectioned := h.sectioned.append h'.sectioned
  setup := h.setup.trans h'.setup
  kept := List.Subset.trans h.kept h'.kept
  new url hurl := by
    rw [urlsOf_append]
    rcases h'.new url hurl with hurl | hurl
    · exact (h.new url hurl).imp_right (List.mem_append_left _)
    · exact .inr (List.mem_append_right _ hurl)

theorem Passed.skipped {ids : List String} {entries : List Entry}
    (h : Passed config catalog ids entries p p') : p'.skipped = p.skipped := by
  rw [Progress.skipped, Progress.skipped, h.journal, skippedOf_append, h.sectioned.quiet_views.2.2,
    List.append_nil]

/-- The choice of a project asks for nothing. -/
@[simp] theorem urlsOf_section (config : Config) (catalog : Catalog) (id : String)
    (entries : List Entry) :
    urlsOf config catalog (Entry.section id entries) = urlsOf config catalog entries := by
  rw [Entry.section, ← List.singleton_append, urlsOf_append]
  rfl

theorem Passed.missing {ids : List String} {entries : List Entry}
    (h : Passed config catalog ids entries p p') : p'.report.missing = p.report.missing := by
  change missingOf p'.journal = missingOf p.journal
  rw [h.journal, missingOf_append, h.sectioned.quiet_views.2.1, List.append_nil]

/-- What is written of a login that is refused. -/
theorem quiet_refused (trace : List Event) (id : String) (e : ApiError) :
    Quiet (Operation.authorize.record trace ++ [.event (.notice (.projectLoginFailed id e))]) :=
  (quiet_record .authorize trace fun _ => rfl).append ⟨rfl, rfl, rfl, nofun⟩

/-- A section whose login is refused ends with a notice. -/
theorem passed_refused (hsound : p.session.Sound) (project : AuthProject)
    {o : Outcome Unit Unit} (e : ApiError)
    (hsession : o.session = (p.session.choose (some project.id)).forget) :
    Passed config catalog [project.id]
      (Entry.section project.id (Operation.authorize.record o.trace ++
        [.event (.notice (.projectLoginFailed project.id e))])) p
      (afterLogin project (.error e) (.stateless answer)
        ((choosing (some project.id) p).after .authorize o)).2 where
  journal := by
    simp [afterLogin, note, write, Progress.after, choosing, Operation.record, Entry.section]
  sectioned := .single (quiet_refused _ _ e)
  setup := by
    change p.session.SameSetup o.session
    rw [hsession]
    exact ⟨rfl, rfl, .of_empty hsound.interface rfl rfl⟩
  kept := by
    change _ ⊆ o.session.ledger.urls
    rw [hsession]
    exact List.Subset.refl _
  new := by
    change ∀ url ∈ o.session.ledger.urls, _
    rw [hsession]
    exact fun _ => .inl

/-- A section whose login is granted goes on with the resources of its project. -/
theorem passed_granted {login : Login} (hconfig : p.session.config = config)
    (hserved : Served config login.2 p) (project : AuthProject) {o : Outcome Unit Unit}
    (hsession : o.session = (p.session.choose (some project.id)).relogged login)
    (hsteady : o.session.Steady answer login) :
    ∃ entries, Quiet entries ∧
    Passed config login.2 [project.id] (Entry.section project.id entries) p
      (afterLogin project (.ok ()) (.stateless answer)
        ((choosing (some project.id) p).after .authorize o)).2 := by
  have hafoot : Afoot answer config login ((choosing (some project.id) p).after .authorize o) := by
    refine ⟨hsteady, ?_⟩
    change o.session.config = config
    rw [hsession]
    exact hconfig
  obtain ⟨entries, hgrown⟩ := (stretch_resources project).grown (hserved.begun _ o) hafoot
  have hquiet : Quiet (Operation.authorize.record o.trace ++ entries) :=
    (quiet_record _ _ fun _ => rfl).append hgrown.quiet
  have hgrows := hgrown.grows
  change o.session.Grows answer login _ _ at hgrows
  rw [hsession] at hgrows
  refine ⟨_, hquiet, ?_, .single hquiet, ?_, hgrows.kept, fun url hurl => ?_⟩
  · change (reportResources project (.stateless answer) _).2.journal = _
    rw [hgrown.journal]
    simp [Progress.after, choosing, Operation.record, Entry.section]
  · have hgranted : p.session.SameSetup ((p.session.choose (some project.id)).relogged login) :=
      ⟨rfl, rfl, hsession ▸ hsteady.holds.sound⟩
    exact hgranted.trans (.of_akin hgrows.akin hgrows.steady.holds.sound)
  · rw [urlsOf_section, urlsOf_append]
    exact (hgrows.new url hurl).imp_right (List.mem_append_right _)

/-- **The section of a project** adds quiet entries behind its choice. If its login is
refused, they report nothing. -/
theorem passed_project (huniform : Uniform config catalog answer) (hsound : p.session.Sound)
    (hconfig : p.session.config = config) (hserved : Served config catalog p)
    (project : AuthProject) :
    ∃ entries, Quiet entries ∧
    Passed config catalog [project.id] (Entry.section project.id entries) p
        (reportProject project (.stateless answer) p).2 ∧
      ((∀ login, Login.ofAnswer config.tokenUrl
          (answer (p.session.choose (some project.id)).loginRequest) ≠ .ok login) →
        metricsOf entries = [] ∧ urlsOf config catalog entries = []) := by
  have halike : LoginAlike answer (p.session.choose (some project.id))
      (p.session.choose (some project.id))
      (Step.authorize (.stateless answer) (p.session.choose (some project.id)) p.state)
      (Step.authorize (.stateless answer) (p.session.choose (some project.id)) p.state) :=
    Step.authorize_alike (hsound.withProject (some project.id)) rfl rfl
  rw [reportProject_apply]
  dsimp only
  generalize Step.authorize (.stateless answer) (p.session.choose (some project.id)) p.state = o
    at halike
  cases halike with
  | @refused e hresult _ hsession _ =>
    rw [hresult]
    refine ⟨_, quiet_refused o.trace project.id e, passed_refused hsound project e hsession,
      fun _ => ⟨?_, ?_⟩⟩
    · rw [metricsOf_append, metricsOf_record]
      rfl
    · rw [urlsOf, operationsOf_append, operationsOf_record]
      rfl
  | @granted login hresult _ hsession _ hlogin hsteady =>
    rw [show p.session.config.tokenUrl = config.tokenUrl by rw [hconfig]] at hlogin
    obtain rfl : login.2 = catalog := huniform _ login rfl hlogin
    obtain ⟨entries, hquiet, hpassed⟩ := passed_granted hconfig hserved project hsession hsteady
    rw [hresult]
    exact ⟨entries, hquiet, hpassed, fun hrefused => absurd hlogin (hrefused login)⟩

/-- Two logins by one request leave the same, but for what was answered. -/
theorem blur_authorize (answer answer' : Request → Answer) (s s' : Session)
    (hconfig : s'.config = s.config) (hrequest : s'.loginRequest = s.loginRequest) :
    (Step.authorize (.stateless answer') s' ()).trace.map Event.blur =
      (Step.authorize (.stateless answer) s ()).trace.map Event.blur := by
  rw [Step.authorize_trace, Step.authorize_trace, hconfig, hrequest]
  split
  · rfl
  · rfl

/-- **The section of a project** comes to the same in two runs, whatever they have read and under
whichever logins, if its login is answered the same, and if they agree on which of the URLs are read
that the first one asks for. -/
theorem project_alike (hlists : Relisting config catalog items items' answer answer')
    (huniform : Uniform config catalog answer) (hsound : p.session.Sound)
    (hconfig : p.session.config = config) (hserved : Served config catalog p)
    (hsetup : p.session.SameSetup p'.session) (hskipped : p'.skipped = p.skipped)
    (hmissing : p'.report.missing = p.report.missing) {project : AuthProject}
    (hlogin : answer' (p.session.choose (some project.id)).loginRequest =
      answer (p.session.choose (some project.id)).loginRequest)
    {entries entries' : List Entry}
    (hjournal : (reportProject project (.stateless answer) p).2.journal = p.journal ++ entries)
    (hjournal' : (reportProject project (.stateless answer') p').2.journal = p'.journal ++ entries')
    (hagree : ∀ url ∈ urlsOf config catalog entries,
      (url ∈ p'.session.ledger.urls ↔ url ∈ p.session.ledger.urls)) :
    entries'.map Entry.blur = entries.map Entry.blur := by
  -- what both have written since is what the sections added
  suffices halike : ∃ R, Paced R (p.journal.map Entry.blur) (p'.journal.map Entry.blur)
      (reportProject project (.stateless answer) p).2
      (reportProject project (.stateless answer') p').2 by
    obtain ⟨R, hpaced⟩ := halike
    exact hpaced.added_eq hjournal hjournal'
  have hrequest := hsetup.loginRequest (some project.id)
  have hanswer := (congrArg answer' hrequest).trans hlogin
  have halike : LoginAlike answer (p.session.choose (some project.id))
      (p'.session.choose (some project.id))
      (Step.authorize (.stateless answer) (p.session.choose (some project.id)) p.state)
      (Step.authorize (.stateless answer') (p'.session.choose (some project.id)) p'.state) :=
    Step.authorize_alike (hsound.withProject (some project.id)) hsetup.config hanswer
  have htrace := blur_authorize answer answer' (p.session.choose (some project.id))
    (p'.session.choose (some project.id)) hsetup.config hrequest
  have hchosen :=
    (Paced.since (R := fun s _ s' _ => s.SameSetup s') hsetup hskipped hmissing).choosing
    (some project.id)
  rw [reportProject_apply] at hjournal
  rw [reportProject_apply, reportProject_apply]
  dsimp only at hjournal ⊢
  generalize Step.authorize (.stateless answer) (p.session.choose (some project.id)) p.state = o
    at halike htrace hjournal ⊢
  generalize Step.authorize (.stateless answer') (p'.session.choose (some project.id)) p'.state = o'
    at halike htrace ⊢
  cases halike with
  | refused hresult hresult' _ _ =>
    have hended : Paced (fun _ _ _ _ => True) (p.journal.map Entry.blur) (p'.journal.map Entry.blur)
        ((choosing (some project.id) p).after .authorize o)
        ((choosing (some project.id) p').after .authorize o') :=
      hchosen.after .authorize trivial htrace
    rw [hresult, hresult']
    exact ⟨_, hended.write rfl⟩
  | @granted login hresult hresult' hsession hsession' hlogin hsteady =>
    obtain rfl : login.2 = catalog := huniform _ login rfl (hconfig ▸ hlogin)
    rw [hsession] at hsteady
    have hbeside : o.session.Beside answer answer' config login
        (fun url => url ∈ urlsOf config login.2 entries) o'.session := by
      rw [hsession, hsession']
      exact hsetup.relogged_beside hsteady hconfig hanswer hagree
    have hafter : Parallel answer answer' config login
        (fun url => url ∈ urlsOf config login.2 entries)
        (p.journal.map Entry.blur) (p'.journal.map Entry.blur)
        ((choosing (some project.id) p).after .authorize o)
        ((choosing (some project.id) p').after .authorize o') :=
      hchosen.after .authorize hbeside htrace
    rw [hresult] at hjournal
    rw [hresult, hresult']
    exact ⟨_, (stretch_resources project).parallel_within hlists (hserved.begun _ o) hafter
      (List.append_assoc ..)
      hjournal⟩

end Run

end StackWatch
