import StackWatch.Proofs.Granting
import StackWatch.Proofs.Parallel

/-!
# Projects in turn

A run reports one project after the other, under one session: what was read for one is still in
the ledger when the next one comes. If no two projects ask for the same URL, each finds of its own
URLs read what was read before the first one came (`Run.Turn`). So in another run that takes some
of them in another order, or is refused the logins of some, each of the others has the same
portion (`Run.turns_alike`).
-/

namespace StackWatch

/-- Two deployments of which the second refuses the logins of some projects. -/
structure Refusing (config : Config) (refused : List String)
    (answer answer' : Request → Answer) : Prop where
  others : ∀ request, request.method = .post →
    (∀ id ∈ refused, request.scope? ≠ some (Scope.ofProject (some id)).toJson) →
    answer' request = answer request
  refusal : ∀ request, request.method = .post → ∀ id ∈ refused,
    request.scope? = some (Scope.ofProject (some id)).toJson →
      ∀ login, Login.ofAnswer config.tokenUrl (answer' request) ≠ .ok login

theorem Scope.toJson_ofProject_injective {project project' : Option String}
    (h : (ofProject project).toJson = (ofProject project').toJson) : project = project' := by
  cases project <;> cases project' <;> simp_all [ofProject, toJson]

namespace Refusing

variable {config : Config} {catalog : Catalog} {refused : List String}
  {answer answer' : Request → Answer}

/-- The other logins are answered the same. -/
theorem login (h : Refusing config refused answer answer') {s : Session}
    (hproject : ∀ id ∈ refused, s.project ≠ some id) :
    answer' s.loginRequest = answer s.loginRequest := by
  refine h.others _ rfl fun id hid hscope => ?_
  rw [Session.scope?_loginRequest] at hscope
  exact hproject id hid (Scope.toJson_ofProject_injective (Option.some.inj hscope))

theorem uniform (h : Refusing config refused answer answer')
    (huniform : Uniform config catalog answer) : Uniform config catalog answer' := by
  intro request login hpost hlogin
  by_cases hrefused : ∃ id ∈ refused, request.scope? = some (Scope.ofProject (some id)).toJson
  · obtain ⟨id, hid, hscope⟩ := hrefused
    exact absurd hlogin (h.refusal request hpost id hid hscope login)
  · rw [h.others request hpost fun id hid hscope => hrefused ⟨id, hid, hscope⟩] at hlogin
    exact huniform request login hpost hlogin

end Refusing

namespace Run

variable {answer answer' : Request → Answer} {config : Config} {catalog : Catalog}
  {items items' : List Json} {refused : List String} {p p' : Progress Unit}
  {projects : List AuthProject}

theorem forEach_append {σ ι : Type} (f : ι → Run σ Unit) (d : Deployment σ) :
    ∀ (before after : List ι) (p : Progress σ),
      forEach f (before ++ after) d p = forEach f after d (forEach f before d p).2
  | [], _, _ => rfl
  | a :: before, after, p => by
    simp only [List.cons_append, forEach, bind_apply]
    exact forEach_append f d before after _

/-- The sections of projects, by induction on the projects. -/
theorem passed_projects (huniform : Uniform config catalog answer) :
    ∀ (projects : List AuthProject) {p : Progress Unit}, p.session.Sound →
    p.session.config = config →
      Served config catalog p → ∃ entries, Passed config catalog (projects.map (·.id)) entries p
        (forEach reportProject projects (.stateless answer) p).2
  | [], p, hsound, _, _ =>
    ⟨[], (List.append_nil _).symm, .nil, ⟨rfl, rfl, hsound⟩, List.Subset.refl _, fun _ => .inl⟩
  | project :: rest, p, hsound, hconfig, hserved => by
    obtain ⟨own, -, hown, -⟩ := passed_project huniform hsound hconfig hserved project
    obtain ⟨later, hlater⟩ :=
      passed_projects huniform rest hown.setup.sound (hown.setup.config.trans hconfig)
        (hserved.of_skipped hown.skipped)
    exact ⟨_, hown.trans hlater⟩

/-! ## The turn of a project -/

/-- The turn of a project among others: it starts as if it came first, and writes its portion. -/
structure Turn (answer : Request → Answer) (config : Config) (catalog : Catalog)
    (project : AuthProject) (written : List Entry) (p start : Progress Unit) : Prop where
  setup : p.session.SameSetup start.session
  skipped : start.skipped = p.skipped
  missing : start.report.missing = p.report.missing
  journal : (reportProject project (.stateless answer) start).2.journal = start.journal ++ written
  agree : ∀ url ∈ urlsOf config catalog written,
    (url ∈ start.session.ledger.urls ↔ url ∈ p.session.ledger.urls)

/-- No URL is asked for while two different projects are reported. -/
def Disjoint (config : Config) (catalog : Catalog) (projects : List AuthProject)
    (portion : AuthProject → List Entry) : Prop :=
  ∀ a ∈ projects, ∀ b ∈ projects, a.id ≠ b.id → ∀ url ∈ urlsOf config catalog (portion a),
    url ∉ urlsOf config catalog (portion b)

instance (config : Config) (catalog : Catalog) (projects : List AuthProject)
    (portion : AuthProject → List Entry) : Decidable (Disjoint config catalog projects portion) :=
  inferInstanceAs (Decidable (∀ a ∈ projects, ∀ b ∈ projects, a.id ≠ b.id →
    ∀ url ∈ urlsOf config catalog (portion a), url ∉ urlsOf config catalog (portion b)))

/-- **Each project has its turn**, if no URL is asked for in that of another. -/
theorem turn_of_mem (huniform : Uniform config catalog answer) (hsound : p.session.Sound)
    (hconfig : p.session.config = config) (hserved : Served config catalog p)
    (hids : (projects.map (·.id)).Nodup) {entries : List Entry}
    (hjournal : (forEach reportProject projects (.stateless answer) p).2.journal =
      p.journal ++ entries)
    (hdisjoint : Disjoint config catalog projects fun a => portionAfter (some a.id) none entries)
    {project : AuthProject} (hproject : project ∈ projects) :
    ∃ start, Turn answer config catalog project (portionAfter (some project.id) none entries)
      p start := by
  obtain ⟨before, after, rfl⟩ := List.append_of_mem hproject
  rw [List.map_append, List.map_cons, List.nodup_append, List.nodup_cons] at hids
  obtain ⟨-, ⟨hafter, -⟩, hbefore⟩ := hids
  have hbefore : project.id ∉ before.map (·.id) :=
    fun hmem => hbefore _ hmem _ (List.mem_cons_self ..) rfl
  -- the sections before it, its own, and those after it
  obtain ⟨earlier, hearlier⟩ := passed_projects huniform before hsound hconfig hserved
  generalize hstart : (forEach reportProject before (.stateless answer) p).2 = start at hearlier
  have hserved₁ := hserved.of_skipped hearlier.skipped
  have hconfig₁ := hearlier.setup.config.trans hconfig
  obtain ⟨own, hquiet, hown, -⟩ :=
    passed_project huniform hearlier.setup.sound hconfig₁ hserved₁ project
  obtain ⟨later, hlater⟩ :=
    passed_projects huniform after hown.setup.sound (hown.setup.config.trans hconfig₁)
      (hserved₁.of_skipped hown.skipped)
  have hentries : entries = earlier ++ (Entry.section project.id own ++ later) := by
    have hwhole := hearlier.trans (hown.trans hlater)
    rw [forEach_append, hstart] at hjournal
    exact List.append_cancel_left (hjournal.symm.trans hwhole.journal)
  have hportion : portionAfter (some project.id) none entries = Entry.section project.id own := by
    rw [hentries]
    exact Sectioned.portion_eq _ hearlier.sectioned hquiet hlater.sectioned hbefore hafter none
  refine ⟨start, hearlier.setup, hearlier.skipped, hearlier.missing, ?_,
    fun url hurl => ⟨fun hread => ?_, ?_⟩⟩
  · rw [hportion]
    exact hown.journal
  · refine (hearlier.new url hread).resolve_right fun hasked => ?_
    obtain ⟨id, hid, hasked⟩ := hearlier.sectioned.mem_urls hasked none
    obtain ⟨other, hother, rfl⟩ := List.mem_map.1 hid
    have hne : project.id ≠ other.id := fun heq => hbefore (heq ▸ hid)
    refine hdisjoint project (by simp) other (List.mem_append_left _ hother) hne url hurl ?_
    dsimp only
    rw [hentries, portionAfter_append, urlsOf_append]
    exact List.mem_append_left _ hasked
  · exact fun hread => hearlier.kept hread

/-! ## Turns in another run -/

/-- **The turn of a project in another run**, which has read the same of its URLs: it writes its
portion again, or nothing if its login is refused. -/
theorem Turn.alike {start : Progress Unit} {project : AuthProject} {written : List Entry}
    (h : Turn answer config catalog project written p start)
    (hlists : Relisting config catalog items items' answer answer')
    (hrefusing : Refusing config refused answer answer') (huniform : Uniform config catalog answer)
    (hconfig : p.session.config = config) (hserved : Served config catalog p)
    (hsetup : p.session.SameSetup p'.session) (hskipped : p'.skipped = p.skipped)
    (hmissing : p'.report.missing = p.report.missing)
    (hagree : ∀ url ∈ urlsOf config catalog written,
      (url ∈ p'.session.ledger.urls ↔ url ∈ p.session.ledger.urls)) :
    ∃ own, Quiet own ∧ Passed config catalog [project.id] (Entry.section project.id own) p'
        (reportProject project (.stateless answer') p').2 ∧
      metricsOf (Entry.section project.id own) =
        (if project.id ∈ refused then [] else metricsOf written) ∧
      urlsOf config catalog (Entry.section project.id own) ⊆ urlsOf config catalog written := by
  obtain ⟨own, hquiet, hown, hsilent⟩ := passed_project (hrefusing.uniform huniform) hsetup.sound
    (hsetup.config.trans hconfig) (hserved.of_skipped hskipped) project
  refine ⟨own, hquiet, hown, ?_⟩
  by_cases hrefused : project.id ∈ refused
  · obtain ⟨hmetrics, hurls⟩ := hsilent fun login =>
      hrefusing.refusal _ rfl project.id hrefused (Session.scope?_loginRequest _) login
    rw [if_pos hrefused, urlsOf_section, hurls]
    exact ⟨hmetrics, List.nil_subset _⟩
  · have hlogin : answer' (start.session.choose (some project.id)).loginRequest =
        answer (start.session.choose (some project.id)).loginRequest :=
      hrefusing.login fun id hid heq => hrefused (Option.some.inj heq ▸ hid)
    have hbeside : start.session.SameSetup p'.session :=
      ⟨hsetup.config.trans h.setup.config.symm, hsetup.http.trans h.setup.http.symm, hsetup.sound⟩
    have hblur := project_alike hlists huniform h.setup.sound (h.setup.config.trans hconfig)
      (hserved.of_skipped h.skipped) hbeside (hskipped.trans h.skipped.symm)
      (hmissing.trans h.missing.symm) hlogin h.journal hown.journal
      fun url hurl => (hagree url hurl).trans (h.agree url hurl).symm
    rw [if_neg hrefused, ← metricsOf_blur, hblur, metricsOf_blur, urlsOf,
      ← operationsOf_blur, hblur, operationsOf_blur]
    exact ⟨rfl, List.Subset.refl _⟩

/-- **The turns of projects in another run**, which comes to them as the first one did, takes some
of them in whatever order, and is refused the logins of some: the others write their portions again.
By induction on the projects that are still to be reported. -/
theorem turns_alike (hlists : Relisting config catalog items items' answer answer')
    (hrefusing : Refusing config refused answer answer') (huniform : Uniform config catalog answer)
    (hconfig : p.session.config = config) (hserved : Served config catalog p)
    {portion : AuthProject → List Entry}
    (hturns : ∀ a ∈ projects, ∃ start, Turn answer config catalog a (portion a) p start)
    (hdisjoint : Disjoint config catalog projects portion) :
    ∀ (rest : List AuthProject) {p' : Progress Unit}, rest ⊆ projects → (rest.map (·.id)).Nodup →
      p.session.SameSetup p'.session → p'.skipped = p.skipped →
      p'.report.missing = p.report.missing →
      (∀ a ∈ rest, ∀ url ∈ urlsOf config catalog (portion a),
        (url ∈ p'.session.ledger.urls ↔ url ∈ p.session.ledger.urls)) →
      ∃ entries, Passed config catalog (rest.map (·.id)) entries p'
          (forEach reportProject rest (.stateless answer') p').2 ∧
        ∀ a ∈ rest, ∀ chosen, metricsOf (portionAfter (some a.id) chosen entries) =
          if a.id ∈ refused then [] else metricsOf (portion a)
  | [], p', _, _, hsetup, _, _, _ =>
    ⟨[], ⟨(List.append_nil _).symm, .nil, ⟨rfl, rfl, hsetup.sound⟩, List.Subset.refl _,
      fun _ => .inl⟩, nofun⟩
  | project :: rest, p', hrest, hids, hsetup, hskipped, hmissing, hagree => by
    obtain ⟨hfirst, hids⟩ := List.nodup_cons.1 hids
    have hfirst : ∀ a ∈ rest, a.id ≠ project.id := fun a ha heq =>
      hfirst (List.mem_map.2 ⟨a, ha, heq⟩)
    have hproject := hrest (List.mem_cons_self ..)
    obtain ⟨start, hturn⟩ := hturns project hproject
    obtain ⟨own, hquiet, hown, hmetrics, hurls⟩ :=
      hturn.alike hlists hrefusing huniform hconfig hserved hsetup
      hskipped hmissing (hagree project (List.mem_cons_self ..))
    -- of the URLs of the others nothing was read in between
    have hagree' : ∀ a ∈ rest, ∀ url ∈ urlsOf config catalog (portion a),
        (url ∈ (reportProject project (.stateless answer') p').2.session.ledger.urls ↔
          url ∈ p.session.ledger.urls) := by
      intro a ha url hurl
      have hother := hagree a (List.mem_cons_of_mem _ ha) url hurl
      refine ⟨fun hread => ?_, fun hread => hown.kept (hother.2 hread)⟩
      rcases hown.new url hread with hread | hasked
      · exact hother.1 hread
      · exact absurd (hurls hasked)
          (hdisjoint a (hrest (List.mem_cons_of_mem _ ha)) project hproject (hfirst a ha) url hurl)
    obtain ⟨later, hlater, hothers⟩ :=
      turns_alike hlists hrefusing huniform hconfig hserved hturns hdisjoint rest
      (fun a ha => hrest (List.mem_cons_of_mem _ ha)) hids (hsetup.trans hown.setup)
      (hown.skipped.trans hskipped) (hown.missing.trans hmissing) hagree'
    refine ⟨_, hown.trans hlater, fun a ha chosen => ?_⟩
    obtain ⟨hportion, hchosen⟩ := portionAfter_section project.id hquiet.project (some a.id) chosen
    rw [portionAfter_append, metricsOf_append, hportion, hchosen]
    rcases List.mem_cons.1 ha with rfl | ha
    · have hothers : ∀ id ∈ rest.map (·.id), some id ≠ some a.id := by
        rintro id hid heq
        obtain ⟨b, hb, rfl⟩ := List.mem_map.1 hid
        exact hfirst b hb (Option.some.inj heq)
      rw [if_pos rfl, hlater.sectioned.portion_eq_nil hothers, hmetrics]
      exact List.append_nil _
    · have hne : some project.id ≠ some a.id := fun heq => hfirst a ha (Option.some.inj heq).symm
      rw [if_neg hne, hothers a ha]
      rfl

end Run

end StackWatch
