import StackWatch.Proofs.Availability
import StackWatch.Proofs.Parallel

/-!
# Two runs until their projects

Two runs that are granted the same login go on alike until they ask for their projects, if
nothing that either reads before differs (`Run.Opening`): the components are timed, and then
their sections come. By then every component that was not given up is in the catalog
(`Run.Served`), and no project was chosen.
-/

namespace StackWatch

/-- Whether a project is chosen does not depend on answers. -/
theorem Steadfast.of_blur {entries entries' : List Entry} (h : Steadfast entries)
    (hblur : entries'.map Entry.blur = entries.map Entry.blur) : Steadfast entries' := by
  rw [Steadfast, ← operationsOf_blur, hblur, operationsOf_blur]
  exact h

namespace Run

variable {answer answer' : Request → Answer} {config : Config} {login : Login}
  {items items' : List Json} {start : Session} {p p' : Progress Unit}

/-! ## Components that were given up -/

section Skipped

variable {σ : Type} {d : Deployment σ} {p p' : Progress σ}

/-- A component that was given up stays so. -/
theorem mem_skipped_later (h : p.journal <+: p'.journal) {c : Component} (hc : c ∈ p.skipped) :
    c ∈ p'.skipped := by
  obtain ⟨later, hlater⟩ := h
  rw [Progress.skipped, ← hlater, skippedOf_append]
  exact List.mem_append_left _ hc

theorem mem_skipped_skip (c : Component) (d : Deployment σ) (p : Progress σ) :
    c ∈ (skip c d p).2.skipped := by
  rw [skip, bind_apply, get_apply, ite_apply]
  split
  · rename_i hc
    exact hc
  · simp [write, Progress.skipped, skippedOf, Entry.skipped?]

/-- A component that is recorded as missing is given up. -/
theorem mem_skipped_recordMissing (c : Component) (d : Deployment σ) (p : Progress σ) :
    c ∈ (recordMissing c d p).2.skipped := by
  rw [recordMissing, bind_apply, bind_apply, get_apply, ite_apply]
  split
  · exact mem_skipped_skip c d p
  · refine mem_skipped_later ?_ (mem_skipped_skip c d p)
    simp [note, write]

/-- A component that has no endpoint is given up when it is timed. -/
theorem mem_skipped_responseTime (hsound : p.session.Sound) {c : Component}
    (hendpoint : p.session.endpoint? c = none) : c ∈ (reportResponseTime c d p).2.skipped := by
  have hcomponent := Probe.component_ofComponent c
  rw [← hcomponent] at hendpoint
  rw [responseTime_apply, Probe.probe_absent hsound hendpoint, hcomponent]
  exact mem_skipped_recordMissing c d _

end Skipped

/-! ## Two runs -/

/-- Two runs under one login that have written the same since they began, while
no project was chosen. -/
structure Opening (answer answer' : Request → Answer) (config : Config)
    (login : Login) (start : Session) (p p' : Progress Unit) : Prop where
  parallel : Parallel answer answer' config login (fun _ => True) [] [] p p'
  steadfast : Steadfast p.journal
  /-- the session sends what it would have sent at first -/
  akin : start.Akin p.session

namespace Opening

/-- Both do an operation that leaves the session as it is. -/
theorem after {α : Type} (h : Opening answer answer' config login start p p') {op : Operation}
    (hop : ∀ project, op.projectAfter project = project) {o o' : Outcome Unit α}
    (hsession : o.session = p.session) (hsession' : o'.session = p'.session)
    (htrace : o'.trace.map Event.blur = o.trace.map Event.blur) :
    Opening answer answer' config login start (p.after op o) (p'.after op o') where
  parallel := by
    refine h.parallel.after op ?_ htrace
    rw [hsession, hsession']
    exact h.parallel.related
  steadfast := h.steadfast.append (steadfast_record _ hop)
  akin := by
    change start.Akin o.session
    rw [hsession]
    exact h.akin

/-- Both remark the same. -/
theorem write (h : Opening answer answer' config login start p p') {remarks : List Entry}
    (hremarks : ∀ e ∈ remarks, e.IsRemark) :
    Opening answer answer' config login start (p.write remarks) (p'.write remarks) :=
  ⟨h.parallel.write rfl, h.steadfast.append (steadfast_remarks hremarks), h.akin⟩

/-- Both have written the same but for answers. -/
theorem blur_eq (h : Opening answer answer' config login start p p') :
    p'.journal.map Entry.blur = p.journal.map Entry.blur := h.parallel.blur_eq

end Opening

/-- **Two runs that are granted the same login** begin alike. -/
theorem opening_login {s : Session} (hsteady : (s.relogged login).Steady answer login)
    (hconfig : s.config = config) (hsame : answer' s.loginRequest = answer s.loginRequest)
    {o o' : Outcome Unit Unit} (hsession : o.session = s.relogged login)
    (hsession' : o'.session = s.relogged login)
    (htrace : o'.trace.map Event.blur = o.trace.map Event.blur) :
    Opening answer answer' config login (s.relogged login)
      (((Check.start s ()).after .authorize o).write [.event (.notice .loggedIn)])
      (((Check.start s ()).after .authorize o').write [.event (.notice .loggedIn)]) := by
  have hgranted' : Login.ofAnswer s.config.tokenUrl (answer' s.loginRequest) = .ok login := by
    rw [hsame]
    exact hsteady.granted
  have hbeside : (s.relogged login).Beside answer answer' config login (fun _ => True)
      (s.relogged login) :=
    ⟨.refl _, hconfig, hsteady, ⟨hsteady.holds, hgranted'⟩, fun _ _ => Iff.rfl⟩
  have hstart : Paced (fun _ _ _ _ => True) [] [] (Check.start s ()) (Check.start s ()) :=
    ⟨trivial, rfl, rfl, [], rfl, rfl⟩
  have hgranted : Opening answer answer' config login (s.relogged login)
      ((Check.start s ()).after .authorize o) ((Check.start s ()).after .authorize o') := by
    refine ⟨hstart.after .authorize ?_ htrace, steadfast_record _ fun _ => rfl, ?_⟩
    · rw [hsession, hsession']
      exact hbeside
    · change Session.Akin _ o.session
      rw [hsession]
      exact .refl _
  exact hgranted.write fun e he => by
    rw [List.mem_singleton.1 he]
    trivial

variable (hlists : Relisting config login.2 items items' answer answer')
include hlists

/-- **A component is timed** in both runs. -/
theorem Opening.responseTime (h : Opening answer answer' config login start p p') (c : Component) :
    Opening answer answer' config login start (reportResponseTime c (.stateless answer) p).2
        (reportResponseTime c (.stateless answer') p').2 ∧
      p.journal <+: (reportResponseTime c (.stateless answer) p).2.journal ∧
      (c ∉ (reportResponseTime c (.stateless answer) p).2.skipped →
        ∃ endpoint, login.2.findUrl? c config.interface = some endpoint) := by
  have hprobe : Step.Locked (.stateless answer) (.stateless answer')
      (Step.LedgersApart answer answer' config login fun _ => True) Eq (Step.probe (.ofComponent c))
      (Step.probe (.ofComponent c)) :=
    (Step.lockstep_apart hlists).probe (.ofComponent c) fun _ _ => trivial
  obtain ⟨-, hparallel⟩ := paced_responseTime Parallel.baseTags_eq c hprobe p p' h.parallel
  obtain ⟨remarks, hrun, htold⟩ := responseTime_told c (.stateless answer) p
  have hjournal : (reportResponseTime c (.stateless answer) p).2.journal =
      p.journal ++ (Operation.probe (.ofComponent c)).record
        (Step.probe (.ofComponent c) (.stateless answer) p.session p.state).trace ++ remarks := by
    rw [hrun]
    rfl
  have hsound := h.parallel.related.steady.holds.sound
  refine ⟨⟨hparallel, ?_, ?_⟩, ?_, fun hc => ?_⟩
  · rw [hjournal]
    exact (h.steadfast.append (steadfast_record _ fun _ => rfl)).append
      (steadfast_remarks htold.isRemark)
  · rw [hrun]
    exact h.akin.trans (.of_sameLogin (Probe.probe_keeps hsound _).2)
  · rw [hjournal, List.append_assoc]
    exact List.prefix_append _ _
  · have hpresent : p.session.endpoint? c ≠ none := fun hendpoint =>
      hc (mem_skipped_responseTime hsound hendpoint)
    rw [h.parallel.related.endpoint?_left] at hpresent
    exact Option.ne_none_iff_exists'.1 hpresent

/-- **Components are timed** in both runs. By induction on the components. -/
theorem Opening.responseTimes : ∀ (components : List Component) {p p' : Progress Unit},
    Opening answer answer' config login start p p' →
      Opening answer answer' config login start
        (forEach reportResponseTime components (.stateless answer) p).2
          (forEach reportResponseTime components (.stateless answer') p').2 ∧
        p.journal <+: (forEach reportResponseTime components (.stateless answer) p).2.journal ∧
        ∀ c ∈ components,
        c ∉ (forEach reportResponseTime components (.stateless answer) p).2.skipped →
          ∃ endpoint, login.2.findUrl? c config.interface = some endpoint
  | [], p, _, h => ⟨h, List.prefix_refl _, nofun⟩
  | c :: rest, p, p', h => by
    obtain ⟨hfirst, hprefix, hpresent⟩ := h.responseTime hlists c
    obtain ⟨hrest, hprefix', hpresent'⟩ := Opening.responseTimes rest hfirst
    simp only [forEach, bind_apply]
    refine ⟨hrest, hprefix.trans hprefix', fun c' hc' hkept => ?_⟩
    rcases List.mem_cons.1 hc' with rfl | hc'
    · exact hpresent fun hskipped => hkept (mem_skipped_later hprefix' hskipped)
    · exact hpresent' c' hc' hkept

/-- **All that comes before the projects** is done alike in both runs. -/
theorem Opening.global (h : Opening answer answer' config login start p p') :
    Opening answer answer' config login start (reportGlobal (.stateless answer) p).2
        (reportGlobal (.stateless answer') p').2 ∧
      Served config login.2 (reportGlobal (.stateless answer) p).2 := by
  obtain ⟨htimed, -, hpresent⟩ := h.responseTimes hlists Component.all
  rw [reportGlobal, bind_apply, bind_apply]
  generalize (forEach reportResponseTime Component.all (.stateless answer) p).2 =
    p₁ at htimed hpresent
  generalize (forEach reportResponseTime Component.all (.stateless answer') p').2 = p₁' at htimed
  have hserved : Served config login.2 p₁ := fun c hc => hpresent c (by cases c <;> decide) hc
  obtain ⟨entries, hgrown⟩ := stretch_components.grown hserved htimed.parallel.afoot
  obtain ⟨-, hparallel⟩ := stretch_components.parallel hlists hserved htimed.parallel hgrown.journal
    fun _ _ => trivial
  refine ⟨⟨hparallel, ?_, htimed.akin.trans hgrown.grows.akin⟩, hserved.of_skipped hgrown.skipped⟩
  rw [hgrown.journal]
  exact htimed.steadfast.append hgrown.quiet.project

end Run

end StackWatch
