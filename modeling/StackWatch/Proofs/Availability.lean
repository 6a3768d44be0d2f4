import StackWatch.Proofs.Entries
import StackWatch.Proofs.Standing

/-!
# Whether an API is up

After its first login a run times every component, in the order of `Component.all`. `Round` is the
invariant of the components that were timed already: each has its `Standing`, and what the session
has read is what they were timed with. Everything after them tells nothing of whether a component is
up (`Run.accord_since`), so what is told then is told for good.
-/

namespace StackWatch

/-! ## Timing one component -/

/-- How a probe ends. -/
inductive Probe.Ends {σ : Type} (p : Probe) (s : Session)
    (o : Outcome σ (Option Float)) : Prop where
  | absent (hendpoint : s.endpoint? p.component = none)
      (hresult : o.result = .error (.componentNotFound p.component)) (htrace : o.trace = [])
      (hledger : o.session.ledger = s.ledger)
  | read {endpoint : String} (hendpoint : s.endpoint? p.component = some endpoint)
      (hread : p.url endpoint ∈ s.ledger.urls) (hresult : o.result = .ok none)
      (htrace : o.trace = [])
      (hledger : o.session.ledger = s.ledger)
  | answered {endpoint : String} {request : Request} {answer : Answer} {response : Response}
      (hendpoint : s.endpoint? p.component = some endpoint)
      (hunread : p.url endpoint ∉ s.ledger.urls) (hmethod : request.method = .get)
      (hurl : request.url = Url.wire (p.url endpoint))
      (hanswer : HttpClient.receive (p.url endpoint) answer = .ok response)
      (hresult : o.result = .ok (some response.milliseconds))
      (htrace : o.trace = [.exchange (.polling p.component) request answer])
      (hledger : o.session.ledger = s.ledger.insert (p.url endpoint))
  | failed {endpoint : String} {e : ApiError} (hendpoint : s.endpoint? p.component = some endpoint)
      (hunread : p.url endpoint ∉ s.ledger.urls) (hresult : o.result = .error e)
      (he : ∀ c, e ≠ .componentNotFound c)
      (htrace : ∀ purpose request answer, o.trace.head? = some (.exchange purpose request answer) →
        HttpClient.receive (p.url endpoint) answer = .error e)
      (hledger : o.session.ledger = s.ledger)

/-- Every probe ends in one of these ways. -/
theorem Probe.ends {σ : Type} {d : Deployment σ} {s : Session} {w : σ} (hs : s.Sound) (p : Probe) :
    p.Ends s (Step.probe p d s w) := by
  cases Step.probed (d := d) (w := w) hs p with
  | absent hendpoint houtcome =>
    rw [houtcome]
    exact .absent hendpoint rfl rfl rfl
  | @present endpoint s' hendpoint _ hsame hledger houtcome =>
    have hyields := p.probe_yields (d := d) (w := w) hs hendpoint
    rw [houtcome] at hyields ⊢
    have hbefore : (Step.wasRead (p.url endpoint) : Step σ Bool) d s' w =
        ⟨.ok (s'.ledger.contains (p.url endpoint)), s', w, []⟩ := rfl
    rw [Step.timed, Step.bind_quiet hbefore, hledger] at hyields ⊢
    by_cases hread : s.ledger.contains (p.url endpoint) = true
    · rw [if_pos hread]
      exact .read hendpoint (Ledger.contains_iff.1 hread) rfl rfl hledger
    · have hunread := Ledger.not_mem_of_not_contains hread
      rw [if_neg hread] at hyields ⊢
      cases hr : s'.http.request? .get (p.url endpoint) none with
      | none =>
        rw [Step.bind_failed (Step.send_of_no_request hr)]
        refine .failed hendpoint hunread rfl (fun _ => ApiError.noConfusion)
          (fun _ _ _ hhead => ?_) hledger
        cases hhead
      | some request =>
        have hsend : Step.send (.polling p.component) .get (p.url endpoint) none d s' w = _ :=
          Step.send_of_request hr
        obtain ⟨-, hmethod, hurl, -⟩ := HttpClient.token_of_request? hr
        cases hanswer : HttpClient.receive (p.url endpoint) (d request w).1 with
        | error e =>
          rw [hanswer] at hsend
          rw [Step.bind_failed hsend] at hyields ⊢
          refine .failed hendpoint hunread rfl hyields (fun _ _ _ hhead => ?_) hledger
          cases hhead
          exact hanswer
        | ok response =>
          rw [hanswer] at hsend
          rw [Step.bind_of_ok (by rw [hsend]), hsend, Step.enter_pure]
          exact .answered hendpoint hunread hmethod hurl hanswer rfl rfl
            (congrArg (fun ledger : Ledger => ledger.insert (p.url endpoint)) hledger)

/-- What is written of a component after it was timed, given what the probe came to. -/
inductive Told (c : Component) (tags : List String) (journal : List Entry) :
    Except ApiError (Option Float) → List Entry → Prop where
  | missing {c' : Component} {asides : List Entry} (hasides : ∀ e ∈ asides, e.IsAside)
      (hmissing : c' ∈ missingOf (journal ++ asides)) :
      Told c tags journal (.error (.componentNotFound c')) asides
  | read : Told c tags journal (.ok none) []
  | up (milliseconds : Float) : Told c tags journal (.ok (some milliseconds))
      [.metric ⟨c.responseTimeName, milliseconds, tags⟩, .check ⟨c.checkName, .ok, tags⟩]
  | down {e : ApiError} {asides : List Entry} (he : ∀ c', e ≠ .componentNotFound c')
      (hasides : ∀ e ∈ asides, e.IsAside) :
      Told c tags journal (.error e) (asides ++ [.check ⟨c.checkName, .critical, tags⟩])

section Told

variable {c c' : Component} {tags : List String} {journal remarks : List Entry}
  {result : Except ApiError (Option Float)}

theorem statuses_up {milliseconds : Float} :
    (reportOf [.metric ⟨c.responseTimeName, milliseconds, tags⟩,
    .check ⟨c.checkName, .ok, tags⟩]).statuses c = [⟨c.checkName, .ok, tags⟩] :=
  List.filter_cons_of_pos (beq_self_eq_true c.checkName)

theorem responseTimes_up {milliseconds : Float} :
    (reportOf [.metric ⟨c.responseTimeName, milliseconds, tags⟩,
      .check ⟨c.checkName, .ok, tags⟩]).responseTimes c =
        [⟨c.responseTimeName, milliseconds, tags⟩] :=
  List.filter_cons_of_pos (beq_self_eq_true c.responseTimeName)

theorem statuses_down : (reportOf [.check ⟨c.checkName, .critical, tags⟩]).statuses c =
    [⟨c.checkName, .critical, tags⟩] :=
  List.filter_cons_of_pos (beq_self_eq_true c.checkName)

theorem responseTimes_down :
    (reportOf [.check ⟨c.checkName, .critical, tags⟩]).responseTimes c = [] :=
  rfl

theorem Told.isRemark (h : Told c tags journal result remarks) : ∀ e ∈ remarks, e.IsRemark := by
  intro entry hentry
  cases h with
  | missing hasides => exact (hasides entry hentry).isRemark
  | read => cases hentry
  | up milliseconds =>
    simp only [List.mem_cons, List.not_mem_nil, or_false] at hentry
    rcases hentry with rfl | rfl <;> trivial
  | down _ hasides =>
    rcases List.mem_append.1 hentry with hentry | hentry
    · exact (hasides entry hentry).isRemark
    · rw [List.mem_singleton.1 hentry]
      trivial

/-- Of another component nothing is told. -/
theorem Told.untold (h : Told c tags journal result remarks) (hc : c' ≠ c) : Untold c' remarks := by
  have hcheck : ∀ status, ¬ (Entry.check ⟨c.checkName, status, tags⟩).TellsOf c' := fun _ hname =>
    hc (Component.checkName_injective hname).symm
  refine .of_remarks h.isRemark fun entry hentry => ?_
  cases h with
  | missing hasides => exact (hasides entry hentry).not_tellsOf c'
  | read => cases hentry
  | up milliseconds =>
    simp only [List.mem_cons, List.not_mem_nil, or_false] at hentry
    rcases hentry with rfl | rfl
    · intro hname
      have hnames := c.names_responseTime
      rw [show c.responseTimeName = c'.responseTimeName from hname] at hnames
      exact hc (Component.names_unique c'.names_responseTime hnames)
    · exact hcheck _
  | down _ hasides =>
    rcases List.mem_append.1 hentry with hentry | hentry
    · exact (hasides entry hentry).not_tellsOf c'
    · rw [List.mem_singleton.1 hentry]
      exact hcheck _

end Told

namespace Run

variable {σ : Type} {c : Component} {d : Deployment σ} {p : Progress σ}

theorem skip_adds (c : Component) (d : Deployment σ) (p : Progress σ) :
    ∃ asides, (skip c d p).2 = p.write asides ∧ ∀ e ∈ asides, e.IsAside := by
  rw [skip, bind_apply, get_apply, ite_apply]
  split
  · exact ⟨[], by simp [Progress.write], fun _ he => absurd he List.not_mem_nil⟩
  · exact ⟨[.skipped c], rfl, by simp [Entry.IsAside]⟩

theorem write_write (p : Progress σ) (entries later : List Entry) :
    (p.write entries).write later = p.write (entries ++ later) := by
  rw [Progress.write, Progress.write, Progress.write, List.append_assoc]

/-- A component that is recorded as missing is listed as missing. -/
theorem recordMissing_adds (c : Component) (d : Deployment σ) (p : Progress σ) :
    ∃ asides, (recordMissing c d p).2 = p.write asides ∧ (∀ e ∈ asides, e.IsAside) ∧
      c ∈ missingOf (p.journal ++ asides) := by
  obtain ⟨skips, hrun, hskips⟩ := skip_adds c d p
  rw [recordMissing, bind_apply, bind_apply, get_apply, ite_apply, hrun]
  split
  · rename_i hmissing
    exact ⟨skips, rfl, hskips, hmissing⟩
  · refine ⟨skips ++ [.event (.notice (.componentMissing c)), .missing c], ?_, fun e he => ?_, ?_⟩
    · rw [← write_write]
      simp [note, write, Progress.write]
    · rcases List.mem_append.1 he with he | he
      · exact hskips e he
      · simp only [List.mem_cons, List.not_mem_nil, or_false] at he
        rcases he with rfl | rfl <;> trivial
    · simp [missingOf, Entry.missing?]

/-- A component that is there, but failed, is told to be down. -/
theorem tell_down {e : ApiError} (he : ∀ c', e ≠ .componentNotFound c') (d : Deployment σ)
    (p : Progress σ) : ∃ remarks, (tell c (.error e) d p).2 = p.write remarks ∧
      Told c p.session.baseTags p.journal (.error e) remarks := by
  have htell : (tell c (.error e) d p).2 =
      (emitCheck c .critical d (skip c d (p.write [.event (.notice (.unreachable c e))])).2).2 := by
    cases e with
    | componentNotFound c' => exact absurd rfl (he c')
    | _ => rfl
  obtain ⟨skips, hrun, hskips⟩ := skip_adds c d (p.write [.event (.notice (.unreachable c e))])
  refine ⟨([.event (.notice (.unreachable c e))] ++ skips) ++
    [.check ⟨c.checkName, .critical, p.session.baseTags⟩], ?_, .down he fun a ha => ?_⟩
  · rw [htell, hrun, ← write_write, ← write_write]
    rfl
  · rcases List.mem_append.1 ha with ha | ha
    · rw [List.mem_singleton.1 ha]
      trivial
    · exact hskips a ha

/-- What is told of a component goes by what its probe came to. -/
theorem tell_told (c : Component) (result : Except ApiError (Option Float)) (d : Deployment σ)
    (p : Progress σ) : ∃ remarks, (tell c result d p).2 = p.write remarks ∧
      Told c p.session.baseTags p.journal result remarks := by
  cases result with
  | ok elapsed =>
    cases elapsed with
    | none => exact ⟨[], by simp [tell, Progress.write], .read⟩
    | some milliseconds =>
      refine ⟨_, ?_, .up milliseconds⟩
      simp [tell, emitCheck, emit_apply, write, Progress.write]
  | error e =>
    cases e with
    | componentNotFound c' =>
      obtain ⟨asides, hrun, hasides, hmissing⟩ := recordMissing_adds c' d p
      exact ⟨asides, hrun, .missing hasides hmissing⟩
    | _ => exact tell_down (fun _ => ApiError.noConfusion) d p

/-- **Timing a component** is its probe, and what is told of it. -/
theorem responseTime_told (c : Component) (d : Deployment σ) (p : Progress σ) :
    let o := Step.probe (.ofComponent c) d p.session p.state
    let timed := p.after (.probe (.ofComponent c)) o
    ∃ remarks, (reportResponseTime c d p).2 = timed.write remarks ∧
      Told c o.session.baseTags timed.journal o.result remarks := by
  intro o timed
  rw [responseTime_apply]
  exact tell_told c o.result d timed

end Run

/-! ## Timing all components -/

/-- What holds of a run since a login, when some components were timed. -/
structure Round {σ : Type} (start : Session) (done : List Component) (p : Progress σ) : Prop where
  holds : ∃ held, p.session.Holds held
  same : start.SameLogin p.session
  /-- what was read is what components were timed with -/
  ledger : ∀ url, url ∈ p.session.ledger.urls ↔ Taken start.root? done p.journal url
  untold : ∀ c ∉ done, Untold c p.journal
  standing : ∀ earlier c later, done = earlier ++ c :: later →
    Standing start.root? start.baseTags earlier c p.journal

/-- After another component some URL is taken if it was before, or if that one was timed with it. -/
theorem taken_concat {root : Component → Option String} {done : List Component} {c : Component}
    {journal : List Entry} {url : String} : Taken root (done ++ [c]) journal url ↔
      Taken root done journal url ∨ root c = some url ∧
      ∃ response, TimedWith journal c url response := by
  unfold Taken
  constructor
  · rintro ⟨c', hc', htaken⟩
    rcases List.mem_append.1 hc' with hc' | hc'
    · exact .inl ⟨c', hc', htaken⟩
    · rw [List.mem_singleton.1 hc'] at htaken
      exact .inr htaken
  · rintro (⟨c', hc', htaken⟩ | htaken)
    · exact ⟨c', List.mem_append_left _ hc', htaken⟩
    · exact ⟨c, by simp, htaken⟩

namespace Round

variable {σ : Type} {start : Session} {done : List Component} {c c' : Component} {p : Progress σ}
  {d : Deployment σ} {url : String} {response : Response}

theorem sound (h : Round start done p) : p.session.Sound :=
  have ⟨_, hholds⟩ := h.holds
  hholds.sound

theorem root?_eq (h : Round start done p) (c : Component) :
    start.root? c = (p.session.endpoint? c).map (Probe.ofComponent c).url := by
  rw [Session.root?, Session.endpoint?, h.sound.interface, h.same.catalog, h.same.config]

/-- What timing a component adds to the journal. -/
structure Adds (d : Deployment σ) (p : Progress σ) (c : Component) (tags : List String)
    (own remarks : List Entry) : Prop where
  own_eq : own = (Operation.probe (.ofComponent c)).record
    (Step.probe (.ofComponent c) d p.session p.state).trace ++ remarks
  told : Told c tags (p.journal ++ (Operation.probe (.ofComponent c)).record
    (Step.probe (.ofComponent c) d p.session p.state).trace)
      (Step.probe (.ofComponent c) d p.session p.state).result remarks

section Adds

variable {tags : List String} {own remarks : List Entry} (hadds : Adds d p c tags own remarks)
include hadds

theorem Adds.untold (hc : c' ≠ c) : Untold c' own := by
  rw [hadds.own_eq]
  refine (untold_record fun heq => hc ?_).append (hadds.told.untold hc)
  exact (Probe.ofComponent_injective (Operation.probe.inj heq)).symm

theorem Adds.statuses (h : Untold c p.journal) :
    (reportOf (p.journal ++ own)).statuses c = (reportOf remarks).statuses c := by
  rw [statuses_append, h.statuses, hadds.own_eq, statuses_append, List.nil_append]
  simp [Report.statuses, reportOf]

theorem Adds.responseTimes (h : Untold c p.journal) :
    (reportOf (p.journal ++ own)).responseTimes c = (reportOf remarks).responseTimes c := by
  rw [responseTimes_append, h.responseTimes, hadds.own_eq, responseTimes_append, List.nil_append]
  simp [Report.responseTimes, reportOf]

theorem Adds.timedWith (h : Untold c p.journal) (url : String) (response : Response) :
    TimedWith (p.journal ++ own) c url response ↔ ∃ request answer,
      (Step.probe (.ofComponent c) d p.session p.state).trace.head? =
        some (.exchange (.polling c) request answer) ∧
      request.method = .get ∧ request.url = Url.wire url ∧
        HttpClient.receive url answer = .ok response := by
  rw [hadds.own_eq]
  exact timedWith_record h hadds.told.isRemark

/-- A component whose root was answered was timed with that response, and no other. -/
theorem Adds.timedWith_of_answered (h : Untold c p.journal) {request : Request} {answer : Answer}
    (htrace : (Step.probe (.ofComponent c) d p.session p.state).trace =
      [.exchange (.polling c) request answer])
    (hmethod : request.method = .get) (hurl : request.url = Url.wire url)
    (hanswer : HttpClient.receive url answer = .ok response) (response' : Response) :
    TimedWith (p.journal ++ own) c url response' ↔ response' = response := by
  rw [hadds.timedWith h, htrace]
  constructor
  · rintro ⟨_, _, hhead, -, -, hresponse⟩
    cases hhead
    exact (Except.ok.inj (hanswer.symm.trans hresponse)).symm
  · rintro rfl
    exact ⟨_, _, rfl, hmethod, hurl, hanswer⟩

/-- A component whose root failed was not timed. -/
theorem Adds.not_timedWith_of_failed (h : Untold c p.journal) {e : ApiError}
    (htrace : ∀ purpose request answer,
      (Step.probe (.ofComponent c) d p.session p.state).trace.head? =
        some (.exchange purpose request answer) → HttpClient.receive url answer = .error e) :
    ¬ TimedWith (p.journal ++ own) c url response := by
  rw [hadds.timedWith h]
  rintro ⟨_, _, hhead, -, -, hanswer⟩
  cases (htrace _ _ _ hhead).symm.trans hanswer

/-- The components before are where they were. -/
theorem Adds.taken (h : Round start done p) (hc : c ∉ done) (url : String) :
    Taken start.root? done (p.journal ++ own) url ↔ url ∈ p.session.ledger.urls := by
  rw [taken_append fun c' hc' => hadds.untold fun heq => hc (heq ▸ hc'), h.ledger]

/-- **The standing of the component** that has just been timed. -/
theorem Adds.standing (h : Round start done p) (hc : c ∉ done) :
    Standing start.root? tags done c (p.journal ++ own) := by
  have huntold := h.untold c hc
  have hroot := h.root?_eq c
  have hstatuses := hadds.statuses huntold
  have htimes := hadds.responseTimes huntold
  have htaken := hadds.taken h hc
  have htold := hadds.told
  cases (Probe.ofComponent c).ends (d := d) (w := p.state) h.sound with
  | absent hendpoint hresult =>
    rw [Probe.component_ofComponent] at hendpoint hresult
    rw [hendpoint] at hroot
    rw [hresult] at htold
    cases htold with
    | missing hasides hmissing =>
      refine .of_absent hroot ?_ ?_ ?_
      · rw [hstatuses, (untold_asides hasides).statuses]
      · rw [htimes, (untold_asides hasides).responseTimes]
      · rw [hadds.own_eq, ← List.append_assoc]
        exact hmissing
    | down he => exact absurd rfl (he c)
  | read hendpoint hread hresult =>
    rw [Probe.component_ofComponent] at hendpoint
    rw [hendpoint] at hroot
    rw [hresult] at htold
    cases htold with
    | read => exact .of_taken hroot ((htaken _).2 hread) hstatuses htimes
  | answered hendpoint hunread hmethod hurl hanswer hresult htrace =>
    rw [Probe.component_ofComponent] at hendpoint htrace
    rw [hendpoint] at hroot
    rw [hresult] at htold
    cases htold with
    | up =>
      exact .of_timed hroot (fun h => hunread ((htaken _).1 h))
        (hadds.timedWith_of_answered huntold htrace hmethod hurl hanswer)
        (hstatuses.trans statuses_up)
        (htimes.trans responseTimes_up)
  | failed hendpoint hunread hresult he htrace =>
    rw [Probe.component_ofComponent] at hendpoint
    rw [hendpoint] at hroot
    rw [hresult] at htold
    cases htold with
    | missing => exact absurd rfl (he _)
    | down _ hasides =>
      refine .of_failed hroot (fun h => hunread ((htaken _).1 h))
        (fun _ => hadds.not_timedWith_of_failed huntold htrace) ?_ ?_
      · rw [hstatuses, statuses_append, (untold_asides hasides).statuses,
          statuses_down, List.nil_append]
      · rw [htimes, responseTimes_append, (untold_asides hasides).responseTimes, responseTimes_down,
          List.nil_append]

/-- What the session has read then. -/
theorem Adds.ledger (h : Round start done p) (hc : c ∉ done) (url : String) :
    url ∈ (Step.probe (.ofComponent c) d p.session p.state).session.ledger.urls ↔
      Taken start.root? (done ++ [c]) (p.journal ++ own) url := by
  have huntold := h.untold c hc
  have hroot := h.root?_eq c
  rw [taken_concat, hadds.taken h hc]
  cases (Probe.ofComponent c).ends (d := d) (w := p.state) h.sound with
  | absent _ _ htrace hledger | read _ _ _ htrace hledger =>
    rw [hledger]
    simp [hadds.timedWith huntold, htrace]
  | answered hendpoint _ hmethod hurl hanswer _ htrace hledger =>
    rw [Probe.component_ofComponent] at hendpoint htrace
    rw [hroot, hendpoint, hledger, Ledger.mem_urls_insert]
    refine or_congr_right ⟨?_, fun ⟨hsome, _⟩ => (Option.some.inj hsome).symm⟩
    rintro rfl
    exact ⟨rfl, _, (hadds.timedWith_of_answered huntold htrace hmethod hurl hanswer _).2 rfl⟩
  | failed hendpoint _ _ _ htrace hledger =>
    rw [Probe.component_ofComponent] at hendpoint
    rw [hroot, hendpoint, hledger, or_iff_left]
    rintro ⟨hsome, response, hresponse⟩
    obtain rfl := Option.some.inj hsome
    exact hadds.not_timedWith_of_failed huntold htrace hresponse

end Adds

/-- Timing a component adds its probe, and what is told of it. -/
theorem adds (h : Round start done p) (c : Component) (d : Deployment σ) :
    ∃ own remarks, (Run.reportResponseTime c d p).2.journal = p.journal ++ own ∧
      Adds d p c start.baseTags own remarks := by
  obtain ⟨remarks, hrun, htold⟩ := Run.responseTime_told c d p
  have hconfig : (Step.probe (.ofComponent c) d p.session p.state).session.config = start.config :=
    (Probe.probe_keeps h.sound _).2.config.trans h.same.config
  refine ⟨_, remarks, ?_, rfl, ?_⟩
  · rw [hrun, ← List.append_assoc]
    rfl
  · rw [Session.baseTags, hconfig] at htold
    exact htold

/-- **Timing one more component.** -/
theorem step (h : Round start done p) (hc : c ∉ done) (d : Deployment σ) :
    Round start (done ++ [c]) (Run.reportResponseTime c d p).2 := by
  obtain ⟨own, remarks, hjournal, hadds⟩ := h.adds c d
  obtain ⟨_, hrun, -⟩ := Run.responseTime_told c d p
  have hsession : (Run.reportResponseTime c d p).2.session =
      (Step.probe (.ofComponent c) d p.session p.state).session := by
    rw [hrun]
    rfl
  obtain ⟨hsound, hsame⟩ := Probe.probe_keeps (d := d) (w := p.state) h.sound (.ofComponent c)
  obtain ⟨held, hholds⟩ := h.holds
  refine ⟨⟨held, ?_⟩, ?_, fun url => ?_, fun c' hc' => ?_, fun earlier c' later heq => ?_⟩
  · rw [hsession]
    exact hholds.of_sameLogin hsound hsame
  · rw [hsession]
    exact h.same.trans hsame
  · rw [hsession, hjournal]
    exact hadds.ledger h hc url
  · rw [List.mem_append, List.mem_singleton, not_or] at hc'
    rw [hjournal]
    exact (h.untold c' hc'.1).append (hadds.untold hc'.2)
  · rw [hjournal]
    rcases List.eq_nil_or_concat later with rfl | ⟨later, last, rfl⟩
    · obtain ⟨rfl, hlast⟩ := List.append_inj' heq rfl
      obtain rfl := List.singleton_inj.1 hlast
      exact hadds.standing h hc
    · -- those timed before are where they were
      rw [List.concat_eq_append, ← List.cons_append, ← List.append_assoc] at heq
      obtain ⟨rfl, -⟩ := List.append_inj' heq rfl
      refine (h.standing earlier c' later rfl).append (hadds.untold fun heq => hc ?_)
        fun c'' hc'' => hadds.untold fun heq => hc ?_
      · rw [← heq]
        simp
      · rw [← heq]
        simp [hc'']

/-- **Timing the remaining components**, by induction on them. -/
theorem run : ∀ (rest : List Component) {done : List Component} {p : Progress σ},
    Round start done p → (done ++ rest).Nodup →
      Round start (done ++ rest) (Run.forEach Run.reportResponseTime rest d p).2
  | [], _, _, h, _ => by
    rw [List.append_nil]
    exact h
  | c :: rest, done, p, h, hnodup => by
    have hc : c ∉ done :=
      fun hmem => (List.nodup_append.1 hnodup).2.2 c hmem c (List.mem_cons_self ..) rfl
    rw [← List.singleton_append, ← List.append_assoc] at hnodup ⊢
    exact run rest (h.step hc d) hnodup

end Round

/-! ## What comes after -/

/-- What was written since tells nothing of whether a component is up. -/
structure Since {σ : Type} (journal : List Entry) (p : Progress σ) : Prop where
  holds : ∃ held, p.session.Holds held
  silent : ∃ later, p.journal = journal ++ later ∧ ∀ c, Untold c later

namespace Since

variable {σ : Type} {journal entries : List Entry} {p : Progress σ} {d : Deployment σ}

theorem write (h : Since journal p) (hentries : ∀ c, Untold c entries) :
    Since journal (p.write entries) where
  holds := h.holds
  silent := by
    obtain ⟨later, hjournal, hlater⟩ := h.silent
    refine ⟨later ++ entries, ?_, fun c => (hlater c).append (hentries c)⟩
    rw [Progress.write, hjournal, List.append_assoc]

theorem after {α : Type} {op : Operation} {m : Step σ α} (h : Since journal p)
    (hop : ∀ c, op ≠ .probe (.ofComponent c)) (hm : Step.Tracks op.Permits m) :
    Since journal (p.after op (m d p.session p.state)) where
  holds := have ⟨_, hholds⟩ := h.holds
    ⟨_, hm.holds hholds⟩
  silent := by
    obtain ⟨later, hjournal, hlater⟩ := h.silent
    refine ⟨later ++ op.record (m d p.session p.state).trace, ?_,
      fun c => (hlater c).append (untold_record (hop c))⟩
    change p.journal ++ _ = _
    rw [hjournal, List.append_assoc]

end Since

namespace Run

variable {σ : Type} {journal : List Entry} {d : Deployment σ} {p : Progress σ}

theorem asides_failureOf {shape : Shape} (q : Query shape)
    (result : Except ApiError (Option shape.Value)) : ∀ e ∈ failureOf q result, e.IsAside := by
  cases result <;> simp [failureOf, Entry.IsAside]

/-- A query comes to its data, and adds nothing to its record but asides. -/
theorem ask_adds {shape : Shape} (q : Query shape) (d : Deployment σ) (p : Progress σ) :
    ∃ asides, ask q d p = ((q.perform d p.session p.state).result.toOption.join,
        (p.after (.ask q) (q.perform d p.session p.state)).write asides) ∧
      ∀ e ∈ asides, e.IsAside := by
  rcases Yields.or_absent (q.perform d p.session p.state).result with hyields | ⟨c, habsent⟩
  · exact ⟨_, ask_apply hyields, asides_failureOf q _⟩
  · obtain ⟨asides, hrun, hasides, -⟩ :=
      recordMissing_adds c d (p.after (.ask q) (q.perform d p.session p.state))
    refine ⟨asides, ?_, hasides⟩
    rw [ask_absent habsent, hrun, habsent]
    rfl

theorem since_write_asides {asides : List Entry} (h : Since journal p)
    (hasides : ∀ e ∈ asides, e.IsAside) :
    Since journal (p.write asides) := h.write fun _ => untold_asides hasides

/-- A run goes on to tell nothing of whether a component is up. -/
theorem accord_since (d : Deployment σ) (journal : List Entry) :
    Accord d d (Itself (Since journal)) (Itself (Since journal)) where
  loosen := id
  config h := by rw [h.1]
  skipped h := by rw [h.1]
  ask q := by
    rintro _ p ⟨rfl, h⟩
    obtain ⟨held, hholds⟩ := h.holds
    obtain ⟨asides, hask, hasides⟩ := ask_adds q d p
    rw [hask]
    refine ⟨rfl, ⟨rfl, ?_⟩, fun c v hq hv => ?_⟩
    · exact since_write_asides (h.after (fun _ => Operation.noConfusion) q.perform_tracks) hasides
    · exact Query.names_perform hholds hq (eq_of_toOption_join hv) v rfl
  write := by
    rintro _ p metrics ⟨rfl, h⟩ hmetrics
    refine ⟨rfl, h.write fun c => .of_remarks (remarks_metrics _) fun entry hentry => ?_⟩
    obtain ⟨m, hm, rfl⟩ := List.mem_map.1 hentry
    obtain ⟨c', hdetails⟩ := hmetrics m hm
    exact hdetails.ne_responseTime
  note n := abides_itself fun p h => since_write_asides h fun e he => by
    rw [List.mem_singleton.1 he]
    trivial
  noteLoose n := abides_itself fun p h => since_write_asides h fun e he => by
    rw [List.mem_singleton.1 he]
    trivial
  choose project := abides_itself fun p h =>
    h.after (fun _ => Operation.noConfusion) (Step.tracks_setProject project)
  login := by
    rintro _ p ⟨rfl, h⟩
    have hafter : Since journal (p.after .authorize (Step.authorize d p.session p.state)) :=
      h.after (fun _ => Operation.noConfusion) (Step.tracks_login _)
    exact ⟨rfl, ⟨rfl, hafter⟩, fun _ => ⟨rfl, hafter⟩⟩

end Run

/-! ## The whole run -/

/-- The components that a run times before another. -/
def Component.earlier (c : Component) : List Component := all.takeWhile (· != c)

theorem Component.nodup_all : all.Nodup := by decide

theorem Component.all_eq (c : Component) : ∃ later, all = c.earlier ++ c :: later := by
  cases c <;> exact ⟨_, rfl⟩

namespace Check

variable {σ : Type} {config : Config} {s : Session} {d : Deployment σ} {w : σ}

/-- After the first login no component was timed, and nothing was read. -/
theorem round_nil {o : Outcome σ Unit} (hholds : ∃ held, o.session.Holds held)
    (hledger : o.session.ledger = .empty) : Round o.session []
      (((start s w).after .authorize o).write [.event (.notice .loggedIn)]) where
  holds := hholds
  same := .refl _
  ledger url := by
    change url ∈ o.session.ledger.urls ↔ _
    rw [hledger]
    simp [Taken, Ledger.empty]
  untold c _ := by
    refine (Untold.nil.append (untold_record Operation.noConfusion)).append
      (untold_asides fun e he => ?_)
    rw [List.mem_singleton.1 he]
    trivial
  standing _ _ _ heq :=
    absurd heq.symm (List.append_ne_nil_of_right_ne_nil _ (List.cons_ne_nil _ _))

/-- What follows the first login. -/
theorem standing_of_login {o : Outcome σ Unit} (hholds : ∃ held, o.session.Holds held)
    (hledger : o.session.ledger = .empty) (c : Component) :
    Standing o.session.root? o.session.baseTags c.earlier c
      (Run.reportAll d (((start s w).after .authorize o).write
        [.event (.notice .loggedIn)])).2.journal := by
  have hround := Round.run (d := d) Component.all (round_nil (s := s) (w := w) hholds hledger)
    Component.nodup_all
  rw [List.nil_append] at hround
  generalize ((start s w).after .authorize o).write [.event (.notice .loggedIn)] =
    loggedIn at hround ⊢
  rw [Run.reportAll, Run.bind_apply]
  generalize (Run.forEach Run.reportResponseTime Component.all d loggedIn).2 = timed at hround ⊢
  have hsince : Since timed.journal timed :=
    ⟨hround.holds, [], (List.append_nil _).symm, fun _ => .nil⟩
  obtain ⟨-, -, hafter⟩ := (Run.accord_since d timed.journal).sections timed timed ⟨rfl, hsince⟩
  obtain ⟨later, hjournal, hlater⟩ := hafter.silent
  obtain ⟨rest, hall⟩ := c.all_eq
  rw [hjournal]
  exact (hround.standing _ c rest hall).append (hlater c) fun c' _ => hlater c'

/-- **Whether an API is up.** In every run whose first login succeeds, against any deployment and
whatever catalog it brings, each component has its standing: by the endpoint in that catalog it is
missing, up or down, or it shares its root with a component that was timed before. -/
theorem apis_standing (hnew : Session.new config = .ok s)
    (hlogin : (Step.authorize d s w).result = .ok ()) :
    ∃ p, Check.run config d w = .ok p ∧
      ∀ c, Standing (Step.authorize d s w).session.root? s.baseTags c.earlier c p.journal := by
  refine ⟨_, run_of_new hnew d w, fun c => ?_⟩
  have hholds := (Step.tracks_login .authorize).holds (d := d) (w := w) (Session.holds_new hnew)
  have hledger : (Step.authorize d s w).session.ledger = .empty := by
    rw [Step.authorize_ledger, (Session.new_fresh hnew).2]
  have htags : (Step.authorize d s w).session.baseTags = s.baseTags := by
    rw [Session.baseTags, Step.authorize_keeps.1, Session.baseTags]
  have hstep : Run.step .authorize Step.authorize d (start s w) = ((Step.authorize d s w).result,
    (start s w).after .authorize (Step.authorize d s w)) := Run.step_apply ..
  have hnote : ∀ p : Progress σ, Run.note .loggedIn d p =
      ((), p.write [.event (.notice .loggedIn)]) :=
    fun _ => rfl
  rw [Run.reportDeployment, Run.bind_apply, hstep, hlogin, ← htags]
  generalize Step.authorize d s w = o at hholds hledger ⊢
  simp only [Run.bind_apply, hnote]
  exact standing_of_login ⟨_, hholds⟩ hledger c

/-- A deployment that answers everything, with one server for identity and compute. -/
def sharedAnswer (request : Request) : Answer :=
  match request.method with
  | .post =>
    .response 201 (some "token") (.json (.obj [("token", .obj [("catalog", Catalog.toJson
      ⟨[⟨Component.identity.name, none, [⟨.public, "http://cloud", none⟩]⟩,
        ⟨Component.compute.name, none, [⟨.public, "http://cloud", none⟩]⟩]⟩)])])) 0
  | .get => .response 200 none (.json (.obj [])) 0

/-- What is told of each component there. -/
theorem shared_standing :
    Session.new .sample = .ok .sample ∧
      (Step.authorize (.stateless sharedAnswer) .sample ()).result = .ok () ∧
      ∃ p, Check.run .sample (.stateless sharedAnswer) () = .ok p ∧
        ∀ c, Standing (Step.authorize (.stateless sharedAnswer) .sample ()).session.root?
          Session.sample.baseTags c.earlier c p.journal :=
  ⟨Session.new_sample, rfl, apis_standing Session.new_sample rfl⟩

/-- Compute has an endpoint there, and its root is answered. Yet the run has no check for it and no
response time: the root was timed for identity. -/
theorem shared_root_untold :
    let s := (Step.authorize (.stateless sharedAnswer) .sample ()).session
    let p := (Run.reportDeployment (.stateless sharedAnswer) (start .sample ())).2
    Check.run .sample (.stateless sharedAnswer) () = .ok p ∧
      (Step.authorize (.stateless sharedAnswer) .sample ()).result = .ok () ∧
      s.resolver.catalog.findUrl? .compute s.config.interface = some "http://cloud" ∧
      (∀ request : Request, request.method = .get → ∃ response,
        HttpClient.receive "http://cloud" (sharedAnswer request) = .ok response) ∧
      p.report.statuses .compute = [] ∧ p.report.responseTimes .compute = [] := by
  intro s p
  refine ⟨rfl, rfl, by decide +kernel, fun request hget => ?_, ?_, ?_⟩
  · rw [sharedAnswer, hget]
    exact ⟨_, rfl⟩
  · exact List.length_eq_zero_iff.1 (by decide +kernel)
  · exact List.length_eq_zero_iff.1 (by decide +kernel)

end Check

end StackWatch
