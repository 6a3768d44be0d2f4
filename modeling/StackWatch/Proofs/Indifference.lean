import StackWatch.Proofs.Accord
import StackWatch.Proofs.Agreement
import StackWatch.Proofs.TwoRuns

/-!
# A report does not show in which order items were listed

Two runs against deployments that bring the same items are `Alongside` each other: their sessions
are level, and what they have reported and given up is the same. What they noted and asked may
differ, since of several failures they may meet another one first. While a login lasts that would be
granted again, they are `Close`, and that is a relation by which whole runs go alike
(`Run.accord_sameItems`).
-/

namespace StackWatch

theorem reportOf_append {before before' after after' : List Entry}
    (hbefore : reportOf before' = reportOf before) (hafter : reportOf after' = reportOf after) :
    reportOf (before' ++ after') = reportOf (before ++ after) := by
  obtain ⟨hmetrics, hchecks, hmissing⟩ := Report.mk.inj hbefore
  obtain ⟨hmetrics', hchecks', hmissing'⟩ := Report.mk.inj hafter
  simp only [reportOf, metricsOf_append, checksOf_append, missingOf_append, hmetrics,
    hchecks, hmissing, hmetrics', hchecks', hmissing']

theorem reportOf_record (op : Operation) (trace : List Event) :
    reportOf (op.record trace) = ⟨[], [], []⟩ := by
  simp only [reportOf, metricsOf_record, checksOf_record, missingOf_record]

namespace Run

variable {config : Config} {answer answer' : Request → Answer} {p p' : Progress Unit}

/-- Two runs that have reported the same, and go on alike. -/
structure Alongside (config : Config) (p p' : Progress Unit) : Prop where
  level : p.session.Level config p'.session
  report : p'.report = p.report
  skipped : p'.skipped = p.skipped

/-- Two such runs under a login that would be granted again. -/
structure Close (config : Config) (answer : Request → Answer) (p p' : Progress Unit) : Prop
    extends Alongside config p p' where
  steady : ∃ login, p.session.Steady answer login

/-! ## What is written -/

/-- Both may write what tells the same. -/
theorem Alongside.write (h : Alongside config p p') {entries entries' : List Entry}
    (hreport : reportOf entries' = reportOf entries)
    (hskipped : skippedOf entries' = skippedOf entries) :
    Alongside config (p.write entries) (p'.write entries') where
  level := h.level
  report := reportOf_append h.report hreport
  skipped := by
    rw [Progress.skipped_write, Progress.skipped_write, h.skipped, hskipped]

/-- **One operation** keeps two runs alongside if it keeps their sessions level. -/
theorem Alongside.after {α : Type} (h : Alongside config p p') (op : Operation)
    {o o' : Outcome Unit α} (hlevel : o.session.Level config o'.session) :
    Alongside config (p.after op o) (p'.after op o') where
  level := hlevel
  report := reportOf_append h.report (by rw [reportOf_record, reportOf_record])
  skipped := by
    rw [Progress.skipped_after, Progress.skipped_after, h.skipped]

theorem Close.write (h : Close config answer p p') {entries entries' : List Entry}
    (hreport : reportOf entries' = reportOf entries)
    (hskipped : skippedOf entries' = skippedOf entries) :
    Close config answer (p.write entries) (p'.write entries') :=
  ⟨h.toAlongside.write hreport hskipped, h.steady⟩

variable {d d' : Deployment Unit}

/-- What is noted is not reported. -/
theorem close_note (n n' : Notice) : Abides d d' (Close config answer) (note n) (note n') :=
  fun _ _ h => ⟨rfl, h.write rfl rfl⟩

theorem close_write (entries : List Entry) :
    Abides d d' (Close config answer) (Run.write entries) (Run.write entries) :=
  fun _ _ h => ⟨rfl, h.write rfl rfl⟩

/-- What goes by the configuration alone. -/
theorem close_tagged (f : List String → Run Unit Unit)
    (hf : ∀ tags, Abides d d' (Close config answer) (f tags) (f tags)) :
    Abides d d' (Close config answer) (get >>= fun p => f p.session.baseTags)
      (get >>= fun p' => f p'.session.baseTags) :=
  matches_get (f := f) (g := f)
    (fun _ _ h => by rw [Session.baseTags, Session.baseTags, (h.level.stays "").config]) hf

theorem close_emit (metrics : List Metric) :
    Abides d d' (Close config answer) (emit metrics) (emit metrics) :=
  close_tagged (fun tags =>
    Run.write (metrics.map fun m => .metric { m with tags := tags ++ m.tags }))
    fun _ => close_write _

theorem close_emitCheck (c : Component) (status : Status) :
    Abides d d' (Close config answer) (emitCheck c status) (emitCheck c status) :=
  close_tagged (fun tags => Run.write [.check ⟨c.checkName, status, tags⟩]) fun _ => close_write _

theorem close_skip (c : Component) : Abides d d' (Close config answer) (skip c) (skip c) :=
  Abides.unlessSkipped (fun _ _ h => h.skipped) c (close_write [.skipped c])

theorem close_recordMissing (c : Component) :
    Abides d d' (Close config answer) (recordMissing c) (recordMissing c) := by
  refine (close_skip c).bind fun _ => ?_
  let record (report : Report) : Run Unit Unit :=
    if c ∈ report.missing then pure () else do
      note (.componentMissing c)
      Run.write [.missing c]
  refine matches_get (f := record) (g := record) (fun _ _ h => h.report) fun report => ?_
  unfold record
  split
  · exact matches_pure fun _ _ h => h
  · exact (close_note _ _).bind fun _ => close_write _

/-! ## What is asked -/

theorem reportOf_failureOf {shape : Shape} (q : Query shape)
    (result : Except ApiError (Option shape.Value)) :
    reportOf (failureOf q result) = ⟨[], [], []⟩ ∧ skippedOf (failureOf q result) = [] := by
  cases result <;> exact ⟨rfl, rfl⟩

/-- Which failure it was that made a component unreachable is not reported. -/
theorem close_tell (c : Component) {result result' : Except ApiError (Option Float)}
    (h : Both Eq result result') (hthere : Yields (fun _ => True) result)
    (hthere' : Yields (fun _ => True) result') :
    Abides d d' (Close config answer) (tell c result) (tell c result') := by
  cases h with
  | @ok elapsed _ heq =>
    subst heq
    cases elapsed with
    | none => exact matches_pure fun _ _ h => h
    | some elapsed => exact (close_emit _).bind fun _ => close_emitCheck c .ok
  | error e e' =>
    have hnote : Abides d d' (Close config answer) (note (.unreachable c e))
        (note (.unreachable c e')) :=
      close_note _ _
    have hdown := hnote.bind fun _ => (close_skip c).bind fun _ => close_emitCheck c .critical
    cases e with
    | componentNotFound c' => exact absurd rfl (hthere c')
    | _ =>
      cases e' with
      | componentNotFound c' => exact absurd rfl (hthere' c')
      | _ => exact hdown

section SameItems

variable (h : SameItems config answer answer')
include h

/-- A query comes to the same data. That of a component that is not there
misses it on both sides. -/
theorem close_ask {shape : Shape} (q : Query shape) :
    Matches (.stateless answer) (.stateless answer') (Close config answer) (ask q) (ask q)
      fun value p p' => Close config answer p p' ∧
        ∀ c v, q.component? = some c → value = some v → c.NamesData v := by
  intro p p' hp
  obtain ⟨login, hsteady⟩ := hp.steady
  have hsteady' := hsteady.level h hp.level
  obtain ⟨hvalue, hlevel, hsteady₁⟩ := q.perform_sameItems h hp.level hsteady
  have hafter : Close config answer
      (p.after (.ask q) (q.perform (.stateless answer) p.session p.state))
      (p'.after (.ask q) (q.perform (.stateless answer') p'.session p'.state)) :=
    ⟨hp.toAlongside.after _ hlevel, login, hsteady₁⟩
  by_cases hthere : ∀ c, q.component? = some c → p.session.endpoint? c ≠ none
  · have hyields :=
      q.perform_yields_of_there (d := .stateless answer) (w := p.state) hsteady.holds hthere
    have hyields' :=
      q.perform_yields_of_there (d := .stateless answer') (w := p'.state) hsteady'.holds
      fun c hq => hp.level.endpoint? c ▸ hthere c hq
    rw [ask_apply hyields, ask_apply hyields']
    obtain ⟨hreport, hskipped⟩ :=
      reportOf_failureOf q (q.perform (.stateless answer) p.session p.state).result
    obtain ⟨hreport', hskipped'⟩ :=
      reportOf_failureOf q (q.perform (.stateless answer') p'.session p'.state).result
    refine ⟨hvalue, hafter.write (hreport'.trans hreport.symm) (hskipped'.trans hskipped.symm),
      fun c v hq hv => ?_⟩
    exact Query.names_perform hsteady.holds hq (eq_of_toOption_join hv) v rfl
  · simp only [not_forall, not_not] at hthere
    obtain ⟨c, hq, hendpoint⟩ := hthere
    have habsent :=
      q.perform_absent (d := .stateless answer) (w := p.state) hsteady.holds.sound hq hendpoint
    have habsent' :=
      q.perform_absent (d := .stateless answer') (w := p'.state) hsteady'.holds.sound hq
      ((hp.level.endpoint? c).trans hendpoint)
    rw [ask_absent (congrArg Outcome.result habsent), ask_absent (congrArg Outcome.result habsent')]
    exact ⟨rfl, (close_recordMissing c _ _ hafter).2, fun _ _ _ hv => nomatch hv⟩

/-- A component is timed alike, or is missed or unreachable on both sides. -/
theorem close_responseTime (c : Component) : Abides (.stateless answer) (.stateless answer')
    (Close config answer) (reportResponseTime c) (reportResponseTime c) := by
  intro p p' hp
  obtain ⟨login, hsteady⟩ := hp.steady
  obtain ⟨hresult, hlevel⟩ := Step.agrees_probe h (.ofComponent c) hp.level
  obtain ⟨hsound, hsame⟩ :=
    (Probe.ofComponent c).probe_keeps (d := .stateless answer) (w := p.state) hp.level.sound
  have hafter : Close config answer
      (p.after (.probe (.ofComponent c))
        (Step.probe (.ofComponent c) (.stateless answer) p.session p.state))
      (p'.after (.probe (.ofComponent c))
        (Step.probe (.ofComponent c) (.stateless answer') p'.session p'.state)) :=
    ⟨hp.toAlongside.after _ hlevel, login, hsteady.of_sameLogin hsound hsame⟩
  rw [responseTime_apply, responseTime_apply]
  cases hendpoint : p.session.endpoint? (Probe.ofComponent c).component with
  | none =>
    have habsent :=
      Probe.probe_absent (d := .stateless answer) (w := p.state) hp.level.sound hendpoint
    have habsent' := Probe.probe_absent (d := .stateless answer') (w := p'.state) hp.level.sound'
      ((hp.level.endpoint? _).trans hendpoint)
    rw [congrArg Outcome.result habsent, congrArg Outcome.result habsent']
    exact close_recordMissing _ _ _ hafter
  | some endpoint =>
    have hyields :=
      Probe.probe_yields (d := .stateless answer) (w := p.state) hp.level.sound hendpoint
    have hyields' := Probe.probe_yields (d := .stateless answer') (w := p'.state) hp.level.sound'
      ((hp.level.endpoint? _).trans hendpoint)
    exact close_tell c hresult hyields hyields' _ _ hafter

/-- A login is granted on both sides or on neither. -/
theorem alongside_login : Matches (.stateless answer) (.stateless answer') (Alongside config)
    (step .authorize Step.authorize) (step .authorize Step.authorize)
    fun result p p' => Alongside config p p' ∧ (result = .ok () → Close config answer p p') := by
  intro p p' hp
  have hanswer : answer' p'.session.loginRequest = answer p.session.loginRequest := by
    rw [(hp.level.stays "").loginRequest]
    exact h.post _ rfl
  have hafter : ∀ {o o' : Outcome Unit Unit}, o.session.Level config o'.session →
      Alongside config (p.after .authorize o) (p'.after .authorize o') := hp.after .authorize
  have halike := Step.authorize_alike hp.level.sound (hp.level.stays "").config hanswer
  change (Step.authorize (.stateless answer') p'.session ()).result =
      (Step.authorize (.stateless answer) p.session ()).result ∧
    Alongside config (p.after .authorize (Step.authorize (.stateless answer) p.session ()))
      (p'.after .authorize (Step.authorize (.stateless answer') p'.session ())) ∧
    ((Step.authorize (.stateless answer) p.session ()).result = .ok () →
      Close config answer (p.after .authorize (Step.authorize (.stateless answer) p.session ()))
        (p'.after .authorize (Step.authorize (.stateless answer') p'.session ())))
  generalize Step.authorize (.stateless answer) p.session () = o at halike
  generalize Step.authorize (.stateless answer') p'.session () = o' at halike
  cases halike with
  | refused hresult hresult' hsession hsession' =>
    have hlevel : o.session.Level config o'.session := by
      rw [hsession, hsession']
      exact hp.level.forget
    refine ⟨hresult'.trans hresult.symm, hafter hlevel, fun hok => ?_⟩
    cases hresult.symm.trans hok
  | granted hresult hresult' hsession hsession' _ hsteady =>
    have hlevel : o.session.Level config o'.session := by
      rw [hsession, hsession']
      exact hp.level.relogged _
    exact ⟨hresult'.trans hresult.symm, hafter hlevel, fun _ => ⟨hafter hlevel, _, hsteady⟩⟩

/-- **Runs against deployments that bring the same items** go alike. -/
theorem accord_sameItems : Accord (.stateless answer) (.stateless answer') (Alongside config)
    (Close config answer) where
  loosen := Close.toAlongside
  config h := (h.level.stays "").config
  skipped h := h.skipped
  ask q := close_ask h q
  write hclose _ := hclose.write rfl rfl
  note n := close_note n n
  noteLoose _ _ _ hp := ⟨rfl, hp.write rfl rfl⟩
  choose project _ _ hp := ⟨rfl, hp.after _ (hp.level.withProject project)⟩
  login := alongside_login h

end SameItems

end Run

namespace Check

variable {config : Config} {answer answer' : Request → Answer} {s : Session}

/-- **The order of items is not reported.** If a deployment without a state lists the items of
its collections in another order than a second one does, and else answers alike, a run against
either reports the same. -/
theorem report_unordered (hnew : Session.new config = .ok s)
    (h : SameItems s.config answer answer') :
    ∃ p p', Check.run config (.stateless answer) () = .ok p ∧
      Check.run config (.stateless answer') () = .ok p' ∧ p'.report = p.report := by
  have hsound := (Session.holds_new hnew).sound
  have hstart : Run.Alongside s.config (start s ()) (start s ()) :=
    ⟨⟨hsound, hsound, rfl, fun site => .refl site s⟩, rfl, rfl⟩
  have hrun := (Run.accord_sameItems h).deployment (Run.close_responseTime h) _ _ hstart
  exact ⟨_, _, run_of_new hnew _ (), run_of_new hnew _ (), hrun.2.report⟩

/-- A flavor with as many processors. -/
def flavorJson (id : String) (processors : Int) : Json :=
  .obj [("id", .str id), ("vcpus", .int processors)]

/-- What a deployment answers that grants every login, and lists flavors wherever it is asked. -/
def flavorsAnswer (flavors : List Json) (request : Request) : Answer :=
  match request.method with
  | .post =>
    .response 201 (some "token")
      (.json (.obj [("token", .obj [("catalog", Catalog.sample.toJson)])])) 0
  | .get => .response 200 none (.json (.obj [("flavors", .arr flavors)])) 0

/-- Such deployments bring the same items if their flavors are rearranged. -/
theorem sameItems_flavorsAnswer (config : Config) {flavors flavors' : List Json}
    (h : Rearranged "flavors" flavors flavors') :
    SameItems config (flavorsAnswer flavors) (flavorsAnswer flavors') where
  post request hpost := by rw [flavorsAnswer, flavorsAnswer, hpost]
  get request hget := by
    rw [flavorsAnswer, flavorsAnswer, hget]
    refine .listed fun member => ?_
    rw [Json.get?_obj, Json.get?_obj]
    by_cases hmember : member = "flavors"
    · subst hmember
      exact .items (fun hprojects => absurd hprojects.2 (by decide)) h
    · simp only [findEntry, if_neg hmember]
      exact .same none

/-- Two flavors in either order are reported alike. -/
theorem flavors_unordered :
    let answer := flavorsAnswer [flavorJson "small" 1, flavorJson "large" 8]
    let answer' := flavorsAnswer [flavorJson "large" 8, flavorJson "small" 1]
    Session.new .sample = .ok .sample ∧ SameItems .sample answer answer' ∧
      ∃ p p', Check.run .sample (.stateless answer) () = .ok p ∧
        Check.run .sample (.stateless answer') () = .ok p' ∧ p'.report = p.report := by
  intro answer answer'
  have hapart : Apart "flavors" (flavorJson "small" 1) (flavorJson "large" 8) := by
    intro id hsmall hlarge
    have hids : some "small" = some "large" := hsmall.trans hlarge.symm
    exact absurd hids (by decide)
  have hitems : SameItems .sample answer answer' :=
    sameItems_flavorsAnswer _ (.moved (.swap _ _ _) (List.pairwise_pair.2 hapart))
  exact ⟨Session.new_sample, hitems, report_unordered Session.new_sample hitems⟩

end Check

end StackWatch
