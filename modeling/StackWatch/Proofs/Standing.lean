import StackWatch.Proofs.Accord

/-!
# What a run tells of a component

A component was timed if its probe was begun and answered (`TimedWith`). From that, and from the
root that the catalog gives it, follows what a report has to tell of it: its `Standing`. A component
without an endpoint is missing; one whose root answers is up, with one response time and one check;
one whose root does not answer is critical. No root is timed twice in a run, so of a component that
shares its root with one that was timed before, nothing is told at all.

What tells nothing of a component (`Untold`) leaves its standing as it is.
-/

namespace StackWatch

/-! ## What a journal tells of a component -/

/-- The service checks of a component. -/
def Report.statuses (r : Report) (c : Component) : List ServiceCheck :=
  r.serviceChecks.filter (·.name == c.checkName)

/-- The response times of a component. -/
def Report.responseTimes (r : Report) (c : Component) : List Metric :=
  r.metrics.filter (·.name == c.responseTimeName)

/-- Whether a component was timed with a response: its probe got the URL, and
was answered with it. -/
def TimedWith (journal : List Entry) (c : Component) (url : String) (response : Response) : Prop :=
  ∃ before after request answer,
    journal = before ++
      (Operation.probe (.ofComponent c)).record [.exchange (.polling c) request answer] ++ after ∧
    request.method = .get ∧ request.url = Url.wire url ∧
      HttpClient.receive url answer = .ok response

/-- An answer is received as a response if its status is that of no failure and its body is
whole, be it empty or JSON. -/
theorem HttpClient.receive_eq_ok {url : String} {answer : Answer} {response : Response} :
    HttpClient.receive url answer = .ok response ↔ ∃ status token value elapsed,
      answer = .response status token (.json value) elapsed ∧ isFailure status = false ∧
        response = ⟨url, token, value, elapsed⟩ := by
  constructor
  · intro h
    unfold HttpClient.receive at h
    cases answer with
    | dropped => cases h
    | response status token body elapsed =>
      dsimp only at h
      split at h
      · cases h
      · rename_i hstatus
        cases body with
        | json value =>
          obtain rfl := Except.ok.inj h
          exact ⟨_, _, _, _, rfl, Bool.eq_false_iff.2 hstatus, rfl⟩
        | _ => cases h
  · rintro ⟨status, token, value, elapsed, rfl, hstatus, rfl⟩
    simp [HttpClient.receive, hstatus]

/-- Whether an entry tells of whether a component is up. -/
def Entry.TellsOf (c : Component) : Entry → Prop
  | .operation op => op = .probe (.ofComponent c)
  | .check outcome => outcome.name = c.checkName
  | .metric m => m.name = c.responseTimeName
  | _ => False

/-- Whether an entry is a remark that tells of no component whether it is up. -/
def Entry.IsAside : Entry → Prop
  | .event (.notice _) | .missing _ | .skipped _ => True
  | _ => False

theorem Entry.IsAside.isRemark {entry : Entry} (h : entry.IsAside) : entry.IsRemark := by
  cases entry with
  | operation op => exact h
  | event event => cases event <;> exact h
  | _ => trivial

theorem Entry.IsAside.not_tellsOf {entry : Entry} (h : entry.IsAside) (c : Component) :
    ¬ entry.TellsOf c := by
  cases entry <;> first | exact id | exact h.elim

/-- Entries that tell nothing of whether a component is up, and do not begin in the
midst of an operation. -/
structure Untold (c : Component) (entries : List Entry) : Prop where
  silent : ∀ e ∈ entries, ¬ e.TellsOf c
  begun : ∀ purpose request answer rest,
    entries ≠ .event (.exchange purpose request answer) :: rest

section Untold

variable {c c' : Component} {journal later remarks : List Entry} {op : Operation}
  {trace : List Event} {url : String} {response : Response}

theorem Untold.nil : Untold c [] where
  silent _ he := absurd he List.not_mem_nil
  begun _ _ _ _ := (List.cons_ne_nil _ _).symm

theorem Untold.append (h : Untold c journal) (hlater : Untold c later) :
    Untold c (journal ++ later) where
  silent e he := (List.mem_append.1 he).elim (h.silent e) (hlater.silent e)
  begun purpose request answer rest heq := by
    cases journal with
    | nil => exact hlater.begun _ _ _ _ heq
    | cons first others =>
      obtain ⟨rfl, -⟩ := List.cons.inj heq
      exact h.begun _ _ _ _ rfl

/-- Remarks that tell nothing. -/
theorem Untold.of_remarks (hremarks : ∀ e ∈ remarks, e.IsRemark)
    (h : ∀ e ∈ remarks, ¬ e.TellsOf c) : Untold c remarks where
  silent := h
  begun purpose request answer rest heq := by
    subst heq
    exact hremarks _ (List.mem_cons_self ..)

theorem untold_asides (h : ∀ e ∈ remarks, e.IsAside) : Untold c remarks :=
  .of_remarks (fun e he => (h e he).isRemark) fun e he => (h e he).not_tellsOf c

/-- An operation that does not time the component. -/
theorem untold_record (hop : op ≠ .probe (.ofComponent c)) : Untold c (op.record trace) where
  silent e he := by
    rcases List.mem_cons.1 he with rfl | he
    · exact hop
    · obtain ⟨event, -, rfl⟩ := List.mem_map.1 he
      exact id
  begun _ _ _ _ heq := Entry.noConfusion (List.cons.inj heq).1

theorem statuses_append : (reportOf (journal ++ later)).statuses c =
    (reportOf journal).statuses c ++ (reportOf later).statuses c := by
  simp only [Report.statuses, reportOf, checksOf_append, List.filter_append]

theorem responseTimes_append : (reportOf (journal ++ later)).responseTimes c =
    (reportOf journal).responseTimes c ++ (reportOf later).responseTimes c := by
  simp only [Report.responseTimes, reportOf, metricsOf_append, List.filter_append]

theorem Untold.statuses (h : Untold c journal) : (reportOf journal).statuses c = [] := by
  refine List.filter_eq_nil_iff.2 fun outcome hmem => ?_
  obtain ⟨entry, hentry, hmatch⟩ := List.mem_filterMap.1 hmem
  cases entry with
  | check outcome' =>
    obtain rfl : outcome' = outcome := Option.some.inj hmatch
    exact fun hname => h.silent _ hentry (beq_iff_eq.1 hname)
  | _ => cases hmatch

theorem Untold.responseTimes (h : Untold c journal) : (reportOf journal).responseTimes c = [] := by
  refine List.filter_eq_nil_iff.2 fun m hmem => ?_
  obtain ⟨entry, hentry, hmatch⟩ := List.mem_filterMap.1 hmem
  cases entry with
  | metric m' =>
    obtain rfl : m' = m := Option.some.inj hmatch
    exact fun hname => h.silent _ hentry (beq_iff_eq.1 hname)
  | _ => cases hmatch

/-- Whatever tells nothing of a component does not time it. -/
theorem timedWith_append (h : Untold c later) :
    TimedWith (journal ++ later) c url response ↔ TimedWith journal c url response := by
  constructor
  · rintro ⟨before, after, request, answer, heq, hanswer⟩
    rw [List.append_assoc] at heq
    rcases Step.append_eq_append_cons heq with ⟨rest, rfl⟩ | ⟨between, -, hlater⟩
    · rw [List.append_assoc] at heq
      obtain ⟨-, hrest⟩ := List.cons.inj (List.append_cancel_left heq)
      cases rest with
      | nil => exact absurd hrest (h.begun _ _ _ _)
      | cons event rest =>
        obtain ⟨rfl, -⟩ := List.cons.inj hrest
        exact ⟨before, rest, request, answer, by rw [List.append_assoc]; rfl, hanswer⟩
    · exact absurd rfl (h.silent (.operation (.probe (.ofComponent c))) (by rw [hlater]; simp))
  · rintro ⟨before, after, request, answer, rfl, hanswer⟩
    exact ⟨before, after ++ later, request, answer, List.append_assoc .., hanswer⟩

/-- A component that was not timed before is timed with what its own probe was answered with. -/
theorem timedWith_record (h : Untold c journal) (hremarks : ∀ e ∈ remarks, e.IsRemark) :
    TimedWith (journal ++ ((Operation.probe (.ofComponent c)).record trace ++ remarks)) c
      url response ↔
      ∃ request answer, trace.head? = some (.exchange (.polling c) request answer) ∧
        request.method = .get ∧ request.url = Url.wire url ∧
          HttpClient.receive url answer = .ok response := by
  constructor
  · rintro ⟨before, after, request, answer, heq, hanswer⟩
    refine ⟨request, answer, ?_, hanswer⟩
    rw [List.append_assoc] at heq
    rcases Step.append_eq_append_cons heq with ⟨rest, rfl⟩ | ⟨between, rfl, hown⟩
    · exact absurd rfl (h.silent (.operation (.probe (.ofComponent c))) (by simp))
    · -- the operation stands at the beginning of its record, and nowhere else
      cases between with
      | nil =>
        obtain ⟨-, hrest⟩ := List.cons.inj hown
        cases trace with
        | nil => exact (hremarks (.event (.exchange (.polling c) request answer)) (by
            rw [show remarks = _ from hrest]
            exact List.mem_cons_self ..)).elim
        | cons event others =>
          obtain ⟨hevent, -⟩ := List.cons.inj hrest
          rw [List.head?_cons, Entry.event.inj hevent]
      | cons first between =>
        obtain ⟨-, hrest⟩ := List.cons.inj hown
        have hmem : .operation (.probe (.ofComponent c)) ∈ trace.map .event ++ remarks := by
          rw [show trace.map Entry.event ++ remarks = _ from hrest]
          simp
        rcases List.mem_append.1 hmem with hmem | hmem
        · obtain ⟨_, -, hevent⟩ := List.mem_map.1 hmem
          cases hevent
        · exact (hremarks _ hmem).elim
  · rintro ⟨request, answer, htrace, hanswer⟩
    cases trace with
    | nil => cases htrace
    | cons event others =>
      obtain rfl := Option.some.inj htrace
      refine ⟨journal, others.map .event ++ remarks, request, answer, ?_, hanswer⟩
      simp [Operation.record]

end Untold

/-! ## The standing of a component -/

/-- The URL by which a component is timed: that of its probe, at its endpoint
in the catalog at hand. -/
def Session.root? (s : Session) (c : Component) : Option String :=
  (s.resolver.catalog.findUrl? c s.config.interface).map (Probe.ofComponent c).url

/-- Whether one of some components was timed with a response from a URL. -/
def Taken (root : Component → Option String) (components : List Component) (journal : List Entry)
    (url : String) : Prop :=
  ∃ c ∈ components, root c = some url ∧ ∃ response, TimedWith journal c url response

/-- What a journal tells of a component, given the roots of the components and which
of them come before it. -/
structure Standing (root : Component → Option String) (tags : List String)
    (earlier : List Component) (c : Component) (journal : List Entry) : Prop where
  /-- a component without an endpoint is missing -/
  absent : root c = none → (reportOf journal).statuses c = [] ∧
    (reportOf journal).responseTimes c = [] ∧ c ∈ (reportOf journal).missing
  /-- a root is timed once -/
  shared : ∀ url, root c = some url → Taken root earlier journal url →
    (reportOf journal).statuses c = [] ∧ (reportOf journal).responseTimes c = []
  up : ∀ url response, root c = some url → ¬ Taken root earlier journal url →
    TimedWith journal c url response → (reportOf journal).statuses c = [⟨c.checkName, .ok, tags⟩] ∧
      (reportOf journal).responseTimes c = [⟨c.responseTimeName, response.milliseconds, tags⟩]
  down : ∀ url, root c = some url → ¬ Taken root earlier journal url →
    (∀ response, ¬ TimedWith journal c url response) →
      (reportOf journal).statuses c = [⟨c.checkName, .critical, tags⟩] ∧
        (reportOf journal).responseTimes c = []

section Standing

variable {root : Component → Option String} {tags : List String} {earlier : List Component}
  {c : Component} {journal later : List Entry} {url : String} {response : Response}

theorem Standing.of_absent (hroot : root c = none) (hstatuses : (reportOf journal).statuses c = [])
    (htimes : (reportOf journal).responseTimes c = []) (hmissing : c ∈ missingOf journal) :
    Standing root tags earlier c journal where
  absent _ := ⟨hstatuses, htimes, hmissing⟩
  shared _ hsome := nomatch hroot.symm.trans hsome
  up _ _ hsome := nomatch hroot.symm.trans hsome
  down _ hsome := nomatch hroot.symm.trans hsome

theorem Standing.of_taken (hroot : root c = some url) (htaken : Taken root earlier journal url)
    (hstatuses : (reportOf journal).statuses c = [])
    (htimes : (reportOf journal).responseTimes c = []) : Standing root tags earlier c journal where
  absent hnone := nomatch hroot.symm.trans hnone
  shared _ _ _ := ⟨hstatuses, htimes⟩
  up url' _ hsome hfree := by
    obtain rfl : url = url' := Option.some.inj (hroot.symm.trans hsome)
    exact absurd htaken hfree
  down url' hsome hfree := by
    obtain rfl : url = url' := Option.some.inj (hroot.symm.trans hsome)
    exact absurd htaken hfree

theorem Standing.of_timed (hroot : root c = some url) (hfree : ¬ Taken root earlier journal url)
    (htimed : ∀ response', TimedWith journal c url response' ↔ response' = response)
    (hstatuses : (reportOf journal).statuses c = [⟨c.checkName, .ok, tags⟩])
    (htimes : (reportOf journal).responseTimes c =
      [⟨c.responseTimeName, response.milliseconds, tags⟩]) :
    Standing root tags earlier c journal where
  absent hnone := nomatch hroot.symm.trans hnone
  shared url' hsome htaken := by
    obtain rfl : url = url' := Option.some.inj (hroot.symm.trans hsome)
    exact absurd htaken hfree
  up url' response' hsome _ hresponse := by
    obtain rfl : url = url' := Option.some.inj (hroot.symm.trans hsome)
    obtain rfl := (htimed response').1 hresponse
    exact ⟨hstatuses, htimes⟩
  down url' hsome _ hnone := by
    obtain rfl : url = url' := Option.some.inj (hroot.symm.trans hsome)
    exact absurd ((htimed response).2 rfl) (hnone response)

theorem Standing.of_failed (hroot : root c = some url) (hfree : ¬ Taken root earlier journal url)
    (hfailed : ∀ response, ¬ TimedWith journal c url response)
    (hstatuses : (reportOf journal).statuses c = [⟨c.checkName, .critical, tags⟩])
    (htimes : (reportOf journal).responseTimes c = []) : Standing root tags earlier c journal where
  absent hnone := nomatch hroot.symm.trans hnone
  shared url' hsome htaken := by
    obtain rfl : url = url' := Option.some.inj (hroot.symm.trans hsome)
    exact absurd htaken hfree
  up url' response' hsome _ hresponse := by
    obtain rfl : url = url' := Option.some.inj (hroot.symm.trans hsome)
    exact absurd hresponse (hfailed response')
  down _ _ _ _ := ⟨hstatuses, htimes⟩

theorem taken_append (h : ∀ c ∈ earlier, Untold c later) :
    Taken root earlier (journal ++ later) url ↔ Taken root earlier journal url := by
  unfold Taken
  refine exists_congr fun c => and_congr_right fun hc => and_congr_right fun _ => ?_
  exact exists_congr fun response => timedWith_append (h c hc)

/-- What tells nothing of a component, nor of those before it, leaves its standing. -/
theorem Standing.append (h : Standing root tags earlier c journal) (hc : Untold c later)
    (hearlier : ∀ c ∈ earlier, Untold c later) :
    Standing root tags earlier c (journal ++ later) := by
  have hstatuses : (reportOf (journal ++ later)).statuses c = (reportOf journal).statuses c := by
    rw [statuses_append, hc.statuses, List.append_nil]
  have htimes : (reportOf (journal ++ later)).responseTimes c =
      (reportOf journal).responseTimes c := by
    rw [responseTimes_append, hc.responseTimes, List.append_nil]
  refine ⟨fun hroot => ?_, fun url hroot htaken => ?_, fun url response hroot htaken htimed => ?_,
    fun url hroot htaken htimed => ?_⟩
  · obtain ⟨hnone, hnone', hmissing⟩ := h.absent hroot
    refine ⟨hstatuses.trans hnone, htimes.trans hnone', ?_⟩
    change c ∈ missingOf (journal ++ later)
    rw [missingOf_append]
    exact List.mem_append_left _ hmissing
  · rw [hstatuses, htimes]
    exact h.shared url hroot ((taken_append hearlier).1 htaken)
  · rw [hstatuses, htimes]
    rw [taken_append hearlier] at htaken
    exact h.up url response hroot htaken ((timedWith_append hc).1 htimed)
  · rw [hstatuses, htimes]
    rw [taken_append hearlier] at htaken
    exact h.down url hroot htaken fun response hresponse =>
      htimed response ((timedWith_append hc).2 hresponse)

end Standing

end StackWatch
