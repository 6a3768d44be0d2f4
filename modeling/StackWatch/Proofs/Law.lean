import StackWatch.Check.Sections
import StackWatch.Proofs.Ending

/-!
# The law of a journal

What a run may write in its journal, given what stands there already. An entry is `Quiet` if it has
nothing to do with a component that was skipped before, `InScope` unless it is a request that does
not belong to the project that is reported, or goes out without a token for it, and `Warranted` if
it finds only those components missing that a catalog lacks. `Entry.Lawful` is all three, and a
journal is lawful when each of its entries was at the time when it was written (`Chronicle`).

Beside the law stands what a journal tells of its run: the operation that was begun last, the
project that is reported, the last request for a token and what came of it.
-/

namespace StackWatch

/-! ## Chronicles -/

/-- A journal in which every entry is as it should be after those before it. -/
def Chronicle (P : List Entry → Entry → Prop) (journal : List Entry) : Prop :=
  ∀ ⦃before entry after⦄, journal = before ++ entry :: after → P before entry

namespace Chronicle

variable {P : List Entry → Entry → Prop} {journal later : List Entry}

theorem nil : Chronicle P [] := fun before _ _ h => by
  cases before <;> cases h

/-- What is written at the end has to be as it should after all that was there. -/
theorem append (h : Chronicle P journal)
    (hlater : ∀ ⦃before entry after⦄, later = before ++ entry :: after →
      P (journal ++ before) entry) :
    Chronicle P (journal ++ later) := by
  intro before entry after heq
  rcases Step.append_eq_append_cons heq with ⟨rest, hjournal⟩ | ⟨between, rfl, hlast⟩
  · exact h hjournal
  · exact hlater hlast

/-- One entry that may be written next. -/
theorem single {entry : Entry} (h : P journal entry) ⦃before : List Entry⦄ ⦃entry' : Entry⦄
    ⦃after : List Entry⦄ (heq : [entry] = before ++ entry' :: after) :
    P (journal ++ before) entry' := by
  cases before with
  | nil =>
    obtain ⟨rfl, -⟩ := List.cons.inj heq
    rw [List.append_nil]
    exact h
  | cons first rest => simp at heq

theorem concat {entry : Entry} (h : Chronicle P journal) (hentry : P journal entry) :
    Chronicle P (journal ++ [entry]) :=
  h.append (single hentry)

/-- What was written first was as it should be. -/
theorem of_append (h : Chronicle P (journal ++ later)) : Chronicle P journal := by
  intro before entry after heq
  exact @h before entry (after ++ later) (by rw [heq, List.append_assoc]; rfl)

theorem concat_iff {entry : Entry} :
    Chronicle P (journal ++ [entry]) ↔ Chronicle P journal ∧ P journal entry :=
  ⟨fun h => ⟨h.of_append, h rfl⟩, fun h => h.1.concat h.2⟩

/-- Entries that may be written in turn after those of a journal. -/
def Continues (P : List Entry → Entry → Prop) : List Entry → List Entry → Prop
  | _, [] => True
  | journal, entry :: rest => P journal entry ∧ Continues P (journal ++ [entry]) rest

/-- By induction on the entries. -/
theorem append_iff : ∀ {journal later : List Entry},
    Chronicle P (journal ++ later) ↔ Chronicle P journal ∧ Continues P journal later
  | journal, [] => by rw [List.append_nil, Continues, and_true]
  | journal, entry :: rest => by
    rw [← List.singleton_append, ← List.append_assoc, append_iff, concat_iff, and_assoc]
    rfl

instance decidableContinues [∀ journal entry, Decidable (P journal entry)] :
    ∀ journal later, Decidable (Continues P journal later)
  | _, [] => isTrue trivial
  | journal, entry :: rest =>
    have := decidableContinues (journal ++ [entry]) rest
    inferInstanceAs (Decidable (P journal entry ∧ Continues P (journal ++ [entry]) rest))

instance [∀ journal entry, Decidable (P journal entry)] : Decidable (Chronicle P journal) :=
  decidable_of_iff (Continues P [] journal) ⟨fun h => append_iff.2 ⟨nil, h⟩, fun h =>
    (append_iff.1 h).2⟩

end Chronicle

/-! ## What a journal tells of its run -/

/-- The operation that was begun last. -/
def lastOperation (journal : List Entry) : Option Operation := (operationsOf journal).getLast?

/-- The project of the next login, after an operation. -/
def Operation.projectAfter (project : Option String) : Operation → Option String
  | .setProject project => project
  | _ => project

/-- The project that is reported, none before and after all projects: the one
that was chosen last. -/
def projectOf (journal : List Entry) : Option String :=
  (operationsOf journal).foldl Operation.projectAfter none

/-- Whether nothing was reported of a component so far. -/
def Unmeasured (c : Component) (journal : List Entry) : Prop :=
  ∀ m ∈ metricsOf journal, ¬ c.Names m.name

/-! ### Of an operation -/

section Record

variable (journal : List Entry) (op : Operation) (trace : List Event)

theorem operationsOf_record : operationsOf (op.record trace) = [op] := by
  have htrace : operationsOf (trace.map .event) = [] := by
    rw [operationsOf, List.filterMap_map]
    exact List.filterMap_eq_nil_iff.2 fun _ _ => rfl
  exact congrArg (op :: ·) htrace

@[simp] theorem eventsOf_record : eventsOf (op.record trace) = trace := by
  rw [eventsOf, Operation.record, List.filterMap_cons_none rfl, List.filterMap_map]
  exact List.filterMap_some

/-- A view that sees no operations and no events. -/
theorem view_record {α : Type} {view : Entry → Option α} (hop : view (.operation op) = none)
    (hevent : ∀ event, view (.event event) = none) : (op.record trace).filterMap view = [] := by
  rw [Operation.record, List.filterMap_cons_none hop, List.filterMap_map]
  exact List.filterMap_eq_nil_iff.2 fun event _ => hevent event

@[simp] theorem metricsOf_record : metricsOf (op.record trace) = [] :=
  view_record op trace rfl fun _ => rfl

@[simp] theorem checksOf_record : checksOf (op.record trace) = [] :=
  view_record op trace rfl fun _ => rfl

@[simp] theorem missingOf_record : missingOf (op.record trace) = [] :=
  view_record op trace rfl fun _ => rfl

@[simp] theorem skippedOf_record : skippedOf (op.record trace) = [] :=
  view_record op trace rfl fun _ => rfl

@[simp] theorem lastOperation_record : lastOperation (journal ++ op.record trace) = some op := by
  rw [lastOperation, operationsOf_append, operationsOf_record, List.getLast?_concat]

@[simp] theorem projectOf_record :
    projectOf (journal ++ op.record trace) = op.projectAfter (projectOf journal) := by
  rw [projectOf, operationsOf_append, operationsOf_record, List.foldl_append]
  rfl

@[simp] theorem unmeasured_record {c : Component} :
    Unmeasured c (journal ++ op.record trace) ↔ Unmeasured c journal := by
  rw [Unmeasured, metricsOf_append, metricsOf_record, List.append_nil]
  exact Iff.rfl

end Record

/-- An entry that an operation leaves is the operation, or an event of its trace after
the events before it. -/
theorem Operation.record_eq_append_cons {op : Operation} {trace : List Event}
    {before after : List Entry} {entry : Entry} (h : op.record trace = before ++ entry :: after) :
    before = [] ∧ entry = .operation op ∨
      ∃ earlier event rest, trace = earlier ++ event :: rest ∧ before = op.record earlier ∧
        entry = .event event := by
  cases before with
  | nil => exact .inl ⟨rfl, (List.cons.inj h).1.symm⟩
  | cons first between =>
    obtain ⟨rfl, htail⟩ := List.cons.inj h
    obtain ⟨earlier, later, htrace, rfl, hlater⟩ := List.map_eq_append_iff.1 htail
    obtain ⟨event, rest, rfl, rfl, -⟩ := List.map_eq_cons_iff.1 hlater
    exact .inr ⟨earlier, event, rest, htrace, rfl, rfl⟩

/-! ### Of what is no operation -/

/-- Whether an entry is no operation and no exchange. -/
def Entry.IsRemark : Entry → Prop
  | .operation _ | .event (.exchange _ _ _) => False
  | _ => True

section Remarks

variable {journal remarks : List Entry}

theorem operationsOf_remarks (h : ∀ e ∈ remarks, e.IsRemark) : operationsOf remarks = [] := by
  refine List.filterMap_eq_nil_iff.2 fun e he => ?_
  cases e with
  | operation op => exact (h _ he).elim
  | _ => rfl

theorem lastOperation_remarks (h : ∀ e ∈ remarks, e.IsRemark) :
    lastOperation (journal ++ remarks) = lastOperation journal := by
  rw [lastOperation, operationsOf_append, operationsOf_remarks h, List.append_nil, lastOperation]

theorem projectOf_remarks (h : ∀ e ∈ remarks, e.IsRemark) :
    projectOf (journal ++ remarks) = projectOf journal := by
  rw [projectOf, operationsOf_append, operationsOf_remarks h, List.append_nil, projectOf]

end Remarks

section Metrics

variable (metrics : List Metric)

theorem remarks_metrics : ∀ e ∈ metrics.map Entry.metric, e.IsRemark := by
  intro e he
  obtain ⟨m, -, rfl⟩ := List.mem_map.1 he
  trivial

theorem metricsOf_metrics : metricsOf (metrics.map .metric) = metrics := by
  rw [metricsOf, List.filterMap_map]
  exact List.filterMap_some

/-- A view that sees no metrics. -/
theorem view_metrics {α : Type} {view : Entry → Option α} (h : ∀ m, view (.metric m) = none) :
    (metrics.map .metric).filterMap view = [] := by
  rw [List.filterMap_map]
  exact List.filterMap_eq_nil_iff.2 fun m _ => h m

end Metrics

/-! ## Requests for a token -/

/-- The request and the answer of an exchange in which a token was asked for. -/
def Event.post? : Event → Option (Request × Answer)
  | .exchange _ request answer =>
    match request.method with
    | .post => some (request, answer)
    | .get => none
  | .notice _ => none

/-- The last exchange of a trace in which a token was asked for. -/
def lastPost? (trace : List Event) : Option (Request × Answer) :=
  (trace.filterMap Event.post?).getLast?

theorem lastPost?_append (before after : List Event) :
    lastPost? (before ++ after) = (lastPost? after).or (lastPost? before) := by
  rw [lastPost?, List.filterMap_append, List.getLast?_append]
  rfl

theorem mem_of_lastPost? {trace : List Event} {request : Request} {answer : Answer}
    (h : lastPost? trace = some (request, answer)) :
    request.method = .post ∧ ∃ purpose, .exchange purpose request answer ∈ trace := by
  obtain ⟨event, hmem, hevent⟩ := List.mem_filterMap.1 (List.mem_of_getLast? h)
  cases event with
  | notice n => cases hevent
  | exchange purpose r a =>
    unfold Event.post? at hevent
    dsimp only at hevent
    split at hevent
    · rename_i hmethod
      cases hevent
      exact ⟨hmethod, purpose, hmem⟩
    · cases hevent

/-- The login that is held after a trace is what the last request for a token brought. By
induction on the trace. -/
theorem loginAfter_eq (tokenUrl : String) : ∀ (held : Option Login) (trace : List Event),
    loginAfter tokenUrl held trace =
      match lastPost? trace with
      | some post => (Login.ofAnswer tokenUrl post.2).toOption
      | none => held
  | held, [] => rfl
  | held, event :: rest => by
    have hrest := loginAfter_eq tokenUrl (event.loginAfter tokenUrl held) rest
    rw [show event :: rest = [event] ++ rest from rfl, loginAfter_append, lastPost?_append]
    refine hrest.trans ?_
    cases lastPost? rest with
    | some post => rfl
    | none =>
      cases event with
      | notice n => rfl
      | exchange purpose request answer =>
        simp only [Event.loginAfter, lastPost?, Event.post?, Option.none_or, List.filterMap_cons,
          List.filterMap_nil]
        cases request.method <;> rfl

/-- A login that is held after a trace was brought by the last request for a token. -/
theorem lastPost?_of_lastLogin {tokenUrl : String} {trace : List Event} {login : Login}
    (h : lastLogin tokenUrl trace = some login) :
    ∃ request answer, lastPost? trace = some (request, answer) ∧
      Login.ofAnswer tokenUrl answer = .ok login := by
  rw [lastLogin, loginAfter_eq] at h
  cases hpost : lastPost? trace with
  | none =>
    rw [hpost] at h
    cases h
  | some post =>
    rw [hpost] at h
    refine ⟨post.1, post.2, rfl, ?_⟩
    cases hanswer : Login.ofAnswer tokenUrl post.2 with
    | error e =>
      simp only [hanswer] at h
      cases h
    | ok login' =>
      simp only [hanswer] at h
      rw [Option.some.inj h]

/-- The grant by which the configured user asks for a project's token, or for
one without a project. -/
def Config.grantFor (config : Config) (project : Option String) : Grant :=
  ⟨config.username, config.password, config.domainId, .ofProject project⟩

/-- A token that was brought by the last request for one, which asked for a project, or for none. -/
def Issued (config : Config) (project : Option String) (trace : List Event)
    (token : String) : Prop :=
  ∃ request answer catalog, lastPost? trace = some (request, answer) ∧
    request.body = some (config.grantFor project).toJson ∧
    Login.ofAnswer config.tokenUrl answer = .ok (token, catalog)

/-- Whether a query was refused and the login that it made then failed. -/
def LostLogin (tokenUrl : String) (journal : List Entry) : Prop :=
  ∃ (before after : List Entry) (request : Request) (answer : Answer) (shape : Shape)
    (q : Query shape) (e : ApiError),
    journal = before ++ .event (.exchange .authorization request answer) :: after ∧
      lastOperation before = some (.ask q) ∧ Login.ofAnswer tokenUrl answer = .error e

theorem LostLogin.append {tokenUrl : String} {journal : List Entry} (h : LostLogin tokenUrl journal)
    (later : List Entry) : LostLogin tokenUrl (journal ++ later) := by
  obtain ⟨before, after, request, answer, shape, q, e, rfl, hlast, hanswer⟩ := h
  exact ⟨before, after ++ later, request, answer, shape, q, e, by
    rw [List.append_assoc]; rfl, hlast, hanswer⟩

/-! ## Projects of queries -/

/-- Whether a collection is asked for while a project is reported, or while none is. -/
def Listing.InScope (l : Listing) (project : Option String) : Prop :=
  match l with
  | loadBalancers p | listeners p | listenersOf p _ | pools p | poolsOf p _ | members p _
  | healthMonitors p | healthMonitorsOf p _ => project = some p
  | amphoraeOf _ | amphoraStatistics _ => project.isSome = true
  | _ => project = none

/-- Whether a query is made while a project is reported, or while none is. -/
def Query.InScope {shape : Shape} (q : Query shape) (project : Option String) : Prop :=
  match q with
  | listing l => l.InScope project
  | quotaSet p | servers p | networkQuotas p => project = some p
  | loadBalancerStatistics _ | listenerStatistics _ => project.isSome = true
  | authProjects | identityLimits | computeLimits => project = none

/-- Whether an operation is done while a project is reported, or while none is. Components are timed
before any project is reported. -/
def Operation.InScope (op : Operation) (project : Option String) : Prop :=
  match op with
  | ask q => q.InScope project
  | probe _ => project = none
  | _ => True

/-! ## The law -/

namespace Entry

/-- Of a component that was skipped nothing is asked, and nothing is reported; nor is anything
reported before of one that could not be reached, or was found missing when it was timed. -/
def Quiet (before : List Entry) : Entry → Prop
  | .event (.exchange (.polling c) _ _) => c ∉ skippedOf before
  | .metric m => ∀ c : Component, c.Names m.name → c ∉ skippedOf before
  | .check outcome => ∀ c : Component, outcome.name = c.checkName → outcome.status = .critical →
      c ∈ skippedOf before ∧ Unmeasured c before
  | .missing c => c ∈ skippedOf before ∧
      ∀ probe, lastOperation before = some (.probe probe) → Unmeasured c before
  | _ => True

/-- Whatever is got is got in the course of an operation that belongs to the project
that is reported, and under a token for that project. Only the list of projects may be
asked for without a token. -/
def InScope (config : Config) (before : List Entry) : Entry → Prop
  | .event (.exchange purpose request _) => request.method = .get →
      ∃ op, lastOperation before = some op ∧ op.InScope (projectOf before) ∧
        (∀ token, request.token = some token →
          Issued config (projectOf before) (eventsOf before) token) ∧
        (request.token = none → purpose = .projectList)
  | _ => True

/-- A component is found missing if the catalog at hand lacks it, or if there is none because a
query lost its login. -/
def Warranted (config : Config) (before : List Entry) : Entry → Prop
  | .missing c =>
      (∃ login, lastLogin config.tokenUrl (eventsOf before) = some login ∧
        login.2.findUrl? c config.interface = none) ∨ LostLogin config.tokenUrl before
  | _ => True

/-- What an entry keeps to, after the entries before it. -/
structure Lawful (config : Config) (before : List Entry) (entry : Entry) : Prop where
  quiet : entry.Quiet before
  inScope : entry.InScope config before
  warranted : entry.Warranted config before

/-- An operation may always be begun. -/
theorem Lawful.operation (config : Config) (before : List Entry) (op : Operation) :
    (Entry.operation op).Lawful config before := ⟨trivial, trivial, trivial⟩

/-- A notice may always be written. -/
theorem Lawful.notice (config : Config) (before : List Entry) (n : Notice) :
    (Entry.event (.notice n)).Lawful config before := ⟨trivial, trivial, trivial⟩

/-- Whatever was skipped may be skipped again. -/
theorem Lawful.skipped (config : Config) (before : List Entry) (c : Component) :
    (Entry.skipped c).Lawful config before := ⟨trivial, trivial, trivial⟩

/-- A login may always be made. -/
theorem Lawful.login (config : Config) (before : List Entry) {request : Request} (answer : Answer)
    (h : request.method = .post) :
    (Entry.event (.exchange .authorization request answer)).Lawful config before :=
  ⟨trivial, fun hget => (nomatch h.symm.trans hget), trivial⟩

end Entry

end StackWatch
