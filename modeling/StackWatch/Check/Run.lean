import StackWatch.Check.Journal

/-!
# Runs of the check

A run drives a session through all components and turns what comes back into a report. Its
`Progress` is the session, the deployment's state, and the journal so far: from that come the report
and the components that are skipped from now on, because they are missing or could not be reached. A
`Run` is a computation over that; it cannot fail. Failures of the session end in `Run.ask` and in
`Run.reportResponseTime`, which note them and go on without data.
-/

namespace StackWatch

/-- How far a run has come. -/
structure Progress (σ : Type) where
  session : Session
  /-- the state of the deployment -/
  state : σ
  /-- what was done, in order -/
  journal : List Entry

namespace Progress

variable {σ : Type} (p : Progress σ)

/-- The trace so far. -/
def trace : List Event := eventsOf p.journal

/-- The components that are not polled any more. -/
def skipped : List Component := skippedOf p.journal

/-- The report so far. -/
def report : Report := reportOf p.journal

end Progress

/-- The tags of everything that a session reports. -/
def Session.baseTags (s : Session) : List String := [tag "keystone_server" s.config.keystoneUrl]

/-- A part of a run. -/
def Run (σ α : Type) : Type := Deployment σ → Progress σ → α × Progress σ

namespace Run

variable {σ α β : Type}

/-- Does nothing and ends in a value. -/
protected def pure (a : α) : Run σ α := fun _ p => (a, p)

/-- Two parts in turn. -/
protected def bind (m : Run σ α) (f : α → Run σ β) : Run σ β := fun d p =>
  let (a, p) := m d p
  f a d p

instance : Monad (Run σ) where
  pure := Run.pure
  bind := Run.bind

@[simp] theorem pure_apply (a : α) (d : Deployment σ) (p : Progress σ) :
    (pure a : Run σ α) d p = (a, p) := rfl

@[simp] theorem bind_apply (m : Run σ α) (f : α → Run σ β) (d : Deployment σ) (p : Progress σ) :
    (m >>= f) d p = f (m d p).1 d (m d p).2 := rfl

@[simp] theorem ite_apply {P : Prop} [Decidable P] (m m' : Run σ α) (d : Deployment σ)
    (p : Progress σ) : (if P then m else m') d p = if P then m d p else m' d p := by
  split <;> rfl

/-- Parts in turn, one for each item of a list. -/
def forEach (f : α → Run σ Unit) : List α → Run σ Unit
  | [] => pure ()
  | a :: rest => do
    f a
    forEach f rest

/-- The progress as it stands. -/
def get : Run σ (Progress σ) := fun _ p => (p, p)

@[simp] theorem get_apply (d : Deployment σ) (p : Progress σ) : (get : Run σ _) d p = (p, p) := rfl

/-- Adds to the journal. -/
def write (entries : List Entry) : Run σ Unit := fun _ p =>
  ((), { p with journal := p.journal ++ entries })

/-- Writes a notice. -/
def note (n : Notice) : Run σ Unit := write [.event (.notice n)]

/-- Lets the session do the step of an operation, and takes its result whatever it is. -/
def step (op : Operation) (m : Step σ α) : Run σ (Except ApiError α) := fun d p =>
  let o := m d p.session p.state
  (o.result, ⟨o.session, o.state, p.journal ++ op.record o.trace⟩)

/-- Does not poll a component from now on. -/
def skip (c : Component) : Run σ Unit := do
  let p ← get
  if c ∈ p.skipped then pure () else write [.skipped c]

/-- Records that a component is missing, and skips it. -/
def recordMissing (c : Component) : Run σ Unit := do
  skip c
  let p ← get
  if c ∈ p.report.missing then pure ()
  else do
    note (.componentMissing c)
    write [.missing c]

/-- Does a part unless a component is skipped. -/
def unlessSkipped (c : Component) (part : Run σ Unit) : Run σ Unit := do
  let p ← get
  if c ∈ p.skipped then pure () else part

/-- The data of a query, nothing if there is none or the query failed. -/
def ask {shape : Shape} (q : Query shape) : Run σ (Option shape.Value) := do
  match ← step (.ask q) q.perform with
  | .ok value => pure value
  | .error (.componentNotFound c) => do
    recordMissing c
    pure none
  | .error e => do
    note (.reportFailed q.title e)
    pure none

/-! ## Emitting -/

/-- Emits metrics, with the common tags in front of their own. -/
def emit (metrics : List Metric) : Run σ Unit := do
  let p ← get
  let base := p.session.baseTags
  write (metrics.map fun m => .metric { m with tags := base ++ m.tags })

/-- Emits the service check of a component. -/
def emitCheck (c : Component) (status : Status) : Run σ Unit := do
  let p ← get
  write [.check ⟨c.checkName, status, p.session.baseTags⟩]

/-- Asks for a collection and reports it; the collection is also the value. -/
def reportEntities (q : Query .entities) (series : Series) (tags : List String) :
    Run σ (KeyMap Entity) := do
  match ← ask q with
  | none => pure .empty
  | some entities => do
    emit (series.gauges entities tags)
    pure entities

/-- Asks for a collection and reports it. -/
def reportListing (l : Listing) (series : Series) (tags : List String) : Run σ Unit := do
  let _ ← reportEntities (.listing l) series tags
  pure ()

/-- Asks for figures and reports them. -/
def reportFigures (q : Query .figures) (tags : List String) : Run σ Unit := do
  match ← ask q with
  | none => pure ()
  | some figures => emit (gauges figures tags)

end Run

end StackWatch
