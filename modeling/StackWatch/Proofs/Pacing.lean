import StackWatch.Proofs.Accord
import StackWatch.Proofs.Lockstep

/-!
# Runs that write the same

Two runs are `Paced` if their sessions are related and if, since some point in either, both have
written the same but for what they were answered (`Entry.blur`). What came before that point may
differ, as long as it gives up the same components and finds the same ones missing.

What a run does with a step keeps its pace if the step goes in lockstep: to ask a query, to time a
component, and to write down what either came to.
-/

namespace StackWatch

/-- An entry without what was answered. -/
def Entry.blur : Entry → Entry
  | .event e => .event e.blur
  | entry => entry

/-- A view that does not see answers. -/
theorem filterMap_blur {ι : Type} {view : Entry → Option ι}
    (h : ∀ entry : Entry, view entry.blur = view entry) (journal : List Entry) :
    (journal.map Entry.blur).filterMap view = journal.filterMap view := by
  rw [List.filterMap_map]
  exact congrArg (List.filterMap · journal) (funext h)

theorem operationsOf_blur (journal : List Entry) :
    operationsOf (journal.map Entry.blur) = operationsOf journal :=
  filterMap_blur (fun entry => by cases entry <;> rfl) journal

theorem metricsOf_blur (journal : List Entry) :
    metricsOf (journal.map Entry.blur) = metricsOf journal :=
  filterMap_blur (fun entry => by cases entry <;> rfl) journal

theorem checksOf_blur (journal : List Entry) :
    checksOf (journal.map Entry.blur) = checksOf journal :=
  filterMap_blur (fun entry => by cases entry <;> rfl) journal

theorem missingOf_blur (journal : List Entry) :
    missingOf (journal.map Entry.blur) = missingOf journal :=
  filterMap_blur (fun entry => by cases entry <;> rfl) journal

theorem skippedOf_blur (journal : List Entry) :
    skippedOf (journal.map Entry.blur) = skippedOf journal :=
  filterMap_blur (fun entry => by cases entry <;> rfl) journal

/-- Journals that are the same but for answers report the same. -/
theorem reportOf_eq_of_blur {journal journal' : List Entry}
    (h : journal'.map Entry.blur = journal.map Entry.blur) :
    reportOf journal' = reportOf journal := by
  rw [reportOf, reportOf, ← metricsOf_blur, ← checksOf_blur, ← missingOf_blur, h,
    metricsOf_blur, checksOf_blur, missingOf_blur]

theorem requestsOf_eventsOf_blur (journal : List Entry) :
    requestsOf (eventsOf (journal.map Entry.blur)) = requestsOf (eventsOf journal) := by
  have h : eventsOf (journal.map Entry.blur) = (eventsOf journal).map Event.blur := by
    rw [eventsOf, eventsOf, List.filterMap_map, List.map_filterMap]
    congr 1
    funext entry
    cases entry <;> rfl
  rw [h, requestsOf_blur]

theorem map_blur_record (op : Operation) (trace : List Event) :
    (op.record trace).map Entry.blur = op.record (trace.map Event.blur) := by
  simp only [Operation.record, List.map_cons, List.map_map]
  rfl

namespace Run

variable {σ τ α : Type} {d : Deployment σ} {d' : Deployment τ}
  {R : Session → σ → Session → τ → Prop} {base base' : List Entry}
  {p : Progress σ} {p' : Progress τ}

/-- Two runs with related sessions that have written the same since some point. -/
structure Paced (R : Session → σ → Session → τ → Prop) (base base' : List Entry) (p : Progress σ)
    (p' : Progress τ) : Prop where
  related : R p.session p.state p'.session p'.state
  skippedBase : skippedOf base' = skippedOf base
  missingBase : missingOf base' = missingOf base
  written : ∃ added, p.journal.map Entry.blur = base ++ added ∧
    p'.journal.map Entry.blur = base' ++ added

namespace Paced

/-- Every point will do at which the same components are given up and the same ones missing. -/
theorem since (hrelated : R p.session p.state p'.session p'.state)
    (hskipped : p'.skipped = p.skipped) (hmissing : p'.report.missing = p.report.missing) :
    Paced R (p.journal.map Entry.blur) (p'.journal.map Entry.blur) p p' where
  related := hrelated
  skippedBase := by
    rw [skippedOf_blur, skippedOf_blur]
    exact hskipped
  missingBase := by
    rw [missingOf_blur, missingOf_blur]
    exact hmissing
  written := ⟨[], by rw [List.append_nil], by rw [List.append_nil]⟩

/-- From one beginning, both have written the same but for answers. -/
theorem blur_eq (h : Paced R base base p p') :
    p'.journal.map Entry.blur = p.journal.map Entry.blur := by
  obtain ⟨added, hadded, hadded'⟩ := h.written
  rw [hadded, hadded']

/-- What both have added since some point is the same but for answers. -/
theorem added_eq {q : Progress σ} {q' : Progress τ} {entries entries' : List Entry}
    (h : Paced R (p.journal.map Entry.blur) (p'.journal.map Entry.blur) q q')
    (hjournal : q.journal = p.journal ++ entries)
    (hjournal' : q'.journal = p'.journal ++ entries') :
    entries'.map Entry.blur = entries.map Entry.blur := by
  obtain ⟨added, hadded, hadded'⟩ := h.written
  rw [hjournal, List.map_append] at hadded
  rw [hjournal', List.map_append] at hadded'
  exact (List.append_cancel_left hadded').trans (List.append_cancel_left hadded).symm

theorem skipped (h : Paced R base base' p p') : p'.skipped = p.skipped := by
  obtain ⟨added, hadded, hadded'⟩ := h.written
  rw [Progress.skipped, Progress.skipped, ← skippedOf_blur,
    ← skippedOf_blur p.journal, hadded, hadded', skippedOf_append, skippedOf_append, h.skippedBase]

theorem missing (h : Paced R base base' p p') : p'.report.missing = p.report.missing := by
  obtain ⟨added, hadded, hadded'⟩ := h.written
  change missingOf p'.journal = missingOf p.journal
  rw [← missingOf_blur, ← missingOf_blur p.journal, hadded, hadded',
    missingOf_append, missingOf_append, h.missingBase]

/-- Both write the same but for answers. -/
theorem write (h : Paced R base base' p p') {entries entries' : List Entry}
    (hentries : entries'.map Entry.blur = entries.map Entry.blur) :
    Paced R base base' (p.write entries) (p'.write entries') where
  related := h.related
  skippedBase := h.skippedBase
  missingBase := h.missingBase
  written := by
    obtain ⟨added, hadded, hadded'⟩ := h.written
    refine ⟨added ++ entries.map Entry.blur, ?_, ?_⟩
    · rw [Progress.write, List.map_append, hadded, List.append_assoc]
    · rw [Progress.write, List.map_append, hadded', hentries, List.append_assoc]

/-- Both do an operation that leaves the same but for answers. -/
theorem after {β : Type} {R' : Session → σ → Session → τ → Prop} (h : Paced R base base' p p')
    (op : Operation) {o : Outcome σ α} {o' : Outcome τ β}
    (hrelated : R' o.session o.state o'.session o'.state)
    (htrace : o'.trace.map Event.blur = o.trace.map Event.blur) :
    Paced R' base base' (p.after op o) (p'.after op o') where
  related := hrelated
  skippedBase := h.skippedBase
  missingBase := h.missingBase
  written := by
    obtain ⟨added, hadded, hadded'⟩ := h.written
    refine ⟨added ++ op.record (o.trace.map Event.blur), ?_, ?_⟩
    · rw [Progress.after, List.map_append, map_blur_record, hadded, List.append_assoc]
    · rw [Progress.after, List.map_append, map_blur_record, hadded', htrace, List.append_assoc]

end Paced

/-- **One operation.** A step in lockstep is recorded alike. -/
theorem paced_step {m : Step σ α} {m' : Step τ α} (op : Operation)
    (hm : Step.Locked d d' R Eq m m') :
    Matches d d' (Paced R base base') (step op m) (step op m') fun _ => Paced R base base' := by
  intro p p' h
  obtain ⟨hresult, hrelated, htrace⟩ := hm _ _ _ _ h.related
  rw [step_apply, step_apply]
  exact ⟨hresult.eq.symm, h.after op hrelated htrace⟩

theorem paced_write (entries : List Entry) :
    Abides d d' (Paced R base base') (Run.write entries) (Run.write entries) :=
  fun _ _ h => ⟨rfl, h.write rfl⟩

theorem paced_note (n : Notice) : Abides d d' (Paced R base base') (note n) (note n) :=
  paced_write _

theorem paced_skip (c : Component) : Abides d d' (Paced R base base') (skip c) (skip c) :=
  Abides.unlessSkipped (fun _ _ h => h.skipped) c (paced_write [.skipped c])

theorem paced_recordMissing (c : Component) :
    Abides d d' (Paced R base base') (recordMissing c) (recordMissing c) := by
  refine (paced_skip c).bind fun _ => ?_
  refine matches_get
    (f := fun missing => if c ∈ missing then pure () else do
      note (.componentMissing c)
      Run.write [.missing c])
    (g := fun missing => if c ∈ missing then pure () else do
      note (.componentMissing c)
      Run.write [.missing c])
    (fun _ _ h => h.missing) fun _ => ?_
  split
  · exact matches_pure fun _ _ h => h
  · exact (paced_note _).bind fun _ => paced_write _

/-- **A query in lockstep** comes to the same data, and its failure is told alike. -/
theorem paced_ask {shape : Shape} {q : Query shape}
    (hq : Step.Locked d d' R Eq q.perform q.perform) :
    Matches d d' (Paced R base base') (ask q) (ask q) fun _ => Paced R base base' := by
  refine (paced_step (.ask q) hq).bind fun result => ?_
  cases result with
  | ok value => exact matches_pure fun _ _ h => h
  | error e =>
    cases e with
    | componentNotFound c => exact (paced_recordMissing c).bind fun _ => matches_pure fun _ _ h => h
    | _ => exact (paced_note _).bind fun _ => matches_pure fun _ _ h => h

section Tagged

variable (htags : ∀ {s w s' w'}, R s w s' w' → s'.baseTags = s.baseTags)
include htags

/-- What goes by the common tags alone. -/
theorem paced_tagged (f : List String → List Entry) :
    Abides d d' (Paced R base base') (get >>= fun p => Run.write (f p.session.baseTags))
      (get >>= fun p' => Run.write (f p'.session.baseTags)) :=
  matches_get (f := fun tags => Run.write (f tags)) (g := fun tags => Run.write (f tags))
    (fun _ _ h => htags h.related) fun _ => paced_write _

theorem paced_emit (metrics : List Metric) :
    Abides d d' (Paced R base base') (emit metrics) (emit metrics) :=
  paced_tagged htags fun base => metrics.map fun m => .metric { m with tags := base ++ m.tags }

theorem paced_emitCheck (c : Component) (status : Status) :
    Abides d d' (Paced R base base') (emitCheck c status) (emitCheck c status) :=
  paced_tagged htags fun base => [.check ⟨c.checkName, status, base⟩]

/-- **A component that is timed in lockstep** is told of alike. -/
theorem paced_responseTime (c : Component)
    (hprobe : Step.Locked d d' R Eq (Step.probe (.ofComponent c)) (Step.probe (.ofComponent c))) :
    Abides d d' (Paced R base base') (reportResponseTime c) (reportResponseTime c) := by
  refine (paced_step (.probe (.ofComponent c)) hprobe).bind fun result => ?_
  cases result with
  | ok elapsed =>
    cases elapsed with
    | none => exact matches_pure fun _ _ h => h
    | some elapsed =>
      exact (paced_emit htags _).bind fun _ => paced_emitCheck htags c .ok
  | error e =>
    cases e with
    | componentNotFound c' => exact paced_recordMissing c'
    | _ =>
      exact (paced_note _).bind fun _ => (paced_skip c).bind
        fun _ => paced_emitCheck htags c .critical

end Tagged

end Run

end StackWatch
