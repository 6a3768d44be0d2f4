import StackWatch.Proofs.Conduct
import StackWatch.Proofs.Emissions
import StackWatch.Proofs.Tandem

/-!
# Two runs of which one cannot read an answer

The runs against the two deployments of a `Fork` do the same operations in the same order.
`Twins` are two runs that have come equally far: their sessions are paired, and what the second
reports is what the first does but for the metrics of one query, whose URL is not read again
once these were reported.

`Run.Together` is the rule by which parts of a run keep twins. It asks of the journal of the first
run that nothing in it but the query has to do with the URL. Every operation but the query runs in
tandem (`Run.together_step`); the query itself is `Run.abreast_leaf`.
-/

namespace StackWatch

/-! ## Runs beside each other -/

/-- Two runs that have come equally far. What was reported for the query was reported
when its URL was read. -/
structure Twins {shape : Shape} (f : Fork) (config : Config) (q : Query shape) (u : String)
    (p p' : Progress Unit) : Prop where
  paired : f.Paired config p.session p'.session
  holds : p.session.Holds (lastLogin config.tokenUrl p.trace)
  severed : ∃ block, Severed q p.journal p'.journal block ∧
    (block ≠ [] → u ∈ p.session.ledger.urls)

/-- Two runs that have come equally far, under a login that they would be granted again. -/
structure SteadyTwins {shape : Shape} (f : Fork) (config : Config) (q : Query shape) (u : String)
    (login : Login) (p p' : Progress Unit) : Prop extends Twins f config q u p p' where
  steady : p.session.Steady f.answer login

section Twins

variable {shape : Shape} {f : Fork} {config : Config} {q : Query shape} {u : String} {login : Login}
  {p p' : Progress Unit} {remarks : List Entry}

namespace Twins

theorem skipped (h : Twins f config q u p p') : p'.skipped = p.skipped := by
  obtain ⟨block, hsevered, -⟩ := h.severed
  exact hsevered.skipped

theorem missing (h : Twins f config q u p p') : p'.report.missing = p.report.missing := by
  obtain ⟨block, hsevered, -⟩ := h.severed
  exact hsevered.missing

theorem baseTags (h : Twins f config q u p p') : p'.session.baseTags = p.session.baseTags := by
  rw [Session.baseTags, Session.baseTags, h.paired.stays.config]

/-- Both sides may write the same remarks, if these report no metrics. -/
theorem write (h : Twins f config q u p p') (hremarks : ∀ e ∈ remarks, e.IsRemark)
    (hmetrics : metricsOf remarks = []) :
    Twins f config q u (p.write remarks) (p'.write remarks) where
  paired := h.paired
  holds := by
    rw [Progress.lastLogin_write _ p hremarks]
    exact h.holds
  severed := by
    obtain ⟨block, hsevered, hread⟩ := h.severed
    exact ⟨block, hsevered.append rfl rfl rfl hmetrics hmetrics, hread⟩

/-- **One operation** keeps twins, if it keeps their sessions paired. -/
theorem after {α : Type} {P : Config → Option Login → Event → Prop} {m : Step Unit α}
    (h : Twins f config q u p p') (op : Operation) (htracks : Step.Tracks P m)
    (hpaired : f.Paired config (m f.left p.session p.state).session
      (m f.right p'.session p'.state).session)
    (hledger : p.session.ledger.urls ⊆ (m f.left p.session p.state).session.ledger.urls) :
    Twins f config q u (p.after op (m f.left p.session p.state))
      (p'.after op (m f.right p'.session p'.state)) where
  paired := hpaired
  holds := by
    have hholds := htracks.holds (d := f.left) (w := p.state) h.holds
    rw [h.paired.configured, lastLogin, ← loginAfter_append, ← Progress.trace_after p op] at hholds
    exact hholds
  severed := by
    obtain ⟨block, hsevered, hread⟩ := h.severed
    exact ⟨block, hsevered.record op _ _, fun hblock => hledger (hread hblock)⟩

end Twins

theorem SteadyTwins.write (h : SteadyTwins f config q u login p p')
    (hremarks : ∀ e ∈ remarks, e.IsRemark) (hmetrics : metricsOf remarks = []) :
    SteadyTwins f config q u login (p.write remarks) (p'.write remarks) :=
  ⟨h.toTwins.write hremarks hmetrics, h.steady⟩

/-- A steady run holds its login. -/
theorem SteadyTwins.lastLogin_eq (h : SteadyTwins f config q u login p p') :
    lastLogin config.tokenUrl p.trace = some login := by
  have htoken := h.holds.token.symm.trans h.steady.holds.token
  have hcatalog := h.holds.catalog.symm.trans h.steady.holds.catalog
  generalize lastLogin config.tokenUrl p.trace = held at htoken hcatalog
  cases held with
  | none => cases htoken
  | some login' => exact congrArg some (Prod.ext (Option.some.inj htoken) hcatalog)

end Twins

/-! ## Parts of two runs -/

namespace Run

section Together

variable {shape : Shape} {α β : Type} (f : Fork) (config : Config) (q : Query shape)

/-- A part of a run by which two runs in one relation come to the same value and to
another relation, as long as the first has to do with the URL at which the deployments
differ for the one query only. -/
structure Together (R : Progress Unit → Progress Unit → Prop) (m : Run Unit α)
    (S : α → Progress Unit → Progress Unit → Prop) : Prop where
  extending : Extends m
  related : ∀ {p p'}, R p p' → Chronicle (Entry.Spares config q f.site) (m f.left p).2.journal →
    (m f.right p').1 = (m f.left p).1 ∧ S (m f.left p).1 (m f.left p).2 (m f.right p').2

/-- A part by which two runs stay in one relation. -/
abbrev Abreast (R : Progress Unit → Progress Unit → Prop) (m : Run Unit α) : Prop :=
  Together f config q R m fun _ => R

variable {f config q} {R R' : Progress Unit → Progress Unit → Prop}
  {S S' : α → Progress Unit → Progress Unit → Prop}

theorem together_pure {a : α} (h : ∀ p p', R p p' → S a p p') :
    Together f config q R (pure a) S :=
  ⟨extends_pure a, fun hR _ => ⟨rfl, h _ _ hR⟩⟩

theorem Together.bind {m : Run Unit α} {g : α → Run Unit β}
    {T : β → Progress Unit → Progress Unit → Prop} (hm : Together f config q R m S)
    (hg : ∀ a, Together f config q (S a) (g a) T) : Together f config q R (m >>= g) T where
  extending := hm.extending.bind fun a => (hg a).extending
  related {p p'} hR hspares := by
    -- what the whole journal spares, its beginning does
    have hfirst : Chronicle (Entry.Spares config q f.site) (m f.left p).2.journal := by
      obtain ⟨later, hlater⟩ := (hg (m f.left p).1).extending f.left (m f.left p).2
      have hwhole : Chronicle (Entry.Spares config q f.site) ((m f.left p).2.journal ++ later) :=
        hlater ▸ hspares
      exact hwhole.of_append
    obtain ⟨hvalue, hS⟩ := hm.related hR hfirst
    rw [bind_apply, bind_apply, hvalue]
    exact (hg _).related hS hspares

theorem Together.mono {m : Run Unit α} (hm : Together f config q R m S)
    (hpre : ∀ p p', R' p p' → R p p') (hpost : ∀ a p p', S a p p' → S' a p p') :
    Together f config q R' m S' where
  extending := hm.extending
  related hR hspares := by
    obtain ⟨hvalue, hS⟩ := hm.related (hpre _ _ hR) hspares
    exact ⟨hvalue, hpost _ _ _ hS⟩

/-- A part that goes by what both runs have in common. -/
theorem together_get {g : Progress Unit → Run Unit α} (hcommon : ∀ p p', R p p' → g p' = g p)
    (h : ∀ p₀, Together f config q R (g p₀) S) : Together f config q R (get >>= g) S where
  extending := extends_get fun p => (h p).extending
  related {p p'} hR hspares := by
    rw [bind_apply, bind_apply, get_apply, get_apply, hcommon p p' hR]
    exact (h p).related hR hspares

theorem together_write {entries : List Entry} {S : Unit → Progress Unit → Progress Unit → Prop}
    (h : ∀ p p', R p p' → S () (p.write entries) (p'.write entries)) :
    Together f config q R (write entries) S :=
  ⟨extends_write entries, fun hR _ => ⟨rfl, h _ _ hR⟩⟩

/-- A part that begins where a relation holds with some value that is not known before. -/
theorem Together.exists {ι : Type} [Inhabited ι] {R : ι → Progress Unit → Progress Unit → Prop}
    {m : Run Unit α} (h : ∀ i, Together f config q (R i) m S) :
    Together f config q (fun p p' => ∃ i, R i p p') m S where
  extending := (h default).extending
  related := fun ⟨i, hR⟩ => (h i).related hR

theorem Abreast.forEach {ι : Type} {g : ι → Run Unit Unit} :
    ∀ {items : List ι}, (∀ a ∈ items, Abreast f config q R (g a)) →
      Abreast f config q R (forEach g items)
  | [], _ => together_pure fun _ _ hR => hR
  | a :: rest, h => by
    refine Together.bind (h a (List.mem_cons_self ..)) fun _ => ?_
    exact Abreast.forEach fun b hb => h b (List.mem_cons_of_mem _ hb)

end Together

/-! ## Operations and remarks -/

section Parts

variable {shape : Shape} {α : Type} {f : Fork} {config : Config} {q : Query shape} {u : String}
  {login : Login}

/-- Two runs that do not report for the query. -/
def Apart (f : Fork) (config : Config) (q : Query shape) (u : String) (login : Login)
    (p p' : Progress Unit) : Prop :=
  SteadyTwins f config q u login p p' ∧ lastOperation p.journal ≠ some (.ask q)

/-- **An operation that is not the query** comes to the same, and stays under the login. -/
theorem together_step {P : Config → Option Login → Event → Prop} {op : Operation} {m : Step Unit α}
    (hop : op ≠ .ask q)
    (htandem : (∀ url ∈ op.urls config login.2, Url.wire url ≠ f.site) → f.Tandem config login m)
    (htracks : Step.Tracks P m)
    (hledger : ∀ {s}, s.Holds (some login) → s.ledger.urls ⊆ (m f.left s ()).session.ledger.urls) :
    Together f config q (SteadyTwins f config q u login) (step op m) fun _ =>
      Apart f config q u login := by
  refine ⟨extends_step op m, fun {p p'} h hspares => ?_⟩
  have hbeside :=
    htandem (hspares.urls_ne hop h.lastLogin_eq) h.paired h.steady (hspares.avoids hop)
  refine ⟨hbeside.result, ⟨h.after op htracks hbeside.paired (hledger h.steady.holds),
    hbeside.steady⟩, fun heq => hop ?_⟩
  exact Option.some.inj ((lastOperation_record ..).symm.trans heq)

/-- A relation that remarks leave as it is. -/
structure Sturdy (f : Fork) (config : Config) (q : Query shape) (u : String)
    (R : Progress Unit → Progress Unit → Prop) : Prop where
  twins : ∀ {p p'}, R p p' → Twins f config q u p p'
  write : ∀ {p p' remarks}, R p p' → (∀ e ∈ remarks, e.IsRemark) → metricsOf remarks = [] →
    R (p.write remarks) (p'.write remarks)

theorem sturdy_twins : Sturdy f config q u (Twins f config q u) := ⟨id, Twins.write⟩

theorem sturdy_steady : Sturdy f config q u (SteadyTwins f config q u login) :=
  ⟨SteadyTwins.toTwins, SteadyTwins.write⟩

theorem sturdy_apart : Sturdy f config q u (Apart f config q u login) where
  twins h := h.1.toTwins
  write h hremarks hmetrics := by
    refine ⟨h.1.write hremarks hmetrics, ?_⟩
    rw [Progress.write, lastOperation_remarks hremarks]
    exact h.2

variable {R : Progress Unit → Progress Unit → Prop}

theorem Sturdy.remark (hR : Sturdy f config q u R) {entry : Entry} (hremark : entry.IsRemark)
    (hmetric : entry.metric? = none) : Abreast f config q R (Run.write [entry]) :=
  together_write fun _ _ h => hR.write h (by simpa using hremark) (List.filterMap_cons_none hmetric)

theorem Sturdy.note (hR : Sturdy f config q u R) (n : Notice) : Abreast f config q R (Run.note n) :=
  hR.remark trivial rfl

theorem Sturdy.unlessSkipped (hR : Sturdy f config q u R) {c : Component} {part : Run Unit Unit}
    (hpart : Abreast f config q R part) : Abreast f config q R (Run.unlessSkipped c part) := by
  refine together_get (fun p p' h => ?_) fun p₀ => ?_
  · rw [(hR.twins h).skipped]
  · split
    · exact together_pure fun _ _ h => h
    · exact hpart

theorem Sturdy.skip (hR : Sturdy f config q u R) (c : Component) :
    Abreast f config q R (Run.skip c) :=
  hR.unlessSkipped (hR.remark trivial rfl : Abreast f config q R (Run.write [.skipped c]))

theorem Sturdy.recordMissing (hR : Sturdy f config q u R) (c : Component) :
    Abreast f config q R (Run.recordMissing c) := by
  refine (hR.skip c).bind fun _ => together_get (fun p p' h => ?_) fun p₀ => ?_
  · rw [(hR.twins h).missing]
  · split
    · exact together_pure fun _ _ h => h
    · exact (hR.note _).bind fun _ => hR.remark trivial rfl

theorem Sturdy.ifStatistics (hR : Sturdy f config q u R) {part : Run Unit Unit}
    (hpart : Abreast f config q R part) : Abreast f config q R (Run.ifStatistics part) := by
  refine together_get (fun p p' h => ?_) fun p₀ => ?_
  · rw [(hR.twins h).paired.stays.config]
  · split
    · exact hpart
    · exact together_pure fun _ _ h => h

theorem Sturdy.emitCheck (hR : Sturdy f config q u R) (c : Component) (status : Status) :
    Abreast f config q R (Run.emitCheck c status) := by
  refine together_get (fun p p' h => ?_) fun p₀ => hR.remark trivial rfl
  rw [(hR.twins h).baseTags]

/-- What is not reported for the query is reported on both sides. -/
theorem abreast_emit (metrics : List Metric) :
    Abreast f config q (Apart f config q u login) (emit metrics) where
  extending := extends_emit metrics
  related {p p'} h _ := by
    obtain ⟨hsteady, hlast⟩ := h
    obtain ⟨block, hsevered, hread⟩ := hsteady.severed
    rw [emit_apply, emit_apply, hsteady.baseTags]
    refine ⟨rfl, ⟨⟨hsteady.paired, ?_, block, hsevered.emit hlast, hread⟩, hsteady.steady⟩, ?_⟩
    · rw [Progress.lastLogin_write _ p (remarks_metrics _)]
      exact hsteady.holds
    · rw [Progress.write, lastOperation_remarks (remarks_metrics _)]
      exact hlast

/-- A query that is not the one at which the answers differ. -/
theorem together_ask {shape' : Shape} {q' : Query shape'} (hop : Operation.ask q' ≠ .ask q) :
    Together f config q (SteadyTwins f config q u login) (ask q')
      fun _ => Apart f config q u login := by
  refine (together_step hop (Fork.tandem_perform q') q'.perform_tracks
    fun h => q'.perform_ledger_subset h).bind fun result => ?_
  cases result with
  | ok value => exact together_pure fun _ _ h => h
  | error e =>
    cases e with
    | componentNotFound c =>
      exact (sturdy_apart.recordMissing c).bind fun _ => together_pure fun _ _ h => h
    | _ => exact (sturdy_apart.note _).bind fun _ => together_pure fun _ _ h => h

/-! ## The query -/

theorem lastOperation_asked {σ : Type} (q : Query shape) (d : Deployment σ) (p : Progress σ) :
    lastOperation (asked q d p).journal = some (.ask q) :=
  (lastOperation_remarks (remarks_failureOf q _)).trans (lastOperation_record ..)

/-- That a query failed on one side makes no difference. -/
theorem severed_asked {d d' : Deployment Unit} {p p' : Progress Unit}
    {block : List (Option Operation × Metric)} (h : Severed q p.journal p'.journal block) :
    Severed q (asked q d p).journal (asked q d' p').journal block := by
  refine (h.record (.ask q) _ _).append ?_ ?_ ?_ ?_ ?_
  · exact (view_failureOf (fun _ => rfl) q _).trans (view_failureOf (fun _ => rfl) q _).symm
  · exact (view_failureOf (fun _ => rfl) q _).trans (view_failureOf (fun _ => rfl) q _).symm
  · exact (view_failureOf (fun _ => rfl) q _).trans (view_failureOf (fun _ => rfl) q _).symm
  · exact view_failureOf (fun _ => rfl) q _
  · exact view_failureOf (fun _ => rfl) q _

/-- The runs after the query, before the first reports for it. -/
theorem steadyTwins_asked {p p' : Progress Unit} (h : SteadyTwins f config q u login p p')
    (hparted : f.Parted config login u p.session (q.perform f.left p.session p.state)
      (q.perform f.right p'.session p'.state)) :
    SteadyTwins f config q u login (asked q f.left p) (asked q f.right p') where
  paired := hparted.paired
  holds := by
    have hledger := q.perform_ledger_subset (d := f.left) (w := p.state) h.steady.holds
    rw [asked, Progress.lastLogin_write _ _ (remarks_failureOf q _)]
    exact (h.after (.ask q) q.perform_tracks hparted.paired hledger).holds
  severed := by
    have hledger := q.perform_ledger_subset (d := f.left) (w := p.state) h.steady.holds
    obtain ⟨block, hsevered, hread⟩ := h.severed
    exact ⟨block, severed_asked hsevered, fun hblock => hledger (hread hblock)⟩
  steady := hparted.steady

/-- **The query** whose answer only the first run can read: what that reports for it, the second one
does not report, and else both go on as before. -/
theorem abreast_leaf (hq : f.Blinds config login q u) {g : Option shape.Value → Run Unit Unit}
    (hnone : g none = pure ()) (hsome : ∀ v, ∃ metrics, g (some v) = emit metrics) :
    Abreast f config q (SteadyTwins f config q u login) (ask q >>= g) where
  extending := by
    refine (extends_ask q).bind fun value => ?_
    cases value with
    | none =>
      rw [hnone]
      exact extends_pure ()
    | some v =>
      obtain ⟨metrics, hv⟩ := hsome v
      rw [hv]
      exact extends_emit metrics
  related {p p'} h _ := by
    have hparted := Fork.parted_perform hq h.paired h.steady
    have hasked := steadyTwins_asked h hparted
    rw [bind_apply, bind_apply, ask_apply (p := p) hparted.result,
      ask_apply (p := p') hparted.result', hparted.result'.toOption_join, hnone]
    cases hvalue : (q.perform f.left p.session p.state).result.toOption.join with
    | none =>
      rw [hnone]
      exact ⟨rfl, hasked⟩
    | some v =>
      obtain ⟨metrics, hv⟩ := hsome v
      obtain ⟨hunread, hentered⟩ := hparted.read v (eq_of_toOption_join hvalue)
      obtain ⟨block, hsevered, hread⟩ := h.severed
      -- the URL was unread, so nothing had been reported for the query
      obtain rfl : block = [] := by
        cases block with
        | nil => rfl
        | cons first rest => exact absurd (hread (List.cons_ne_nil first rest)) hunread
      rw [hv, emit_apply]
      refine ⟨rfl,
        ⟨hasked.paired, ?_, _, (severed_asked hsevered).emit_own (lastOperation_asked ..),
        fun _ => hentered⟩, hasked.steady⟩
      rw [Progress.lastLogin_write _ _ (remarks_metrics _)]
      exact hasked.holds

end Parts

end Run

end StackWatch
