import StackWatch.Proofs.Law
import StackWatch.Proofs.Steady

/-!
# What is emitted for a query

Every metric of a journal was emitted for the operation that was begun last before it (`emissions`).
A journal is `Severed` from another one at a query if it reports the same but for the metrics that
the other emitted for the query, and if those stand together.

`Entry.Spares` says of a journal that nothing in it has to do with a URL but one query.
-/

namespace StackWatch

/-! ## What is emitted for whom -/

/-- The metrics of a journal, each with the operation that was begun last before it. -/
def emissionsAfter (last : Option Operation) : List Entry → List (Option Operation × Metric)
  | [] => []
  | .operation op :: rest => emissionsAfter (some op) rest
  | .metric m :: rest => (last, m) :: emissionsAfter last rest
  | _ :: rest => emissionsAfter last rest

/-- The metrics of a whole journal, each with the operation that it was emitted for. -/
def emissions (journal : List Entry) : List (Option Operation × Metric) :=
  emissionsAfter none journal

/-- What follows is emitted for the operation that was begun last. By induction on the journal. -/
theorem emissionsAfter_append (last : Option Operation) : ∀ journal later : List Entry,
    emissionsAfter last (journal ++ later) =
      emissionsAfter last journal ++ emissionsAfter ((lastOperation journal).or last) later
  | [], later => rfl
  | entry :: rest, later => by
    have hlast : lastOperation (entry :: rest) = (lastOperation rest).or entry.operation? := by
      rw [lastOperation, lastOperation, show entry :: rest = [entry] ++ rest from rfl,
        operationsOf_append, List.getLast?_append]
      cases entry <;> rfl
    rw [hlast, Option.or_assoc]
    cases entry with
    | operation op => exact emissionsAfter_append (some op) rest later
    | metric m => exact congrArg ((last, m) :: ·) (emissionsAfter_append last rest later)
    | _ => exact emissionsAfter_append last rest later

theorem emissions_append (journal later : List Entry) :
    emissions (journal ++ later) = emissions journal ++
      emissionsAfter (lastOperation journal) later := by
  rw [emissions, emissionsAfter_append, Option.or_none]
  rfl

/-- All metrics are emitted for something. -/
theorem map_snd_emissionsAfter : ∀ (last : Option Operation) (journal : List Entry),
    (emissionsAfter last journal).map (·.2) = metricsOf journal
  | _, [] => rfl
  | last, entry :: rest => by
    cases entry with
    | operation op => exact map_snd_emissionsAfter (some op) rest
    | metric m => exact congrArg (m :: ·) (map_snd_emissionsAfter last rest)
    | _ => exact map_snd_emissionsAfter last rest

theorem emissions_append_of_no_metrics {journal later : List Entry} (h : metricsOf later = []) :
    emissions (journal ++ later) = emissions journal := by
  have hnone : emissionsAfter (lastOperation journal) later = [] :=
    List.map_eq_nil_iff.1 ((map_snd_emissionsAfter _ later).trans h)
  rw [emissions_append, hnone, List.append_nil]

/-- Metrics in a row are emitted for the same. -/
theorem emissionsAfter_metrics (last : Option Operation) : ∀ metrics : List Metric,
    emissionsAfter last (metrics.map .metric) = metrics.map (last, ·)
  | [] => rfl
  | m :: rest => congrArg ((last, m) :: ·) (emissionsAfter_metrics last rest)

/-! ## A URL of one query -/

/-- Whether an entry has nothing to do with a URL, given in wire form, unless it belongs to a query:
an operation does not have the URL by the catalog at hand, and the URL is not got. -/
def Entry.Spares {shape : Shape} (config : Config) (q : Query shape) (site : String)
    (before : List Entry) : Entry → Prop
  | .operation op => op = .ask q ∨ ∀ login ∈ lastLogin config.tokenUrl (eventsOf before),
      ∀ url ∈ op.urls config login.2, Url.wire url ≠ site
  | .event (.exchange _ request _) => request.method = .get → request.url = site →
      lastOperation before = some (.ask q)
  | _ => True

deriving instance DecidableEq for Query

deriving instance DecidableEq for Operation

instance {shape : Shape} (config : Config) (q : Query shape) (site : String) (before : List Entry)
    (entry : Entry) : Decidable (entry.Spares config q site before) :=
  match entry with
  | .operation op => inferInstanceAs (Decidable (op = .ask q ∨ ∀ login ∈ _, ∀ url ∈ _, _))
  | .event (.exchange _ request _) =>
    inferInstanceAs (Decidable (request.method = .get → request.url = site → _ = _))
  | .event (.notice _) | .metric _ | .check _ | .missing _ | .skipped _ => isTrue trivial

section Spares

variable {shape : Shape} {config : Config} {q : Query shape} {site : String} {journal : List Entry}
  {op : Operation} {trace : List Event}

/-- Another operation has other URLs. -/
theorem Chronicle.urls_ne (h : Chronicle (Entry.Spares config q site) (journal ++ op.record trace))
    (hop : op ≠ .ask q) {login : Login}
    (hlogin : lastLogin config.tokenUrl (eventsOf journal) = some login) :
    ∀ url ∈ op.urls config login.2, Url.wire url ≠ site :=
  (@h journal (.operation op) (trace.map .event) rfl).resolve_left hop login hlogin

/-- Another operation does not get the URL. -/
theorem Chronicle.avoids (h : Chronicle (Entry.Spares config q site) (journal ++ op.record trace))
    (hop : op ≠ .ask q) : Avoids site trace := by
  intro request hrequest hget hurl
  obtain ⟨purpose, answer, hmem⟩ := mem_requestsOf.1 hrequest
  obtain ⟨earlier, later, rfl⟩ := List.append_of_mem hmem
  have hlast : lastOperation (journal ++ op.record earlier) = some (.ask q) := by
    refine @h (journal ++ op.record earlier) (.event (.exchange purpose request answer))
      (later.map .event) ?_ hget hurl
    rw [Operation.record, Operation.record, List.map_append, List.append_assoc]
    rfl
  rw [lastOperation_record] at hlast
  exact hop (Option.some.inj hlast)

end Spares

/-! ## Journals without the metrics of a query -/

/-- A journal that reports what another one does, but for a block of metrics that stand together and
are all that was emitted for a query. -/
structure Severed {shape : Shape} (q : Query shape) (journal journal' : List Entry)
    (block : List (Option Operation × Metric)) : Prop where
  skipped : skippedOf journal' = skippedOf journal
  checks : checksOf journal' = checksOf journal
  missing : missingOf journal' = missingOf journal
  own : ∀ e ∈ block, e.1 = some (.ask q)
  metrics : ∃ before after, emissions journal = before ++ block ++ after ∧
    (∀ e ∈ before ++ after, e.1 ≠ some (.ask q)) ∧ metricsOf journal' = (before ++ after).map (·.2)

namespace Severed

variable {shape : Shape} {q : Query shape} {journal journal' later later' : List Entry}
  {block : List (Option Operation × Metric)}

theorem nil : Severed q [] [] [] := ⟨rfl, rfl, rfl, nofun, [], [], rfl, nofun, rfl⟩

/-- What reports no metrics may be added on both sides, if it is the same but for
operations and events. -/
theorem append (h : Severed q journal journal' block)
    (hskipped : skippedOf later' = skippedOf later) (hchecks : checksOf later' = checksOf later)
    (hmissing : missingOf later' = missingOf later) (hmetrics : metricsOf later = [])
    (hmetrics' : metricsOf later' = []) :
    Severed q (journal ++ later) (journal' ++ later') block where
  skipped := by rw [skippedOf_append, skippedOf_append, h.skipped, hskipped]
  checks := by rw [checksOf_append, checksOf_append, h.checks, hchecks]
  missing := by rw [missingOf_append, missingOf_append, h.missing, hmissing]
  own := h.own
  metrics := by
    rw [emissions_append_of_no_metrics hmetrics, metricsOf_append, hmetrics', List.append_nil]
    exact h.metrics

/-- Two traces of one operation make no difference. -/
theorem record (h : Severed q journal journal' block) (op : Operation) (trace trace' : List Event) :
    Severed q (journal ++ op.record trace) (journal' ++ op.record trace') block := by
  refine h.append ?_ ?_ ?_ (metricsOf_record ..) (metricsOf_record ..)
  · rw [skippedOf_record, skippedOf_record]
  · rw [checksOf_record, checksOf_record]
  · rw [missingOf_record, missingOf_record]

variable {metrics : List Metric}

/-- What is emitted for another operation is emitted on both sides. -/
theorem emit (h : Severed q journal journal' block)
    (hlast : lastOperation journal ≠ some (.ask q)) :
    Severed q (journal ++ metrics.map .metric) (journal' ++ metrics.map .metric) block where
  skipped := by rw [skippedOf_append, skippedOf_append, h.skipped]
  checks := by rw [checksOf_append, checksOf_append, h.checks]
  missing := by rw [missingOf_append, missingOf_append, h.missing]
  own := h.own
  metrics := by
    obtain ⟨before, after, hsplit, hothers, hmetrics⟩ := h.metrics
    refine ⟨before, after ++ metrics.map (lastOperation journal, ·), ?_, fun e he => ?_, ?_⟩
    · rw [emissions_append, emissionsAfter_metrics, hsplit, List.append_assoc _ after]
    · rw [← List.append_assoc, List.mem_append] at he
      rcases he with he | he
      · exact hothers e he
      · obtain ⟨m, -, rfl⟩ := List.mem_map.1 he
        exact hlast
    · have hmap : (metrics.map (lastOperation journal, ·)).map (·.2) = metrics := by
        rw [List.map_map]
        exact List.map_id metrics
      rw [← List.append_assoc]
      refine Eq.trans ?_ List.map_append.symm
      rw [hmap, metricsOf_append, metricsOf_metrics, hmetrics]

/-- What is emitted for the query is the block, if there was none before. -/
theorem emit_own (h : Severed q journal journal' [])
    (hlast : lastOperation journal = some (.ask q)) :
    Severed q (journal ++ metrics.map .metric) journal' (metrics.map (some (.ask q), ·)) where
  skipped := by
    rw [skippedOf_append, show skippedOf (metrics.map .metric) = [] from
      view_metrics metrics fun _ => rfl, List.append_nil, h.skipped]
  checks := by
    rw [checksOf_append, show checksOf (metrics.map .metric) = [] from
      view_metrics metrics fun _ => rfl, List.append_nil, h.checks]
  missing := by
    rw [missingOf_append, show missingOf (metrics.map .metric) = [] from
      view_metrics metrics fun _ => rfl, List.append_nil, h.missing]
  own := by
    intro e he
    obtain ⟨m, -, rfl⟩ := List.mem_map.1 he
    rfl
  metrics := by
    obtain ⟨before, after, hsplit, hothers, hmetrics⟩ := h.metrics
    rw [List.append_nil] at hsplit
    refine ⟨before ++ after, [], ?_, ?_, ?_⟩
    · rw [emissions_append, emissionsAfter_metrics, hsplit, hlast, List.append_nil]
    · rwa [List.append_nil]
    · rwa [List.append_nil]

end Severed

end StackWatch
