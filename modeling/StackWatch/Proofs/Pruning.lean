import StackWatch.Proofs.Opening
import StackWatch.Proofs.Options
import StackWatch.Proofs.Emissions

/-!
# A run that leaves out what is optional

Beside a run goes a second one whose configuration leaves out something optional. Its journal is the
first one's `Pruned`: it reports the same but for the metrics that were emitted for the optional
operations. A number of a group's members is emitted for the query for them and for nothing else,
which makes it known by its name (`Fitting`).

Of the first journal it is asked that the URLs of its operations (`visits`) tell the optional ones
from the others (`Parted`).
-/

namespace StackWatch

/-! ## Operations and their URLs -/

/-- The operations that some entries begin, each with the URLs that it has by the
catalog that is held then. -/
def visitsAfter (config : Config) (held : Option Login) : List Entry → List (Operation × String)
  | [] => []
  | .operation op :: rest =>
    (held.toList.flatMap fun login => (op.urls config login.2).map (op, ·)) ++
      visitsAfter config held rest
  | .event event :: rest => visitsAfter config (event.loginAfter config.tokenUrl held) rest
  | _ :: rest => visitsAfter config held rest

/-- The operations of a journal, each with its URLs. -/
def visits (config : Config) (journal : List Entry) : List (Operation × String) :=
  visitsAfter config none journal

section Visits

variable {config : Config} {journal later : List Entry} {op : Operation}
  {login : Login} {url : String}

/-- By induction on the entries. -/
theorem visitsAfter_append (config : Config) : ∀ (held : Option Login) (journal later : List Entry),
    visitsAfter config held (journal ++ later) = visitsAfter config held journal ++
      visitsAfter config (loginAfter config.tokenUrl held (eventsOf journal)) later
  | _, [], _ => rfl
  | held, entry :: rest, later => by
    cases entry with
    | operation op =>
      have hrest := visitsAfter_append config held rest later
      simp only [List.cons_append, visitsAfter, hrest, List.append_assoc]
      rfl
    | event event =>
      exact visitsAfter_append config (event.loginAfter config.tokenUrl held) rest later
    | _ => exact visitsAfter_append config held rest later

theorem visits_append (config : Config) (journal later : List Entry) :
    visits config (journal ++ later) = visits config journal ++
      visitsAfter config (lastLogin config.tokenUrl (eventsOf journal)) later :=
  visitsAfter_append config none journal later

/-- An operation that was begun under a login has its URLs by the catalog of that. -/
theorem mem_visits_record (hlogin : lastLogin config.tokenUrl (eventsOf journal) = some login)
    (hurl : url ∈ op.urls config login.2) (trace : List Event) :
    (op, url) ∈ visits config (journal ++ op.record trace) := by
  rw [visits_append, hlogin, Operation.record, visitsAfter]
  refine List.mem_append_right _ (List.mem_append_left _ ?_)
  exact List.mem_flatMap.2 ⟨login, List.mem_singleton_self _, List.mem_map_of_mem hurl⟩

end Visits

/-- A journal in which the URLs that are known are those of the operations that
are not for an extra. -/
def Parted (e : Extra) (config : Config) (known : String → Prop) (journal : List Entry) : Prop :=
  ∀ v ∈ visits config journal, known v.2 ↔ v.1.extra? ≠ some e

namespace Parted

variable {e : Extra} {config : Config} {known : String → Prop} {journal whole : List Entry}

/-- What the whole journal tells apart, its beginning does. -/
theorem earlier (h : Parted e config known whole) (hbegun : journal <+: whole) :
    Parted e config known journal := by
  obtain ⟨later, rfl⟩ := hbegun
  intro v hv
  refine h v ?_
  rw [visits_append]
  exact List.mem_append_left _ hv

/-- What is known of the URLs of an operation that was begun under a login. -/
theorem known_iff {op : Operation} {trace : List Event} (h : Parted e config known whole)
    (hbegun : journal ++ op.record trace <+: whole) {login : Login}
    (hlogin : lastLogin config.tokenUrl (eventsOf journal) = some login) :
    ∀ url ∈ op.urls config login.2, known url ↔ op.extra? ≠ some e := by
  intro url hurl
  exact h.earlier hbegun _ (mem_visits_record hlogin hurl trace)

end Parted

/-! ## Metrics and the operations that they are emitted for -/

/-- What the number of a group's members is called. -/
def membersName : String := "openstack.keystone.groups.users"

/-- Whether a metric of this name may be emitted for an operation: a number of members for the query
for them, and nothing else for that. -/
def Operation.Fits (op : Operation) (name : String) : Prop :=
  op.extra? = some .membership ↔ name = membersName

/-- Whether the metric of an emission was emitted for an extra. -/
def Extra.Brings (e : Extra) (emission : Option Operation × Metric) : Prop :=
  emission.1.bind Operation.extra? = some e

instance (e : Extra) (emission : Option Operation × Metric) : Decidable (e.Brings emission) :=
  inferInstanceAs (Decidable (_ = _))

/-- A journal whose metrics fit what they were emitted for. -/
def Fitting (journal : List Entry) : Prop :=
  ∀ m ∈ emissions journal, Extra.membership.Brings m ↔ m.2.name = membersName

section Emissions

variable {journal later remarks : List Entry} {op : Operation} {trace : List Event}

/-- Remarks are made on the operation that was begun last. By induction on the remarks. -/
theorem emissionsAfter_remarks (last : Option Operation) : ∀ {remarks : List Entry},
    (∀ e ∈ remarks, e.IsRemark) → emissionsAfter last remarks = (metricsOf remarks).map (last, ·)
  | [], _ => rfl
  | entry :: rest, h => by
    have hrest := emissionsAfter_remarks last fun e he => h e (List.mem_cons_of_mem _ he)
    cases entry with
    | operation op => exact (h _ (List.mem_cons_self ..)).elim
    | metric m => exact congrArg ((last, m) :: ·) hrest
    | _ => exact hrest

/-- What is remarked on an operation is emitted for it. -/
theorem emissionsAfter_record (last : Option Operation) (op : Operation) (trace : List Event)
    (hremarks : ∀ e ∈ remarks, e.IsRemark) :
    emissionsAfter last (op.record trace ++ remarks) = (metricsOf remarks).map (some op, ·) := by
  have hrecord : emissionsAfter last (op.record trace) = [] :=
    List.map_eq_nil_iff.1 ((map_snd_emissionsAfter _ _).trans (metricsOf_record op trace))
  have hlast : lastOperation (op.record trace) = some op := lastOperation_record [] op trace
  rw [emissionsAfter_append, hrecord, hlast, Option.some_or, emissionsAfter_remarks _ hremarks,
    List.nil_append]

theorem Fitting.append (h : Fitting journal)
    (hlater : ∀ m ∈ emissionsAfter (lastOperation journal) later, Extra.membership.Brings m ↔
      m.2.name = membersName) : Fitting (journal ++ later) := by
  intro m hm
  rw [emissions_append] at hm
  exact (List.mem_append.1 hm).elim (h m) (hlater m)

end Emissions

/-! ## Journals without what is optional -/

/-- A journal that reports what another one does, but for what was emitted for an extra. -/
structure Pruned (e : Extra) (journal journal' : List Entry) : Prop where
  skipped : skippedOf journal' = skippedOf journal
  checks : checksOf journal' = checksOf journal
  missing : missingOf journal' = missingOf journal
  metrics : metricsOf journal' = ((emissions journal).filter fun m => ¬ e.Brings m).map (·.2)

namespace Pruned

variable {e : Extra} {journal journal' later later' : List Entry}

/-- What is not for the extra is added on both sides. -/
theorem append (h : Pruned e journal journal')
    (hblur : later'.map Entry.blur = later.map Entry.blur)
    (hlater : ∀ m ∈ emissionsAfter (lastOperation journal) later, ¬ e.Brings m) :
    Pruned e (journal ++ later) (journal' ++ later') where
  skipped := by
    rw [skippedOf_append, skippedOf_append, h.skipped, ← skippedOf_blur later',
      hblur, skippedOf_blur]
  checks := by
    rw [checksOf_append, checksOf_append, h.checks, ← checksOf_blur later', hblur, checksOf_blur]
  missing := by
    rw [missingOf_append, missingOf_append, h.missing, ← missingOf_blur later',
      hblur, missingOf_blur]
  metrics := by
    have hall : (emissionsAfter (lastOperation journal) later).filter (fun m => ¬ e.Brings m) =
        emissionsAfter (lastOperation journal) later :=
      List.filter_eq_self.2 fun m hm => decide_eq_true (hlater m hm)
    rw [metricsOf_append, h.metrics, ← metricsOf_blur later', hblur,
      metricsOf_blur, emissions_append, List.filter_append, hall, List.map_append,
      map_snd_emissionsAfter]

/-- Two traces of one operation make no difference. -/
theorem record (h : Pruned e journal journal') (op : Operation) (trace trace' : List Event) :
    Pruned e (journal ++ op.record trace) (journal' ++ op.record trace') where
  skipped := by
    rw [skippedOf_append, skippedOf_append, skippedOf_record, skippedOf_record, List.append_nil,
      List.append_nil, h.skipped]
  checks := by
    rw [checksOf_append, checksOf_append, checksOf_record, checksOf_record,
      List.append_nil, List.append_nil, h.checks]
  missing := by
    rw [missingOf_append, missingOf_append, missingOf_record, missingOf_record, List.append_nil,
      List.append_nil, h.missing]
  metrics := by
    rw [emissions_append_of_no_metrics (metricsOf_record op trace),
      metricsOf_append, metricsOf_record, List.append_nil, h.metrics]

/-- What is for the extra is added on the one side, and tells nothing of any component. -/
theorem append_left (h : Pruned e journal journal') (hquiet : Quiet later)
    (hlater : ∀ m ∈ emissionsAfter (lastOperation journal) later, e.Brings m) :
    Pruned e (journal ++ later) journal' where
  skipped := by rw [skippedOf_append, hquiet.skipped, List.append_nil, h.skipped]
  checks := by rw [checksOf_append, hquiet.checks, List.append_nil, h.checks]
  missing := by rw [missingOf_append, hquiet.missing, List.append_nil, h.missing]
  metrics := by
    have hnone : (emissionsAfter (lastOperation journal) later).filter
        (fun m => ¬ e.Brings m) = [] :=
      List.filter_eq_nil_iff.2 fun m hm hkept => of_decide_eq_true hkept (hlater m hm)
    rw [h.metrics, emissions_append, List.filter_append, hnone, List.append_nil]

/-- Nothing but the metrics of the reports differs. -/
theorem report (h : Pruned e journal journal') {metrics : List Metric}
    (hmetrics : metricsOf journal' = metrics) :
    reportOf journal' = { reportOf journal with metrics } := by
  rw [reportOf, hmetrics, h.checks, h.missing]
  rfl

end Pruned

end StackWatch
