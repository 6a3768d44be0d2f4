import StackWatch.Proofs.Joining

/-!
# Operations beside a run that leaves something out

What a run does with its session, beside one that leaves out an extra (`Run.Joint`). A query that is
not for the extra comes to the same data in both (`joint_ask`), components are timed alike
(`joint_responseTime`), and a login is granted to both or to neither (`joint_authorize`).

A query for the extra is asked by the first run alone (`joint_reporting_alone`). It may fail,
be refused and asked again under a new login, or enter its URL: none of that tells anything
of a component, since one that is not in the catalog was given up before, and the new login
is the one that was held.
-/

namespace StackWatch

theorem metricsOf_asides {asides : List Entry} (h : ∀ e ∈ asides, e.IsAside) :
    metricsOf asides = [] := by
  refine List.filterMap_eq_nil_iff.2 fun entry hentry => ?_
  cases entry with
  | metric m => exact (h _ hentry).elim
  | _ => rfl

/-- All that is told of a component that is timed is called its response time. -/
theorem Told.names {c : Component} {tags : List String} {journal remarks : List Entry}
    {result : Except ApiError (Option Float)} (h : Told c tags journal result remarks) :
    ∀ m ∈ metricsOf remarks, m.name = c.responseTimeName := by
  intro m hm
  cases h with
  | missing hasides =>
    rw [metricsOf_asides hasides] at hm
    cases hm
  | read => cases hm
  | up milliseconds =>
    obtain rfl := List.mem_singleton.1 hm
    rfl
  | down _ hasides =>
    rw [metricsOf_append, metricsOf_asides hasides] at hm
    cases hm

namespace Run

variable {shape : Shape} {t : Omission} {login : Login} {asked : Option Component} {c : Component}
  {p p' : Progress Unit} {q : Query shape} {value : shape.Value} {metrics : List Metric}

/-- A component that was given up and is reported as missing is not recorded again. -/
theorem recordMissing_again (hskipped : c ∈ p.skipped) (hmissing : c ∈ p.report.missing)
    (d : Deployment Unit) : recordMissing c d p = ((), p) := by
  have hskip : skip c d p = ((), p) := by
    rw [skip, bind_apply, get_apply, ite_apply, if_pos hskipped]
    rfl
  rw [recordMissing, bind_apply, bind_apply, get_apply, ite_apply, hskip, if_pos hmissing]
  rfl

/-- What is remarked on an operation is remarked on the one that was begun last. -/
theorem lastOperation_written {op : Operation} {α : Type} {o : Outcome Unit α}
    {remarks : List Entry} (hremarks : ∀ e ∈ remarks, e.IsRemark) :
    lastOperation ((p.after op o).write remarks).journal = some op :=
  (lastOperation_remarks hremarks).trans (lastOperation_record ..)

/-! ## What both ask -/

/-- Once it was asked for, a component that is not in the catalog is given up
and reported as missing. -/
theorem Nearby.placed_ask (h : Nearby t login asked p p') (hq : q.component? = some c) :
    Placed t.config login c (ask q t.deployment p).2 := by
  intro hnone
  have habsent := Query.perform_absent (d := t.deployment) (w := p.state) h.steady.holds.sound hq
    ((h.endpoint? c).trans hnone)
  obtain ⟨asides, hrun, -, hmissing⟩ :=
    recordMissing_adds c t.deployment (p.after (.ask q) (q.perform t.deployment p.session p.state))
  rw [ask_absent (congrArg Outcome.result habsent)]
  refine ⟨mem_skipped_recordMissing c _ _, ?_⟩
  rw [hrun]
  exact hmissing

/-- The data of a query under a login. -/
theorem Nearby.carries_ask (h : Nearby t login asked p p')
    (hvalue : (ask q t.deployment p).1 = some value) : q.Carries value := by
  rw [ask_value] at hvalue
  cases hq : q.component? with
  | some c => exact Query.carries_perform h.steady.holds hq (eq_of_toOption_join hvalue) value rfl
  | none =>
    -- only the projects are asked of no component
    cases q <;> try cases hq
    trivial

/-- **A query that is not for the extra** comes to the same data. -/
theorem joint_ask (q : Query shape) (hkept : (Operation.ask q).extra? ≠ some t.extra) :
    Joint t (Nearby t login asked) (ask q) (ask q)
      fun value p p' => Nearby t login q.component? p p' ∧
      ∀ v, value = some v → Given t login q v p p' where
  extending := extends_ask q
  related {p p'} h hparts := by
    have hknown : ∀ url ∈ (Operation.ask q).urls t.config login.2, t.known url := fun url hurl =>
      (hparts.known_iff (ask_extends q t.deployment p) h.lastLogin_eq url hurl).2 hkept
    obtain ⟨hvalue, hpaced⟩ := paced_ask (Step.trailing_perform q hknown) p p' h.since
    obtain ⟨asides, hask, hasides⟩ := ask_adds q t.deployment p
    have hremarks : ∀ e ∈ asides, e.IsRemark := fun e he => (hasides e he).isRemark
    have hafter : (ask q t.deployment p).2 =
        (p.after (.ask q) (q.perform t.deployment p.session p.state)).write asides :=
      congrArg Prod.snd hask
    have hnone : ∀ m ∈ metricsOf asides, (Operation.ask q).Fits m.name := by
      rw [metricsOf_asides hasides]
      exact nofun
    have hbehind := h.operation q.perform_tracks h.configured hpaced hafter hremarks
      (extends_ask q t.deployment p') hkept hnone
    have hnearby : Nearby t login q.component? (ask q t.deployment p).2 (ask q t.deployment p').2 :=
      ⟨hbehind, fun c hc => h.placed_ask hc⟩
    refine ⟨hvalue, hnearby, fun v hv => ⟨hnearby, ?_, h.carries_ask hv⟩⟩
    rw [hafter]
    exact lastOperation_written hremarks

/-- What goes by the data of a query that is not for the extra. -/
theorem joint_asking {α : Type} {f f' : Option shape.Value → Run Unit α}
    {S : α → Progress Unit → Progress Unit → Prop} (hkept : (Operation.ask q).extra? ≠ some t.extra)
    (hnone : Joint t (Nearby t login q.component?) (f none) (f' none) S)
    (hsome : ∀ v, Joint t (Given t login q v) (f (some v)) (f' (some v)) S) :
    Joint t (Nearby t login asked) (ask q >>= f) (ask q >>= f') S := by
  refine (joint_ask q hkept).bind fun value => ?_
  cases value with
  | none => exact hnone.mono (fun _ _ h => h.1) fun _ _ _ h => h
  | some v => exact (hsome v).mono (fun _ _ h => h.2 v rfl) fun _ _ _ h => h

/-! ## What is emitted -/

/-- What is emitted is emitted for the query that was asked last. -/
theorem mem_emissions_emit (hlast : lastOperation p.journal = some (.ask q))
    {m : Option Operation × Metric} (hm : m ∈ emissionsAfter (lastOperation p.journal)
      ((metrics.map fun m => { m with tags := p.session.baseTags ++ m.tags }).map .metric)) :
    m.1 = some (.ask q) ∧ ∃ m₀ ∈ metrics, m.2.name = m₀.name := by
  rw [emissionsAfter_metrics, hlast, List.map_map] at hm
  obtain ⟨m₀, hm₀, rfl⟩ := List.mem_map.1 hm
  exact ⟨rfl, m₀, hm₀, rfl⟩

/-- **The metrics of data** that are not for the extra. -/
theorem joint_emit (hkept : (Operation.ask q).extra? ≠ some t.extra)
    (hfits : q.Carries value → ∀ m ∈ metrics, (Operation.ask q).Fits m.name) :
    Joint t (Given t login q value) (emit metrics) (emit metrics)
      fun _ => Given t login q value where
  extending := extends_emit metrics
  related {p p'} h _ := by
    obtain ⟨-, hpaced⟩ :=
      paced_emit Step.Trailing.baseTags metrics p p' h.since
    have hextends := extends_emit metrics t.deployment p
    have hextends' := extends_emit metrics t.deployment p'
    rw [emit_apply metrics t.deployment p] at hpaced hextends ⊢
    refine ⟨rfl, ⟨h.paced hpaced rfl hextends' ?_ ?_ ?_,
      fun c hc => (h.placed c hc).later hextends⟩, ?_, h.carries⟩
    · rw [Progress.lastLogin_write _ _ (remarks_metrics _)]
      exact h.holds
    · intro m hm
      obtain ⟨hop, -⟩ := mem_emissions_emit h.last hm
      rw [Extra.Brings, hop]
      exact hkept
    · intro m hm
      obtain ⟨hop, m₀, hm₀, hname⟩ := mem_emissions_emit h.last hm
      rw [Extra.Brings, hop, hname]
      exact hfits h.carries m₀ hm₀
    · exact (lastOperation_remarks (remarks_metrics _)).trans h.last

/-- The metrics of data that the first run alone has asked for. -/
theorem Given.emit_alone (h : Given t login q value p p')
    (hextra : (Operation.ask q).extra? = some t.extra)
    (hfits : ∀ m ∈ metrics, (Operation.ask q).Fits m.name) (d : Deployment Unit) :
    Nearby t login q.component? (emit metrics d p).2 p' := by
  have hextends := extends_emit metrics d p
  rw [emit_apply] at hextends ⊢
  refine ⟨⟨h.related, ?_, ?_, ?_⟩, fun c hc => (h.placed c hc).later hextends⟩
  · rw [Progress.lastLogin_write _ _ (remarks_metrics _)]
    exact h.holds
  · refine h.pruned.append_left (quiet_metrics _) fun m hm => ?_
    obtain ⟨hop, -⟩ := mem_emissions_emit h.last hm
    rw [Extra.Brings, hop]
    exact hextra
  · refine h.fitting.append fun m hm => ?_
    obtain ⟨hop, m₀, hm₀, hname⟩ := mem_emissions_emit h.last hm
    rw [Extra.Brings, hop, hname]
    exact hfits m₀ hm₀

/-! ## What the first run alone asks -/

/-- A query for an extra is asked of a component. -/
theorem component?_of_extra {e : Extra} (h : (Operation.ask q).extra? = some e) :
    ∃ c, q.component? = some c := by
  cases q with
  | authProjects => cases h
  | _ => exact ⟨_, rfl⟩

/-- What a query leaves of a component that was asked for before. -/
theorem Nearby.ask_again (h : Nearby t login q.component? p p') (hq : q.component? = some c) :
    ∃ asides, (ask q t.deployment p).2 =
        (p.after (.ask q) (q.perform t.deployment p.session p.state)).write asides ∧
      (∀ e ∈ asides, e.IsAside) ∧ Quiet asides := by
  cases hendpoint : p.session.endpoint? c with
  | some endpoint =>
    have hask := ask_apply (Query.perform_yields (d := t.deployment) (w := p.state)
      h.steady.holds hq hendpoint)
    have hasides := asides_failureOf q (q.perform t.deployment p.session p.state).result
    refine ⟨failureOf q (q.perform t.deployment p.session p.state).result,
      congrArg Prod.snd hask, hasides, ?_⟩
    exact
      { checks := view_failureOf (fun _ => rfl) q _
        missing := view_failureOf (fun _ => rfl) q _
        skipped := view_failureOf (fun _ => rfl) q _
        project := steadfast_remarks fun e he => (hasides e he).isRemark }
  | none =>
    have habsent :=
      Query.perform_absent (d := t.deployment) (w := p.state) h.steady.holds.sound hq hendpoint
    obtain ⟨hskipped, hmissing⟩ := h.placed c hq ((h.endpoint? c).symm.trans hendpoint)
    have hquiet : Quiet [] := ⟨rfl, rfl, rfl, nofun⟩
    refine ⟨[], ?_, fun _ he => absurd he List.not_mem_nil, hquiet⟩
    rw [ask_absent (congrArg Outcome.result habsent), recordMissing_again]
    · simp only [Progress.write, List.append_nil]
    · rw [Progress.skipped_after]
      exact hskipped
    · change c ∈ missingOf (p.journal ++ _)
      rw [missingOf_append]
      exact List.mem_append_left _ hmissing

/-- **A query for the extra**, asked by the first run alone, leaves nothing but
its record and its URLs. -/
theorem Nearby.ask_alone (h : Nearby t login q.component? p p')
    (hextra : (Operation.ask q).extra? = some t.extra)
    (hparts : t.Parts (ask q t.deployment p).2.journal) :
    Nearby t login q.component? (ask q t.deployment p).2 p' ∧
      ∀ v, (ask q t.deployment p).1 = some v → Given t login q v (ask q t.deployment p).2 p' := by
  obtain ⟨c, hq⟩ := component?_of_extra hextra
  have hunknown : ∀ url ∈ (Operation.ask q).urls t.config login.2, ¬ t.known url :=
    fun url hurl hknown =>
    (hparts.known_iff (ask_extends q t.deployment p) h.lastLogin_eq url hurl).1 hknown hextra
  obtain ⟨asides, hask, hasides, hquiet⟩ := h.ask_again hq
  have hremarks : ∀ e ∈ asides, e.IsRemark := fun e he => (hasides e he).isRemark
  have hgrows := q.perform_grows h.steady
  rw [h.configured] at hgrows
  have hjournal : (ask q t.deployment p).2.journal = p.journal ++
      ((Operation.ask q).record (q.perform t.deployment p.session p.state).trace ++ asides) := by
    rw [hask, ← List.append_assoc]
    rfl
  have hrecord : Quiet ((Operation.ask q).record
      (q.perform t.deployment p.session p.state).trace) :=
    quiet_record (.ask q) _ fun _ => rfl
  have hnone : emissionsAfter (lastOperation p.journal) ((Operation.ask q).record
      (q.perform t.deployment p.session p.state).trace ++ asides) = [] := by
    rw [emissionsAfter_record _ _ _ hremarks, metricsOf_asides hasides]
    rfl
  have hnearby : Nearby t login q.component? (ask q t.deployment p).2 p' := by
    refine ⟨⟨?_, ?_, ?_, ?_⟩, fun c hc => (h.placed c hc).later (extends_ask q t.deployment p)⟩
    · rw [hask]
      exact h.related.grow hgrows hunknown
    · rw [hask, Progress.lastLogin_write _ _ hremarks]
      exact holds_after q.perform_tracks h.holds h.configured _ t.deployment
    · rw [hjournal]
      refine h.pruned.append_left (hrecord.append hquiet) ?_
      rw [hnone]
      exact nofun
    · rw [hjournal]
      refine h.fitting.append ?_
      rw [hnone]
      exact nofun
  refine ⟨hnearby, fun v hv => ⟨hnearby, ?_, h.carries_ask hv⟩⟩
  rw [hask]
  exact lastOperation_written hremarks

/-! ## Data that are reported at once -/

/-- A query, and the metrics of its data. -/
def reporting (q : Query shape) (metrics : shape.Value → List Metric) : Run Unit Unit := do
  match ← ask q with
  | none => pure ()
  | some value => emit (metrics value)

section Reporting

variable {metrics : shape.Value → List Metric}
  (hfits : ∀ v, q.Carries v → ∀ m ∈ metrics v, (Operation.ask q).Fits m.name)
include hfits

/-- What is not for the extra is reported by both. -/
theorem joint_reporting (hkept : (Operation.ask q).extra? ≠ some t.extra) :
    Joint t (Nearby t login asked) (reporting q metrics) (reporting q metrics) fun _ =>
      Nearby t login q.component? := by
  refine joint_asking hkept (joint_pure fun _ _ h => h) fun v => ?_
  exact (joint_emit hkept (hfits v)).mono (fun _ _ h => h) fun _ _ _ h => h.toNearby

/-- **What is for the extra** is reported by the first run alone. -/
theorem joint_reporting_alone (hextra : (Operation.ask q).extra? = some t.extra) :
    Joint t (Nearby t login q.component?) (reporting q metrics) (pure ()) fun _ =>
      Nearby t login q.component? where
  extending := by
    refine (extends_ask q).bind fun value => ?_
    cases value with
    | none => exact extends_pure ()
    | some v => exact extends_emit _
  related {p p'} h hparts := by
    rw [reporting, bind_apply] at hparts ⊢
    cases hvalue : (ask q t.deployment p).1 with
    | none =>
      rw [hvalue] at hparts
      exact ⟨rfl, (h.ask_alone hextra hparts).1⟩
    | some v =>
      rw [hvalue] at hparts
      have hasked : t.Parts (ask q t.deployment p).2.journal :=
        hparts.earlier (extends_emit (metrics v) t.deployment (ask q t.deployment p).2)
      have hgiven := (h.ask_alone hextra hasked).2 v hvalue
      exact ⟨rfl, hgiven.emit_alone hextra (hfits v hgiven.carries) t.deployment⟩

/-- **Something optional** is reported by the first run, and by the other one
unless it is the extra. -/
theorem joint_optional {x : Extra} (hx : (Operation.ask q).extra? = some x) :
    Joint t (Nearby t login q.component?) (reporting q metrics)
      (t.instead x (reporting q metrics)) fun _ => Nearby t login q.component? := by
  unfold Omission.instead
  split
  · rename_i heq
    exact joint_reporting_alone hfits (heq ▸ hx)
  · rename_i hne
    exact joint_reporting hfits fun heq => hne (Option.some.inj (hx.symm.trans heq))

end Reporting

/-! ## Timing -/

/-- **A component is timed** by both. -/
theorem joint_responseTime (c : Component) (hname : c.responseTimeName ≠ membersName) :
    Joint t (Nearby t login none) (reportResponseTime c) (reportResponseTime c) fun _ =>
      Nearby t login none where
  extending d p := by
    obtain ⟨remarks, hrun, -⟩ := responseTime_told c d p
    rw [hrun]
    exact (List.prefix_append _ _).trans (List.prefix_append _ _)
  related {p p'} h hparts := by
    obtain ⟨remarks, hrun, htold⟩ := responseTime_told c t.deployment p
    obtain ⟨remarks', hrun', -⟩ := responseTime_told c t.deployment p'
    have hbegun : p.journal ++ (Operation.probe (.ofComponent c)).record
        (Step.probe (.ofComponent c) t.deployment p.session p.state).trace <+:
          (reportResponseTime c t.deployment p).2.journal := by
      rw [hrun]
      exact List.prefix_append _ _
    have hknown : ∀ url ∈ (Operation.probe (.ofComponent c)).urls t.config login.2, t.known url :=
      fun url hurl => (hparts.known_iff hbegun h.lastLogin_eq url hurl).2 nofun
    obtain ⟨hvalue, hpaced⟩ := paced_responseTime Step.Trailing.baseTags c
      (Step.trailing_probe (.ofComponent c) hknown) p p' h.since
    refine ⟨hvalue, h.operation (Step.tracks_probe _) h.configured hpaced hrun
      htold.isRemark ?_ nofun ?_, nofun⟩
    · rw [hrun']
      exact (List.prefix_append _ _).trans (List.prefix_append _ _)
    · exact fun m hm => ⟨nofun, fun heq => absurd ((htold.names m hm).symm.trans heq) hname⟩

/-! ## Logins -/

/-- The project of the next login is chosen by both. -/
theorem joint_choose (project : Option String) :
    Joint t (Loose t) (chooseProject project) (chooseProject project) fun _ => Loose t where
  extending := (extends_step _ _).bind fun _ => extends_pure _
  related h _ := by
    have htracks : Step.Tracks (fun _ _ _ => True)
        (Step.modify fun s => s.choose project : Step Unit Unit) :=
      Step.tracks_setProject project
    exact ⟨rfl, h.after htracks h.related.configured.1 (.setProject project)
      (h.related.choose project)⟩

/-- **A login** is granted to both or to neither, and what it grants would be granted again. -/
theorem joint_authorize :
    Joint t (Loose t) (step .authorize Step.authorize) (step .authorize Step.authorize)
      fun result p p' => Loose t p p' ∧ (result = .ok () → ∃ login, Nearby t login none p p') where
  extending := extends_step _ _
  related h _ := by
    obtain ⟨hresult, hfollowing, hgranted⟩ := Step.following_authorize t.answer h.related
    have htracks := Step.tracks_login (σ := Unit) .authorize
    have hconfig := h.related.configured.1
    refine ⟨hresult, h.after htracks hconfig .authorize hfollowing, fun hok => ?_⟩
    obtain ⟨login, htrailing⟩ := hgranted hok
    exact ⟨login, h.after htracks hconfig .authorize htrailing, nofun⟩

end Run

end StackWatch
