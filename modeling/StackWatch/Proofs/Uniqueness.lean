import StackWatch.Proofs.Lawful
import StackWatch.Proofs.ProjectList

/-!
# No series is reported twice

A series is a metric's name with its tags. Every part of a run emits series of its own:
`Run.Emits labels front m` says that what `m` emits are distinct series, whose names are made of the
given labels and whose tags begin with `front`. Parts in turn emit distinct series if their labels
differ, and a loop does if each of its rounds puts a tag of its own behind `front`: the identifier
of a load balancer, of a pool, of a project. The labels of a whole run are all different
(`Run.labels_nodup`), so what remains to be known is that no project is listed twice
(`Check.no_series_twice`).
-/

namespace StackWatch

/-! ## Distinct series -/

/-- A metric's name with its tags. -/
abbrev Metric.series (m : Metric) : String × List String := (m.name, m.tags)

/-- A metric's name with the tags of its own, behind the common one. -/
abbrev Metric.own (m : Metric) : String × List String := (m.name, m.tags.tail)

/-- Series that are all different, with names of some labels and tags that begin alike. -/
structure Distinct (labels : List Label) (front : List String)
    (series : List (String × List String)) : Prop where
  nodup : series.Nodup
  labeled : ∀ s ∈ series, ∃ l ∈ labels, s.1 = l.name
  tagged : ∀ s ∈ series, front <+: s.2

namespace Distinct

variable {labels labels' : List Label} {front : List String}
  {series series' : List (String × List String)}

theorem nil : Distinct labels front [] := ⟨.nil, nofun, nofun⟩

theorem single {name : String} {tags : List String} (hname : ∃ l ∈ labels, name = l.name)
    (htags : front <+: tags) : Distinct labels front [(name, tags)] where
  nodup := by simp
  labeled s hs := by
    rw [List.mem_singleton.1 hs]
    exact hname
  tagged s hs := by
    rw [List.mem_singleton.1 hs]
    exact htags

/-- Series of different labels are different. -/
theorem append (h : Distinct labels front series) (h' : Distinct labels' front series')
    (hlabels : (labels ++ labels').Nodup) :
    Distinct (labels ++ labels') front (series ++ series') where
  nodup := by
    refine List.nodup_append.2 ⟨h.nodup, h'.nodup, fun a ha b hb heq => ?_⟩
    obtain ⟨l, hl, hname⟩ := h.labeled a ha
    obtain ⟨l', hl', hname'⟩ := h'.labeled b hb
    have hll' : l = l' := Label.name_injective (by rw [← hname, ← hname', heq])
    exact (List.nodup_append.1 hlabels).2.2 l hl l' hl' hll'
  labeled s hs := by
    rcases List.mem_append.1 hs with hs | hs
    · obtain ⟨l, hl, hname⟩ := h.labeled s hs
      exact ⟨l, List.mem_append_left _ hl, hname⟩
    · obtain ⟨l, hl, hname⟩ := h'.labeled s hs
      exact ⟨l, List.mem_append_right _ hl, hname⟩
  tagged s hs := (List.mem_append.1 hs).elim (h.tagged s) (h'.tagged s)

theorem shorten {mark : String} (h : Distinct labels (front ++ [mark]) series) :
    Distinct labels front series :=
  ⟨h.nodup, h.labeled, fun s hs => (List.prefix_append front [mark]).trans (h.tagged s hs)⟩

end Distinct

/-- The tag behind a common beginning is one. -/
theorem mark_unique {front tags : List String} {mark mark' : String} (h : front ++ [mark] <+: tags)
    (h' : front ++ [mark'] <+: tags) : mark = mark' := by
  obtain ⟨rest, rfl⟩ := h
  obtain ⟨rest', heq⟩ := h'
  simp only [List.append_assoc, List.append_cancel_left_eq, List.singleton_append] at heq
  exact (List.cons.inj heq).1.symm

theorem tag_injective {key value value' : String} (h : tag key value = tag key value') :
    value = value' := by
  have hchars := congrArg String.toList h
  simp only [tag, String.toList_append, List.append_cancel_left_eq] at hchars
  exact String.toList_injective hchars

/-! ## The series of data -/

theorem KeyMap.nodup_keys {α : Type} (m : KeyMap α) : m.keys.Nodup := by
  refine List.pairwise_map.2 (m.ordered.imp fun {a b} hlt heq => ?_)
  rw [heq] at hlt
  exact String.lt_irrefl _ hlt

/-- The figures of a map are distinct series. -/
theorem distinct_gauges {labels : List Label} {figures : KeyMap Float} (h : figures.Labeled labels)
    (tags : List String) : Distinct labels tags ((gauges figures tags).map Metric.series) := by
  have hseries : (gauges figures tags).map Metric.series =
      figures.keys.map fun name => (name, tags) := by
    simp only [gauges, KeyMap.keys, List.map_map]
    rfl
  rw [hseries]
  refine ⟨List.pairwise_map.2 (figures.nodup_keys.imp fun hne heq => hne (congrArg Prod.fst heq)),
    fun s hs => ?_, fun s hs => ?_⟩
  · obtain ⟨name, hname, rfl⟩ := List.mem_map.1 hs
    obtain ⟨f, hf, rfl⟩ := List.mem_map.1 hname
    exact h f hf
  · obtain ⟨name, -, rfl⟩ := List.mem_map.1 hs
    exact List.prefix_refl tags

/-- The metrics of entities in a list with different identifiers are distinct series. By
induction on the entities. -/
theorem distinct_entities {labels : List Label} (series : Series) (tags : List String) :
    ∀ {entries : List (String × Entity)}, (entries.map (·.1)).Nodup →
      (∀ e ∈ entries, e.2.metrics.Labeled labels) →
        Distinct labels tags ((entries.flatMap fun e =>
          gauges e.2.metrics (tags ++ series.entityTags e.1 e.2)).map Metric.series)
  | [], _, _ => .nil
  | entry :: rest, hkeys, h => by
    obtain ⟨hfirst, hrest⟩ := List.nodup_cons.1 hkeys
    have hown :=
      distinct_gauges (h entry (List.mem_cons_self ..)) (tags ++ series.entityTags entry.1 entry.2)
    have hlater := distinct_entities series tags hrest fun e he => h e (List.mem_cons_of_mem _ he)
    rw [List.flatMap_cons, List.map_append]
    refine ⟨List.nodup_append.2 ⟨hown.nodup, hlater.nodup, ?_⟩, ?_, ?_⟩
    · rintro a ha b hb rfl
      -- the tag of the identifier tells the entities apart
      obtain ⟨m, hm, rfl⟩ := List.mem_map.1 hb
      obtain ⟨e, he, hm⟩ := List.mem_flatMap.1 hm
      obtain ⟨f, -, rfl⟩ := List.mem_map.1 hm
      have hmark : ∀ (id : String) (entity : Entity),
          tags ++ [tag (series.kind ++ "_id") id] <+: tags ++ series.entityTags id entity :=
        fun id entity => (List.prefix_append_right_inj tags).2 ⟨_, rfl⟩
      have hsame := mark_unique ((hmark entry.1 entry.2).trans (hown.tagged _ ha)) (hmark e.1 e.2)
      refine hfirst (List.mem_map.2 ⟨e, he, (tag_injective hsame).symm⟩)
    · intro s hs
      exact (List.mem_append.1 hs).elim (hown.labeled s) (hlater.labeled s)
    · intro s hs
      rcases List.mem_append.1 hs with hs | hs
      · exact (List.prefix_append _ _).trans (hown.tagged s hs)
      · exact hlater.tagged s hs

/-- What is reported of a collection are distinct series: its count, and the
metrics of its entities. -/
theorem Series.distinct_gauges {labels : List Label} {entities : KeyMap Entity}
    (h : entities.EachLabeled labels) (series : Series) (tags : List String)
    (hlabels : (series.label :: labels).Nodup) :
    Distinct (series.label :: labels) tags ((series.gauges entities tags).map Metric.series) := by
  have hcount : Distinct [series.label] tags [(series.countName, tags)] := by
    refine .single ⟨_, List.mem_singleton_self _, series.name_label.symm⟩ (List.prefix_refl tags)
  exact hcount.append (distinct_entities series tags entities.nodup_keys h) hlabels

namespace Run

variable {σ α β : Type} {labels labels' : List Label} {front : List String}

/-! ## Parts that emit distinct series -/

/-- What a part of a run has added: distinct series, and nothing that was there is lost. -/
structure Added (labels : List Label) (front : List String) (p p' : Progress σ) : Prop where
  holds : ∃ held, p'.session.Holds held
  config : p'.session.config = p.session.config
  extending : p.journal <+: p'.journal
  metrics : ∃ new, metricsOf p'.journal = metricsOf p.journal ++ new ∧
    Distinct labels front (new.map Metric.own)

theorem Added.trans {p p₁ p₂ : Progress σ} (h : Added labels front p p₁)
    (h' : Added labels' front p₁ p₂) (hlabels : (labels ++ labels').Nodup) :
    Added (labels ++ labels') front p p₂ := by
  obtain ⟨new, hmetrics, hnew⟩ := h.metrics
  obtain ⟨new', hmetrics', hnew'⟩ := h'.metrics
  refine ⟨h'.holds, h'.config.trans h.config, h.extending.trans h'.extending, new ++ new', ?_, ?_⟩
  · rw [hmetrics', hmetrics, List.append_assoc]
  · rw [List.map_append]
    exact hnew.append hnew' hlabels

/-- A part that emits distinct series of some labels, if those are all different. -/
def Emits (labels : List Label) (front : List String) (m : Run σ α) : Prop :=
  labels.Nodup → ∀ d p, (∃ held, p.session.Holds held) → Added labels front p (m d p).2

/-- A part that emits nothing, and keeps track of the login. -/
theorem emits_of_silent {m : Run σ α}
    (hholds : ∀ {d p}, (∃ held, p.session.Holds held) →
      (∃ held, (m d p).2.session.Holds held) ∧ (m d p).2.session.config = p.session.config)
    (hadds : ∀ d p, ∃ entries, (m d p).2.journal = p.journal ++ entries ∧ metricsOf entries = []) :
    Emits labels front m := by
  intro _ d p hp
  obtain ⟨entries, hjournal, hmetrics⟩ := hadds d p
  refine ⟨(hholds hp).1, (hholds hp).2, ⟨entries, hjournal.symm⟩, [], ?_, .nil⟩
  rw [hjournal, metricsOf_append, hmetrics]

theorem emits_pure (a : α) : Emits labels front (pure a : Run σ α) :=
  emits_of_silent (fun hp => ⟨hp, rfl⟩) fun _ p => ⟨[], (List.append_nil p.journal).symm, rfl⟩

theorem emits_write {entries : List Entry} (h : metricsOf entries = []) :
    Emits labels front (write entries : Run σ Unit) :=
  emits_of_silent (fun hp => ⟨hp, rfl⟩) fun _ _ => ⟨entries, rfl, h⟩

theorem emits_step {P : Config → Option Login → Event → Prop} (op : Operation) {m : Step σ α}
    (hm : Step.Tracks P m) : Emits labels front (step op m) :=
  emits_of_silent (fun ⟨_, hheld⟩ => ⟨⟨_, hm.holds hheld⟩, hm.config hheld⟩) fun _ _ =>
    ⟨_, rfl, metricsOf_record ..⟩

/-- Parts in turn. -/
theorem Emits.bind {m : Run σ α} {f : α → Run σ β} (hm : Emits labels front m)
    (hf : ∀ a, Emits labels' front (f a)) : Emits (labels ++ labels') front (m >>= f) := by
  intro hlabels d p hp
  obtain ⟨hleft, hright, -⟩ := List.nodup_append.1 hlabels
  have hfirst := hm hleft d p hp
  exact hfirst.trans (hf (m d p).1 hright d (m d p).2 hfirst.holds) hlabels

/-- A part after one that emits nothing. -/
theorem Emits.after {m : Run σ α} {f : α → Run σ β} (hm : Emits [] front m)
    (hf : ∀ a, Emits labels front (f a)) : Emits labels front (m >>= f) :=
  hm.bind hf

/-- A part before one that emits nothing. -/
theorem Emits.before {m : Run σ α} {f : α → Run σ β} (hm : Emits labels front m)
    (hf : ∀ a, Emits [] front (f a)) : Emits labels front (m >>= f) := by
  have h := hm.bind hf
  rwa [List.append_nil] at h

/-- A part that goes by the progress as it stands. -/
theorem emits_get {f : Progress σ → Run σ α} (h : ∀ p, Emits labels front (f p)) :
    Emits labels front (get >>= f) := fun hlabels d p hp => h p hlabels d p hp

theorem Emits.shorten {m : Run σ α} (mark : String) (hm : Emits labels (front ++ [mark]) m) :
    Emits labels front m := by
  intro hlabels d p hp
  obtain ⟨hholds, hconfig, hextends, new, hmetrics, hnew⟩ := hm hlabels d p hp
  exact ⟨hholds, hconfig, hextends, new, hmetrics, hnew.shorten⟩

/-- Rounds of a loop with labels of their own. By induction on the items. -/
theorem emits_forEach_labels {ι : Type} {own : ι → List Label} {f : ι → Run σ Unit} :
    ∀ {items : List ι}, (∀ a ∈ items, Emits (own a) front (f a)) →
      Emits (items.flatMap own) front (forEach f items)
  | [], _ => emits_pure ()
  | a :: rest, h => by
    rw [List.flatMap_cons]
    exact (h a (List.mem_cons_self ..)).bind fun _ =>
      emits_forEach_labels fun b hb => h b (List.mem_cons_of_mem _ hb)

/-- **Rounds of a loop** that put different marks behind the common beginning of tags. By induction
on the items: what the later rounds emit has one of the later marks. -/
theorem emits_forEach {ι : Type} (mark : ι → String) {f : ι → Run σ Unit} {items : List ι}
    (hmarks : (items.map mark).Nodup) (h : ∀ a ∈ items, Emits labels (front ++ [mark a]) (f a)) :
    Emits labels front (forEach f items) := by
  intro hlabels d p hp
  suffices hmarked : Added labels front p (forEach f items d p).2 ∧
      ∃ new, metricsOf (forEach f items d p).2.journal = metricsOf p.journal ++ new ∧
        ∀ s ∈ new.map Metric.own, ∃ a ∈ items, front ++ [mark a] <+: s.2 from hmarked.1
  induction items generalizing p with
  | nil => exact ⟨emits_pure () hlabels d p hp, [], (List.append_nil _).symm, nofun⟩
  | cons a rest ih =>
    obtain ⟨hfirst, hrest⟩ := List.nodup_cons.1 hmarks
    have hround := h a (List.mem_cons_self ..) hlabels d p hp
    obtain ⟨new, hmetrics, hnew⟩ := hround.metrics
    obtain ⟨hrounds, later, hmetrics', hmarked⟩ :=
      ih hrest (fun b hb => h b (List.mem_cons_of_mem _ hb)) (f a d p).2 hround.holds
    have hlater : Distinct labels front (later.map Metric.own) := by
      obtain ⟨later', hlater', hdistinct⟩ := hrounds.metrics
      obtain rfl : later' = later := List.append_cancel_left (hlater'.symm.trans hmetrics')
      exact hdistinct
    have hshort := hnew.shorten
    have hall : metricsOf (forEach f (a :: rest) d p).2.journal =
        metricsOf p.journal ++ (new ++ later) := by
      change metricsOf (forEach f rest d (f a d p).2).2.journal = _
      rw [hmetrics', hmetrics, List.append_assoc]
    refine ⟨⟨hrounds.holds, hrounds.config.trans hround.config,
      hround.extending.trans hrounds.extending, new ++ later, hall, ?_⟩, new ++ later, hall, ?_⟩
    · rw [List.map_append]
      refine ⟨List.nodup_append.2 ⟨hnew.nodup, hlater.nodup, ?_⟩, fun s hs => ?_, fun s hs => ?_⟩
      · rintro s hs _ hs' rfl
        obtain ⟨b, hb, hmark⟩ := hmarked s hs'
        exact hfirst (mark_unique (hnew.tagged s hs) hmark ▸ List.mem_map_of_mem hb)
      · exact (List.mem_append.1 hs).elim (hshort.labeled s) (hlater.labeled s)
      · exact (List.mem_append.1 hs).elim (hshort.tagged s) (hlater.tagged s)
    · intro s hs
      rw [List.map_append] at hs
      rcases List.mem_append.1 hs with hs | hs
      · exact ⟨a, List.mem_cons_self .., hnew.tagged s hs⟩
      · obtain ⟨b, hb, hmark⟩ := hmarked s hs
        exact ⟨b, List.mem_cons_of_mem _ hb, hmark⟩

/-- What is emitted are distinct series if they are distinct without the common tag. -/
theorem emits_emit {metrics : List Metric}
    (h : labels.Nodup → Distinct labels front (metrics.map Metric.series)) :
    Emits labels front (emit metrics : Run σ Unit) := by
  intro hlabels d p hp
  rw [emit_apply]
  refine ⟨hp, rfl, List.prefix_append _ _, metrics.map
    fun m => { m with tags := p.session.baseTags ++ m.tags }, ?_, ?_⟩
  · rw [Progress.write, metricsOf_append, metricsOf_metrics]
  · rw [List.map_map]
    exact h hlabels

theorem emits_skip (c : Component) : Emits labels front (skip c : Run σ Unit) := by
  refine emits_get fun p => ?_
  split
  · exact emits_pure ()
  · exact emits_write rfl

theorem emits_recordMissing (c : Component) :
    Emits labels front (recordMissing c : Run σ Unit) := by
  refine (emits_skip c).after fun _ => emits_get fun p => ?_
  split
  · exact emits_pure ()
  · exact (emits_write rfl).after fun _ => emits_write rfl

theorem emits_ask {shape : Shape} (q : Query shape) :
    Emits [] front (ask q : Run σ (Option shape.Value)) := by
  refine (emits_step (.ask q) q.perform_tracks).after fun result => ?_
  cases result with
  | ok value => exact emits_pure value
  | error e =>
    cases e with
    | componentNotFound c => exact (emits_recordMissing c).after fun _ => emits_pure none
    | _ => exact (emits_write rfl).after fun _ => emits_pure none

/-- A part that goes by the data of a query. -/
theorem Emits.asking {shape : Shape} {q : Query shape} {c : Component}
    {f : Option shape.Value → Run σ β} (hq : q.component? = some c)
    (hnone : Emits labels front (f none))
    (hsome : ∀ v, q.Carries v → Emits labels front (f (some v))) :
    Emits labels front (ask q >>= f) := by
  intro hlabels d p hp
  have hask : Added [] front p (ask q d p).2 := emits_ask q .nil d p hp
  suffices hrest : Added labels front (ask q d p).2 (f (ask q d p).1 d (ask q d p).2).2 from
    hask.trans hrest hlabels
  obtain ⟨held, hheld⟩ := hp
  cases hvalue : (ask q d p).1 with
  | none => exact hnone hlabels d _ hask.holds
  | some v =>
    rw [ask_value] at hvalue
    exact hsome v (Query.carries_perform hheld hq (eq_of_toOption_join hvalue) v rfl)
      hlabels d _ hask.holds

theorem emits_unlessSkipped (c : Component) {part : Run σ Unit} (h : Emits labels front part) :
    Emits labels front (unlessSkipped c part) := by
  refine emits_get fun p => ?_
  split
  · exact emits_pure ()
  · exact h

theorem emits_ifStatistics {part : Run σ Unit} (h : Emits labels front part) :
    Emits labels front (ifStatistics part) := by
  refine emits_get fun p => ?_
  split
  · exact h
  · exact emits_pure ()

/-! ## What queries report -/

/-- A collection that is reported. -/
theorem emits_entities {q : Query .entities} {c : Component}
    (hq : q.component? = some c) (series : Series) (tags : List String) :
    Emits (series.label :: q.labels) tags
      (reportEntities q series tags : Run σ (KeyMap Entity)) := by
  refine .asking hq (emits_pure _) fun entities hcarries => ?_
  exact (emits_emit fun hlabels => series.distinct_gauges hcarries.1 tags hlabels).before fun _ =>
    emits_pure entities

theorem emits_listing (l : Listing) (series : Series) (tags : List String) :
    Emits (series.label :: l.form.spec.labels) tags (reportListing l series tags : Run σ Unit) :=
  (emits_entities (q := .listing l) rfl series tags).before fun _ => emits_pure ()

theorem emits_figures {q : Query .figures} {c : Component} (hq : q.component? = some c)
    (tags : List String) : Emits q.labels tags (reportFigures q tags : Run σ Unit) :=
  .asking hq (emits_pure ()) fun _ hcarries => emits_emit fun _ => distinct_gauges hcarries tags

/-! ## Sections without a project -/

/-- A component is timed once. -/
theorem emits_responseTime (c : Component) :
    Emits [(c, "response_time")] [] (reportResponseTime c : Run σ Unit) := by
  refine (emits_step _ (Step.tracks_probe _)).after fun result => ?_
  have hcheck : ∀ status, Emits (σ := σ) [] [] (emitCheck c status) := fun _ =>
    emits_get fun _ => emits_write rfl
  cases result with
  | ok elapsed =>
    cases elapsed with
    | none => exact emits_pure ()
    | some elapsed =>
      refine (emits_emit fun _ => .single ⟨_, List.mem_singleton_self _, ?_⟩ List.nil_prefix).before
        fun _ => hcheck .ok
      rw [Label.name, String.append_assoc]
      rfl
  | error e =>
    have hdown : ∀ n, Emits (σ := σ) [(c, "response_time")] [] (do
        note n
        skip c
        emitCheck c .critical) := fun _ =>
      (emits_write rfl).after fun _ => (emits_skip c).before fun _ => hcheck .critical
    cases e with
    | componentNotFound c' => exact emits_recordMissing c'
    | _ => exact hdown _

/-- What the section of identity emits. -/
def identityLabels : List Label :=
  (Series.domains.label :: Spec.domains.labels) ++
    ((Series.projects.label :: Spec.projects.labels) ++
    ((Series.users.label :: Spec.users.labels) ++ ((Series.groups.label :: Spec.groups.labels) ++
      ([(.identity, "groups.users")] ++ ((Series.services.label :: Spec.services.labels) ++
        (Series.limits.label :: Spec.identityLimits.labels))))))

theorem emits_membership (groups : KeyMap Entity) :
    Emits [(.identity, "groups.users")] [] (reportMembership groups : Run σ Unit) := by
  refine emits_get fun p => ?_
  split
  · refine emits_forEach (fun group => tag "group_id" group.1) ?_ fun group _ => ?_
    · have hkeys := groups.nodup_keys
      exact List.pairwise_map.2 ((List.pairwise_map.1 hkeys).imp
        fun hne heq => hne (tag_injective heq))
    · refine .asking (q := .listing (.groupUsers group.1)) rfl (emits_pure ()) fun users _ => ?_
      refine emits_emit fun _ => .single ⟨_, List.mem_singleton_self _, ?_⟩ ⟨_, rfl⟩
      rfl
  · exact emits_pure ()

theorem emits_identity : Emits identityLabels [] (reportIdentity : Run σ Unit) := by
  refine emits_unlessSkipped _ ?_
  refine (emits_listing .domains _ _).bind fun _ => ?_
  refine (emits_listing .projects _ _).bind fun _ => ?_
  refine (emits_listing .users _ _).bind fun _ => ?_
  refine (emits_entities (q := .listing .groups) rfl _ _).bind fun groups => ?_
  refine (emits_membership groups).bind fun _ => ?_
  refine (emits_listing .services _ _).bind fun _ => ?_
  exact (emits_entities (q := .identityLimits) rfl _ _).before fun _ => emits_pure ()

/-- What the section of compute emits. -/
def computeLabels : List Label :=
  Spec.computeLimits.labels ++ ((Series.computeServices.label :: Spec.computeServices.labels) ++
    ((Series.flavors.label :: Spec.flavors.labels) ++
      ((Series.hypervisors.label :: Spec.hypervisors.labels) ++ [Series.aggregates.label])))

theorem emits_compute : Emits computeLabels [] (reportCompute : Run σ Unit) := by
  refine emits_unlessSkipped _ ?_
  refine (emits_figures (q := .computeLimits) rfl _).bind fun _ => ?_
  refine (emits_listing .computeServices _ _).bind fun _ => ?_
  refine (emits_listing .flavors _ _).bind fun _ => ?_
  exact (emits_listing .hypervisors _ _).bind fun _ => emits_listing .aggregates _ _

/-- What the section of baremetal emits. -/
def baremetalLabels : List Label :=
  (Series.nodes.label :: Spec.nodes.labels) ++ (Series.conductors.label :: Spec.conductors.labels)

theorem emits_baremetal : Emits baremetalLabels [] (reportBaremetal : Run σ Unit) :=
  emits_unlessSkipped _ ((emits_listing .nodes _ _).bind fun _ => emits_listing .conductors _ _)

/-- What the sections without a project emit. -/
def componentLabels : List Label :=
  identityLabels ++ (computeLabels ++ ((Series.agents.label :: Spec.agents.labels) ++
    (baremetalLabels ++ [Series.amphorae.label])))

theorem emits_components : Emits componentLabels [] (reportComponents : Run σ Unit) := by
  refine emits_identity.bind fun _ => emits_compute.bind fun _ => ?_
  refine (emits_unlessSkipped .network (emits_listing .agents _ _)).bind fun _ => ?_
  exact emits_baremetal.bind
    fun _ => emits_unlessSkipped .loadBalancer (emits_listing .amphorae _ _)

/-- What is emitted before the projects. -/
def globalLabels : List Label :=
  Component.all.flatMap (fun c => [(c, "response_time")]) ++ componentLabels

theorem emits_global : Emits globalLabels [] (reportGlobal : Run σ Unit) :=
  (emits_forEach_labels fun c _ => emits_responseTime c).bind fun _ => emits_components

/-! ## Sections of a project -/

/-- What is emitted of an amphora's traffic. -/
def amphoraLabels : List Label := Series.amphoraListeners.label :: Spec.amphoraTraffic.labels

/-- What belongs to one load balancer, behind the tag of its identifier. -/
theorem emits_balancer (tags : List String) (balancer : String) :
    Emits (Spec.loadBalancerTraffic.labels ++ amphoraLabels)
      (tags ++ [tag "loadbalancer_id" balancer]) (reportBalancer tags balancer : Run σ Unit) := by
  refine (emits_ifStatistics (emits_figures (q := .loadBalancerStatistics balancer) rfl _)).bind
    fun _ => ?_
  refine .asking (q := .listing (.amphoraeOf balancer)) rfl (emits_pure ()) fun amphorae _ => ?_
  refine emits_ifStatistics (emits_forEach (tag "amphora_id") ?_ fun amphora _ => ?_)
  · exact List.pairwise_map.2 (amphorae.nodup_keys.imp fun hne heq => hne (tag_injective heq))
  · exact emits_listing (.amphoraStatistics amphora) _ _

/-- What the load balancer keeps for a project. -/
def balancerLabels : List Label :=
  (Series.loadBalancers.label :: Spec.loadBalancers.labels) ++
    ((Spec.loadBalancerTraffic.labels ++ amphoraLabels) ++
      ((Series.listeners.label :: Spec.listeners.labels) ++ (Spec.listenerTraffic.labels ++
        ((Series.pools.label :: Spec.pools.labels) ++
          ((Series.members.label :: Spec.members.labels) ++
          (Series.healthMonitors.label :: Spec.healthMonitors.labels))))))

theorem emits_balancers (project : String) (tags : List String) :
    Emits balancerLabels tags (reportBalancers project tags : Run σ Unit) := by
  have hmarks : ∀ (key : String) (entities : KeyMap Entity), (entities.keys.map (tag key)).Nodup :=
    fun key entities =>
      List.pairwise_map.2 (entities.nodup_keys.imp fun hne heq => hne (tag_injective heq))
  refine (emits_entities (q := .listing (.loadBalancers project)) rfl _ _).bind fun balancers => ?_
  refine (emits_forEach _ (hmarks _ balancers) fun balancer _ => emits_balancer tags balancer).bind
    fun _ => ?_
  refine (emits_entities (q := .listing (.listeners project)) rfl _ _).bind fun listeners => ?_
  refine (emits_ifStatistics (emits_forEach _ (hmarks _ listeners) fun listener _ =>
    emits_figures (q := .listenerStatistics listener) rfl _)).bind fun _ => ?_
  refine (emits_entities (q := .listing (.pools project)) rfl _ _).bind fun pools => ?_
  refine (emits_forEach _ (hmarks _ pools) fun pool _ =>
    emits_listing (.members project pool) _ _).bind
    fun _ => ?_
  exact emits_listing (.healthMonitors project) _ _

/-- What compute keeps for a project. -/
def serversLabels : List Label :=
  (Series.quotaSets.label :: Spec.quotaSets.labels) ++ (Series.servers.label :: Step.serverLabels)

theorem emits_servers (project : String) (tags : List String) :
    Emits serversLabels tags (reportServers project tags : Run σ Unit) :=
  (emits_entities (q := .quotaSet project) rfl _ _).bind fun _ =>
    (emits_entities (q := .servers project) rfl _ _).before fun _ => emits_pure ()

/-- A project has one network quota at most, so that its figures need no tag of their own. -/
theorem emits_networkQuotas (project : String) (tags : List String) :
    Emits Spec.networkQuotas.labels tags (reportNetworkQuotas project tags : Run σ Unit) := by
  refine .asking (q := .networkQuotas project) rfl (emits_pure ()) fun quotas hcarries => ?_
  obtain ⟨hlabeled, hsmall⟩ := hcarries
  have hsize : quotas.entries.length ≤ 1 := hsmall project rfl
  obtain ⟨_ | ⟨quota, _ | ⟨other, rest⟩⟩, hordered⟩ := quotas
  · exact emits_pure ()
  · refine (emits_emit fun _ => ?_).before fun _ => emits_pure ()
    exact distinct_gauges (hlabeled quota (List.mem_singleton_self _)) tags
  · simp at hsize

/-- What the section of a project emits. -/
def projectLabels : List Label := serversLabels ++ (Spec.networkQuotas.labels ++ balancerLabels)

/-- The section of a project has the tag of its identifier. -/
theorem emits_project (project : AuthProject) :
    Emits projectLabels ([] ++ [tag "project_id" project.id])
      (reportProject project : Run σ Unit) := by
  have hchoose : ∀ front, Emits (σ := σ) [] front (chooseProject (some project.id)) := fun front =>
    (emits_step _ (Step.tracks_setProject (P := fun _ _ _ => True) (some project.id))).after
      fun _ => emits_pure ()
  refine (hchoose _).after fun _ =>
    (emits_step .authorize (Step.tracks_login .authorize)).after fun result => ?_
  cases result with
  | error e => exact emits_write rfl
  | ok _ =>
    refine Emits.shorten (tag "project_name" project.name) ?_
    refine (emits_unlessSkipped .compute (emits_servers _ _)).bind fun _ => ?_
    refine (emits_unlessSkipped .network (emits_networkQuotas _ _)).bind fun _ => ?_
    exact emits_unlessSkipped .loadBalancer (emits_balancers _ _)

/-! ## The whole -/

/-- The labels of a run are all different. -/
theorem labels_nodup : (globalLabels ++ projectLabels).Nodup := by decide +kernel

theorem projectLabels_nodup : projectLabels.Nodup := (List.nodup_append.1 labels_nodup).2.1

end Run

/-- Whether an event that answers with a list of projects names no project twice. -/
def Event.ListsDistinct (url : String) : Event → Prop
  | .exchange .projectList _ answer =>
    ∀ projects, AuthProject.ofAnswer url answer = .ok projects → (projects.map (·.id)).Nodup
  | _ => True

instance (url : String) : (event : Event) → Decidable (event.ListsDistinct url)
  | .exchange .projectList _ answer =>
    match hlisted : AuthProject.ofAnswer url answer with
    | .error _ => isTrue fun _ h => nomatch hlisted.symm.trans h
    | .ok projects => decidable_of_iff (projects.map (·.id)).Nodup
        ⟨fun h _ h' => Except.ok.inj (hlisted.symm.trans h') ▸ h, fun h => h projects hlisted⟩
  | .exchange .authorization _ _ | .exchange (.polling _) _ _ | .notice _ => isTrue trivial

namespace Run

variable {σ : Type}

/-- The sections of projects that are listed once each. -/
theorem added_projects {d : Deployment σ} {p : Progress σ} (hp : ∃ held, p.session.Holds held)
    (hdistinct : ∀ event ∈ (reportProjects d p).2.trace,
      event.ListsDistinct p.session.config.projectsUrl) :
    Added projectLabels [] p (reportProjects d p).2 := by
  have hask : Added [] [] p (ask .authProjects d p).2 := emits_ask .authProjects .nil d p hp
  suffices hrest : Added projectLabels [] (ask .authProjects d p).2 (reportProjects d p).2 from
    hask.trans hrest projectLabels_nodup
  have hchoose : Emits (σ := σ) [] [] (chooseProject none) :=
    (emits_step _ (Step.tracks_setProject (P := fun _ _ _ => True) none)).after
      fun _ => emits_pure ()
  cases hvalue : (ask .authProjects d p).1 with
  | none =>
    have hnone : (reportProjects d p).2 = (ask .authProjects d p).2 := by
      rw [reportProjects, bind_apply, hvalue]
      rfl
    rw [hnone]
    exact emits_pure () projectLabels_nodup d _ hask.holds
  | some projects =>
    have hsome : (reportProjects d p).2 =
        (chooseProject none d (forEach reportProject projects d
          (ask .authProjects d p).2).2).2 := by
      rw [reportProjects, bind_apply, hvalue]
      rfl
    rw [hsome] at hdistinct ⊢
    -- the answer that listed the projects is still in the journal at the end
    have hkeeps : ∀ project, Keeps (σ := σ)
        (fun p' => (∃ held, p'.session.Holds held) ∧
          (ask .authProjects d p).2.journal <+: p'.journal)
        (reportProject project) := by
      rintro project d p' ⟨hheld, hextends⟩
      have hproject := emits_project project projectLabels_nodup d p' hheld
      exact ⟨hproject.holds, hextends.trans hproject.extending⟩
    obtain ⟨hheld, hextends⟩ :=
      Keeps.forEach (fun project (_ : project ∈ projects) => hkeeps project) d _
      ⟨hask.holds, List.prefix_refl _⟩
    have hend := hchoose .nil d _ hheld
    have hids : (projects.map (·.id)).Nodup := by
      rw [ask_value] at hvalue
      obtain ⟨request, answer, hmem, hlisted⟩ :=
        Query.listed_of_perform (eq_of_toOption_join hvalue)
      refine hdistinct (.exchange .projectList request answer) ?_ projects hlisted
      obtain ⟨later, hlater⟩ := hextends.trans hend.extending
      rw [Progress.trace, ← hlater, eventsOf_append]
      refine List.mem_append_left _ ?_
      obtain ⟨remarks, hremarks⟩ := ask_extends .authProjects d p
      rw [← hremarks, eventsOf_append]
      refine List.mem_append_left _ ?_
      change _ ∈ Progress.trace _
      rw [Progress.trace_after]
      exact List.mem_append_right _ hmem
    have hrounds : Added projectLabels [] (ask .authProjects d p).2
        (forEach reportProject projects d (ask .authProjects d p).2).2 := by
      refine emits_forEach (fun project => tag "project_id" project.id) ?_
        (fun project _ => emits_project project) projectLabels_nodup d _ hask.holds
      exact List.pairwise_map.2 ((List.pairwise_map.1 hids).imp
        fun hne heq => hne (tag_injective heq))
    rw [← List.append_nil projectLabels]
    exact hrounds.trans hend (by rw [List.append_nil]; exact projectLabels_nodup)

/-- A whole run. -/
theorem added_deployment {d : Deployment σ} {p : Progress σ} (hp : ∃ held, p.session.Holds held)
    (hdistinct : ∀ event ∈ (reportDeployment d p).2.trace,
      event.ListsDistinct p.session.config.projectsUrl) :
    Added (globalLabels ++ projectLabels) [] p (reportDeployment d p).2 := by
  have hlogin : Added [] [] p (step .authorize Step.authorize d p).2 :=
    emits_step .authorize (Step.tracks_login .authorize) .nil d p hp
  have hnote : ∀ n, Emits (σ := σ) [] [] (note n) := fun _ => emits_write rfl
  cases hresult : (step .authorize Step.authorize d p).1 with
  | error e =>
    rw [reportDeployment_of_error hresult]
    have hlost : Emits (σ := σ) (globalLabels ++ projectLabels) [] (note (.loginFailed e)) :=
      emits_write rfl
    exact hlogin.trans (hlost labels_nodup d _ hlogin.holds) labels_nodup
  | ok _ =>
    rw [reportDeployment_of_ok hresult, reportAll_apply] at hdistinct ⊢
    have hnoted := hlogin.trans (hnote .loggedIn .nil d _ hlogin.holds) .nil
    have hlabels := (List.nodup_append.1 labels_nodup).1
    have hglobal := hnoted.trans (emits_global hlabels d _ hnoted.holds) hlabels
    rw [← hglobal.config] at hdistinct
    exact hglobal.trans (added_projects hglobal.holds hdistinct) labels_nodup

end Run

namespace Check

variable {σ : Type} {config : Config} {d : Deployment σ} {w : σ} {p : Progress σ}

/-- **No series is reported twice**: if no answer lists a project twice, no two metrics of a report
have the same name and the same tags. -/
theorem no_series_twice (hrun : run config d w = .ok p)
    (hdistinct : ∀ event ∈ p.trace, event.ListsDistinct p.session.config.projectsUrl) :
    (p.report.metrics.map Metric.series).Nodup := by
  obtain ⟨s, hnew, hkept⟩ := run_kept hrun
  rw [run_of_new hnew] at hrun
  obtain rfl := Except.ok.inj hrun
  rw [hkept.configured] at hdistinct
  obtain ⟨new, hmetrics, hdistinct⟩ :=
    (Run.added_deployment (p := start s w) ⟨none, Session.holds_new hnew⟩ hdistinct).metrics
  have hown : ((metricsOf (Run.reportDeployment d (start s w)).2.journal).map
      Metric.own).Nodup := by
    rw [hmetrics]
    exact hdistinct.nodup
  -- what differs behind the common tag differs
  exact List.pairwise_map.2 ((List.pairwise_map.1 hown).imp fun hne heq =>
    hne (congrArg (fun series => (series.1, series.2.tail)) heq))

end Check

/-- A deployment that lists two projects, and answers every query with the same quotas. -/
def Deployment.twoProjects : Deployment Unit := .stateless fun request =>
  match request.method with
  | .post =>
    .response 201 (some "token")
      (.json (.obj [("token", .obj [("catalog", Catalog.sample.toJson)])])) 0
  | .get =>
    .response 200 none (.json (.obj [
      ("projects", .arr [.obj [("id", .str "one"), ("name", .str "first")],
        .obj [("id", .str "two"), ("name", .str "second")]]),
      ("quota_set", .obj [("id", .str "quota"), ("cores", .int 4)])])) 0

/-- The quotas of both projects are reported, each with the tag of its project. -/
theorem Check.two_projects_apart :
    let p := (Run.reportDeployment .twoProjects (start .sample ())).2
    run .sample .twoProjects () = .ok p ∧
      (∀ event ∈ p.trace, event.ListsDistinct p.session.config.projectsUrl) ∧
      (p.report.metricsNamed Series.quotaSets.countName).length = 2 ∧
      (p.report.metrics.map Metric.series).Nodup := by
  intro p
  have hrun : run .sample .twoProjects () = .ok p := run_of_new Session.new_sample _ ()
  have hdistinct : ∀ event ∈ p.trace, event.ListsDistinct p.session.config.projectsUrl := by
    decide +kernel
  exact ⟨hrun, hdistinct, by decide +kernel, no_series_twice hrun hdistinct⟩

end StackWatch
