import StackWatch.Check.Report
import StackWatch.Resource.Collect

/-!
# Metrics and the component they are about

The name of a metric begins with the namespace of a component (`Component.Names`), and of no
other: `names_unique`. Wherever metrics are made, out of an object by a specification or out of
entities by a series, they stay in the namespace of the component whose specification or series it
is. Their names have a noun and a field there (`Component.Details`), which tells them from the
response time of the component.
-/

namespace StackWatch

/-! ## Entries of a map -/

namespace KeyMap

variable {α : Type} {entry : String × α}

/-- An entry of a map that was filled from a list comes from the list, if it was not there before.
By induction on the list. -/
theorem mem_insertMany {entries : List (String × α)} :
    ∀ {m : KeyMap α}, entry ∈ (m.insertMany entries).entries →
      entry ∈ m.entries ∨ entry ∈ entries := by
  induction entries with
  | nil =>
    intro m h
    exact .inl h
  | cons first rest ih =>
    intro m h
    rw [insertMany_cons] at h
    rcases ih h with h | h
    · rcases mem_insertEntry h with h | h
      · exact .inr (by simp [h])
      · exact .inl h
    · exact .inr (List.mem_cons_of_mem _ h)

theorem mem_ofList {entries : List (String × α)} (h : entry ∈ (ofList entries).entries) :
    entry ∈ entries := by
  rcases mem_insertMany h with h | h
  · cases h
  · exact h

theorem mem_union {m n : KeyMap α} (h : entry ∈ (m.union n).entries) :
    entry ∈ m.entries ∨ entry ∈ n.entries :=
  mem_insertMany h

end KeyMap

/-! ## Namespaces -/

/-- Whether a metric of this name is one of the component's. -/
def Component.Names (c : Component) (name : String) : Prop := ∃ rest, name = c.space ++ "." ++ rest

namespace Component

/-- Where two texts before a point are free of points, the points stand at one place. -/
theorem eq_of_append_point {a b : List Char} (ha : '.' ∉ a) (hb : '.' ∉ b) :
    ∀ {r r' : List Char}, a ++ '.' :: r = b ++ '.' :: r' → a = b := by
  induction a generalizing b with
  | nil =>
    intro r r' h
    cases b with
    | nil => rfl
    | cons y b =>
      obtain ⟨rfl, -⟩ := List.cons.inj h
      simp at hb
  | cons x a ih =>
    intro r r' h
    cases b with
    | nil =>
      obtain ⟨rfl, -⟩ := List.cons.inj h
      simp at ha
    | cons y b =>
      obtain ⟨rfl, htail⟩ := List.cons.inj h
      have ha' : '.' ∉ a := fun hx => ha (List.mem_cons_of_mem _ hx)
      have hb' : '.' ∉ b := fun hx => hb (List.mem_cons_of_mem _ hx)
      rw [ih ha' hb' htail]

theorem point_notMem_service (c : Component) : '.' ∉ c.service.toList := by
  cases c <;> decide

/-- No name is in the namespaces of two components. -/
theorem names_unique {c c' : Component} {name : String} (h : c.Names name) (h' : c'.Names name) :
    c = c' := by
  obtain ⟨rest, rfl⟩ := h
  obtain ⟨rest', h'⟩ := h'
  have hchars := congrArg String.toList h'
  simp only [space, String.toList_append, List.append_assoc, List.append_cancel_left_eq] at hchars
  have hservice : c.service.toList = c'.service.toList :=
    eq_of_append_point c.point_notMem_service c'.point_notMem_service hchars
  exact service_injective (String.toList_injective hservice)

theorem names_responseTime (c : Component) : c.Names c.responseTimeName :=
  ⟨"response_time", by rw [responseTimeName, String.append_assoc]; rfl⟩

theorem checkName_injective {c c' : Component} (h : c.checkName = c'.checkName) : c = c' := by
  have hnames : ∀ c : Component, c.Names c.checkName := fun c =>
    ⟨"api.up", by rw [checkName, String.append_assoc]; rfl⟩
  exact names_unique (hnames c) (h ▸ hnames c')

/-- Whether a metric of this name tells something of what the component keeps. -/
def Details (c : Component) (name : String) : Prop :=
  ∃ noun field, name = c.space ++ "." ++ noun ++ "." ++ field

theorem Details.names {c : Component} {name : String} (h : c.Details name) : c.Names name := by
  obtain ⟨noun, field, rfl⟩ := h
  exact ⟨noun ++ "." ++ field, by simp only [String.append_assoc]⟩

/-- The response time of a component is no detail of any: its name has two points, and that
of a detail has three. -/
theorem Details.ne_responseTime {c c' : Component} {name : String} (h : c.Details name) :
    name ≠ c'.responseTimeName := by
  obtain ⟨noun, field, rfl⟩ := h
  intro heq
  have hspace : ∀ c : Component, c.space.toList.count '.' = 1 := fun c => by cases c <;> decide
  have hpoints := congrArg (fun name : String => name.toList.count '.') heq
  simp [responseTimeName, hspace] at hpoints
  omega

/-- Whether all metrics of a map are details of the component. -/
def NamesAll (c : Component) (figures : KeyMap Float) : Prop := ∀ f ∈ figures.entries, c.Details f.1

end Component

/-! ## Names of metrics -/

/-- What the name of a metric is made of: a component, and what is told of it. -/
abbrev Label := Component × String

/-- The name that a label makes. -/
def Label.name (l : Label) : String := l.1.space ++ "." ++ l.2

theorem Label.name_injective {l l' : Label} (h : l.name = l'.name) : l = l' := by
  obtain ⟨c, rest⟩ := l
  obtain ⟨c', rest'⟩ := l'
  have hnames : c.Names (c.space ++ "." ++ rest) := ⟨rest, rfl⟩
  have hnames' : c'.Names (c.space ++ "." ++ rest) := ⟨rest', h⟩
  obtain rfl := Component.names_unique hnames hnames'
  have hrest : rest = rest' := by
    have hchars := congrArg String.toList h
    simp only [name, String.toList_append, List.append_cancel_left_eq] at hchars
    exact String.toList_injective hchars
  rw [hrest]

/-- The labels of the metrics that a specification makes. -/
def Spec.labels (spec : Spec) : List Label :=
  spec.fields.map fun field => (spec.component, spec.noun ++ "." ++ field)

/-- The label of the count of a collection. -/
def Series.label (s : Series) : Label := (s.component, s.noun ++ ".count")

theorem Series.name_label (s : Series) : s.label.name = s.countName := by
  simp only [label, Label.name, countName, String.append_assoc]

theorem Spec.name_mem_labels {spec : Spec} {field : String} (h : field ∈ spec.fields) :
    ∃ l ∈ spec.labels, spec.metricName field = l.name := by
  refine ⟨_, List.mem_map_of_mem h, ?_⟩
  simp only [metricName, stem, Label.name, String.append_assoc]

/-- Whether the metrics of a map have labels of a list. -/
def KeyMap.Labeled (labels : List Label) (figures : KeyMap Float) : Prop :=
  ∀ f ∈ figures.entries, ∃ l ∈ labels, f.1 = l.name

/-- Whether the metrics of all entities have labels of a list. -/
def KeyMap.EachLabeled (labels : List Label) (entities : KeyMap Entity) : Prop :=
  ∀ e ∈ entities.entries, e.2.metrics.Labeled labels

/-- Labels that tell something of what a component keeps. -/
def Component.Covers (c : Component) (labels : List Label) : Prop :=
  ∀ l ∈ labels, l.1 = c ∧ ∃ noun field, l.2 = noun ++ "." ++ field

theorem Spec.covers_labels (spec : Spec) : spec.component.Covers spec.labels := by
  intro l hl
  obtain ⟨field, -, rfl⟩ := List.mem_map.1 hl
  exact ⟨rfl, spec.noun, field, rfl⟩

theorem KeyMap.Labeled.names {c : Component} {labels : List Label} {figures : KeyMap Float}
    (h : figures.Labeled labels) (hlabels : c.Covers labels) : c.NamesAll figures := by
  intro f hf
  obtain ⟨l, hl, hname⟩ := h f hf
  obtain ⟨rfl, noun, field, hrest⟩ := hlabels l hl
  refine ⟨noun, field, ?_⟩
  rw [hname, Label.name, hrest]
  simp only [String.append_assoc]

namespace KeyMap.Labeled

variable {labels labels' : List Label} {figures figures' : KeyMap Float}

theorem mono (h : figures.Labeled labels) (hsub : labels ⊆ labels') : figures.Labeled labels' :=
  fun f hf =>
    let ⟨l, hl, hname⟩ := h f hf
    ⟨l, hsub hl, hname⟩

/-- Metrics that are added to an entity are its own. -/
theorem union (h : figures.Labeled labels) (h' : figures'.Labeled labels) :
    (figures.union figures').Labeled labels := by
  intro f hf
  rcases KeyMap.mem_union hf with hf | hf
  · exact h f hf
  · exact h' f hf

end KeyMap.Labeled

/-! ## Metrics of an object -/

/-- A specification makes metrics with its own labels. -/
theorem Spec.labeled_project (spec : Spec) (lens : Lens) (object : Json) :
    (spec.project lens object).Labeled spec.labels := by
  intro f hf
  obtain ⟨leaf, -, hleaf⟩ := List.mem_filterMap.1 (KeyMap.mem_ofList hf)
  unfold entry? at hleaf
  dsimp only at hleaf
  split at hleaf
  · rename_i hfield
    obtain ⟨x, -, rfl⟩ := Option.map_eq_some_iff.1 hleaf
    exact name_mem_labels (List.contains_iff_mem.1 hfield)
  · cases hleaf

/-- Attributes that are derived from an object add no metrics to its entity. -/
theorem Form.entity_metrics (form : Form) (object : Json) :
    (form.entity object).metrics = form.spec.project form.lens object := by
  have hfold : ∀ (derived : List (String × (Json → Json))) (e : Entity),
      (derived.foldl (fun e d => e.withAttribute d.1 (d.2 object)) e).metrics = e.metrics := by
    intro derived
    induction derived with
    | nil => exact fun _ => rfl
    | cons d rest ih => exact fun e => ih _
  exact hfold form.derived _

theorem Form.labeled_entity (form : Form) (object : Json) :
    (form.entity object).metrics.Labeled form.spec.labels := by
  rw [entity_metrics]
  exact form.spec.labeled_project _ _

theorem Listing.form_component (l : Listing) : l.form.spec.component = l.component := by
  cases l <;> rfl

/-! ## Metrics of entities -/

/-- Whether all metrics of all entities are the component's. -/
def Component.NamesEvery (c : Component) (entities : KeyMap Entity) : Prop :=
  ∀ e ∈ entities.entries, c.NamesAll e.2.metrics

namespace KeyMap.EachLabeled

variable {labels : List Label}

theorem empty : KeyMap.EachLabeled labels .empty := fun _ h => absurd h List.not_mem_nil

theorem ofList {entries : List (String × Entity)} (h : ∀ e ∈ entries, e.2.metrics.Labeled labels) :
    KeyMap.EachLabeled labels (.ofList entries) := fun e he => h e (KeyMap.mem_ofList he)

theorem union {m n : KeyMap Entity} (hm : m.EachLabeled labels) (hn : n.EachLabeled labels) :
    (m.union n).EachLabeled labels := by
  intro e he
  rcases KeyMap.mem_union he with he | he
  · exact hm e he
  · exact hn e he

theorem names {c : Component} {entities : KeyMap Entity} (h : entities.EachLabeled labels)
    (hlabels : c.Covers labels) : c.NamesEvery entities := fun e he => (h e he).names hlabels

end KeyMap.EachLabeled

/-- The entities that a collection comes to are those of its items. By induction on the items. -/
theorem entity_of_mem_entriesOf {identify : Json → Except ApiError (Option String)}
    {entity : Json → Entity} : ∀ {items : List Json} {entries : List (String × Entity)},
      entriesOf identify entity items = .ok entries → ∀ e ∈ entries, ∃ item, e.2 = entity item := by
  intro items
  induction items with
  | nil =>
    intro entries h e he
    obtain rfl := Except.ok.inj h
    cases he
  | cons item rest ih =>
    intro entries h e he
    unfold entriesOf at h
    split at h
    · cases h
    · split at h
      · cases h
      · rename_i later hlater
        obtain rfl := Except.ok.inj h
        split at he
        · rcases List.mem_cons.1 he with rfl | he
          · exact ⟨item, rfl⟩
          · exact ih hlater e he
        · exact ih hlater e he

theorem Form.labeled_collect {form : Form} {identify : Json → Except ApiError (Option String)}
    {items : List Json} {entities : KeyMap Entity}
    (h : collect identify form.entity items = .ok entities) :
    entities.EachLabeled form.spec.labels := by
  unfold collect at h
  cases hentries : entriesOf identify form.entity items with
  | error e =>
    rw [hentries] at h
    cases h
  | ok entries =>
    rw [hentries] at h
    obtain rfl := Except.ok.inj h
    refine .ofList fun e he => ?_
    obtain ⟨item, hitem⟩ := entity_of_mem_entriesOf hentries e he
    rw [hitem]
    exact form.labeled_entity item

theorem details_gauges {c : Component} {figures : KeyMap Float} (h : c.NamesAll figures)
    (tags : List String) : ∀ m ∈ gauges figures tags, c.Details m.name := by
  intro m hm
  obtain ⟨f, hf, rfl⟩ := List.mem_map.1 hm
  exact h f hf

/-- What is reported of a collection is reported of the component that keeps it. -/
theorem Series.details_gauges {series : Series} {entities : KeyMap Entity}
    (h : series.component.NamesEvery entities) (tags : List String) :
    ∀ m ∈ series.gauges entities tags, series.component.Details m.name := by
  intro m hm
  rcases List.mem_cons.1 hm with rfl | hm
  · refine ⟨series.noun, "count", ?_⟩
    simp only [countName, String.append_assoc]
    rfl
  · obtain ⟨e, he, hm⟩ := List.mem_flatMap.1 hm
    exact StackWatch.details_gauges (h e he) _ m hm

end StackWatch
