import StackWatch.Proofs.Growth

/-!
# What is written while a project is reported

A journal tells which project was reported when (`portionAfter`): a section of a project begins with
its choice, and no other is chosen until it ends. Where sections of different projects come in turn
(`Sectioned`), each is the portion of its project, and the metrics of all are those of one portion
after the other (`Sectioned.metrics`).
-/

namespace StackWatch

/-- The project that is reported, after an entry. -/
def Entry.projectAfter (chosen : Option String) : Entry → Option String
  | .operation op => op.projectAfter chosen
  | _ => chosen

/-- What is written while a project is reported, or none, after one was chosen. -/
def portionAfter (project : Option String) : Option String → List Entry → List Entry
  | _, [] => []
  | chosen, entry :: rest =>
    if entry.projectAfter chosen = project then entry ::
      portionAfter project (entry.projectAfter chosen) rest
    else portionAfter project (entry.projectAfter chosen) rest

namespace Progress

variable {σ : Type} (p : Progress σ)

/-- What a run wrote while it reported a project, or none. -/
def portion (project : Option String) : List Entry := portionAfter project none p.journal

/-- The metrics of a project, or of none. -/
def metricsFor (project : Option String) : List Metric := metricsOf (p.portion project)

end Progress

/-! ## Portions of parts -/

variable {project chosen : Option String} {entries later : List Entry}

/-- The project that is reported after several entries. -/
def chosenAfter (chosen : Option String) (entries : List Entry) : Option String :=
  entries.foldl Entry.projectAfter chosen

theorem portionAfter_append (project : Option String) :
    ∀ (chosen : Option String) (entries later : List Entry),
    portionAfter project chosen (entries ++ later) =
      portionAfter project chosen entries ++ portionAfter project (chosenAfter chosen entries) later
  | _, [], _ => rfl
  | chosen, entry :: rest, later => by
    have hrest := portionAfter_append project (entry.projectAfter chosen) rest later
    simp only [List.cons_append, portionAfter, hrest]
    split
    · rfl
    · rfl

theorem Steadfast.entry {entry : Entry} (h : Steadfast entries) (hentry : entry ∈ entries)
    (chosen : Option String) : entry.projectAfter chosen = chosen := by
  cases entry with
  | operation op => exact h op (List.mem_filterMap.2 ⟨_, hentry, rfl⟩) chosen
  | _ => rfl

/-- What chooses no project belongs to the one that was chosen before. By
induction on the entries. -/
theorem portionAfter_steadfast (project chosen : Option String) :
    ∀ {entries : List Entry}, Steadfast entries →
      portionAfter project chosen entries = (if chosen = project then entries else []) ∧
        chosenAfter chosen entries = chosen
  | [], _ => by simp [portionAfter, chosenAfter]
  | entry :: rest, h => by
    have hentry := h.entry (List.mem_cons_self ..) chosen
    have hrest : Steadfast rest := fun op hop => h op <| by
      cases entry <;> first | exact hop | exact List.mem_cons_of_mem _ hop
    obtain ⟨hportion, hchosen⟩ := portionAfter_steadfast project chosen hrest
    refine ⟨?_, ?_⟩
    · rw [portionAfter, hentry, hportion]
      split <;> rfl
    · rw [chosenAfter, List.foldl_cons, hentry]
      exact hchosen

/-! ## Sections in turn -/

/-- A section of a project: its choice, and what chooses no other. -/
def Entry.section (id : String) (entries : List Entry) : List Entry :=
  .operation (.setProject (some id)) :: entries

theorem portionAfter_section (id : String) (h : Steadfast entries)
    (project chosen : Option String) :
    portionAfter project chosen (Entry.section id entries) =
        (if some id = project then Entry.section id entries else []) ∧
      chosenAfter chosen (Entry.section id entries) = some id := by
  obtain ⟨hportion, hchosen⟩ := portionAfter_steadfast project (some id) h
  refine ⟨?_, hchosen⟩
  change (if some id = project then _ :: portionAfter project (some id) entries
    else portionAfter project (some id) entries) = _
  rw [hportion]
  split <;> rfl

/-- Sections of projects in turn, which tell nothing of any component. -/
inductive Sectioned : List String → List Entry → Prop where
  | nil : Sectioned [] []
  | cons {id : String} {rest : List String} {entries later : List Entry} (h : Quiet entries)
      (hlater : Sectioned rest later) : Sectioned (id :: rest) (Entry.section id entries ++ later)

namespace Sectioned

variable {ids ids' : List String} {id : String}

theorem append (h : Sectioned ids entries) (h' : Sectioned ids' later) :
    Sectioned (ids ++ ids') (entries ++ later) := by
  induction h with
  | nil => exact h'
  | cons hquiet _ ih =>
    rw [List.append_assoc]
    exact .cons hquiet ih

theorem single (h : Quiet entries) : Sectioned [id] (Entry.section id entries) := by
  rw [← List.append_nil (Entry.section id entries)]
  exact .cons h .nil

/-- Nothing is told of any component. -/
theorem quiet_views (h : Sectioned ids entries) :
    checksOf entries = [] ∧ missingOf entries = [] ∧ skippedOf entries = [] := by
  induction h with
  | nil => exact ⟨rfl, rfl, rfl⟩
  | cons hquiet _ ih =>
    obtain ⟨hchecks, hmissing, hskipped⟩ := ih
    simp only [checksOf_append, missingOf_append, skippedOf_append, hchecks, hmissing,
      hskipped, List.append_nil]
    exact ⟨hquiet.checks, hquiet.missing, hquiet.skipped⟩

/-- A project that has no section has no portion. -/
theorem portion_eq_nil (h : Sectioned ids entries) (hproject : ∀ id ∈ ids, some id ≠ project) :
    ∀ chosen, portionAfter project chosen entries = [] := by
  induction h with
  | nil => exact fun _ => rfl
  | cons hquiet _ ih =>
    intro chosen
    obtain ⟨hfirst, hchosen⟩ := portionAfter_section _ hquiet.project project chosen
    rw [portionAfter_append, hfirst, hchosen, if_neg (hproject _ (List.mem_cons_self ..)),
      ih fun id hid => hproject id (List.mem_cons_of_mem _ hid)]
    rfl

/-- **The section of a project** between others is its portion. -/
theorem portion_eq (id : String) {before after : List String} {earlier : List Entry}
    (hbefore : Sectioned before earlier) (h : Quiet entries) (hafter : Sectioned after later)
    (hid : id ∉ before) (hid' : id ∉ after) (chosen : Option String) :
    portionAfter (some id) chosen (earlier ++ (Entry.section id entries ++ later)) =
      Entry.section id entries := by
  have hne : ∀ {ids : List String}, id ∉ ids → ∀ id' ∈ ids, some id' ≠ some id :=
    fun hnot id' hid' heq => hnot (Option.some.inj heq ▸ hid')
  obtain ⟨hown, -⟩ := portionAfter_section id h.project (some id) (chosenAfter chosen earlier)
  rw [portionAfter_append, hbefore.portion_eq_nil (hne hid), portionAfter_append, hown,
    hafter.portion_eq_nil (hne hid'), if_pos rfl]
  simp

/-- **All metrics** are those of one portion after the other. -/
theorem metrics (h : Sectioned ids entries) (hids : ids.Nodup) : ∀ chosen,
    metricsOf entries = ids.flatMap
      fun id => metricsOf (portionAfter (some id) chosen entries) := by
  induction h with
  | nil => exact fun _ => rfl
  | @cons id rest entries later hquiet hlater ih =>
    intro chosen
    obtain ⟨hfirst, hrest⟩ := List.nodup_cons.1 hids
    have hown := portion_eq id .nil hquiet hlater List.not_mem_nil hfirst chosen
    rw [List.nil_append] at hown
    have hothers : ∀ id' ∈ rest,
        metricsOf (portionAfter (some id') chosen (Entry.section id entries ++ later)) =
        metricsOf (portionAfter (some id') (some id) later) := by
      intro id' hid'
      have hne : some id ≠ some id' := fun heq => hfirst (Option.some.inj heq ▸ hid')
      obtain ⟨hportion, hchosen⟩ := portionAfter_section id hquiet.project (some id') chosen
      rw [portionAfter_append, hportion, hchosen, if_neg hne]
      rfl
    rw [List.flatMap_cons, hown, metricsOf_append, ih hrest (some id),
      List.flatMap_def, List.flatMap_def, List.map_congr_left hothers]

/-- What is written in sections is written in one of them. -/
theorem mem_portion (h : Sectioned ids entries) {entry : Entry}
    (hentry : entry ∈ entries) : ∀ chosen,
    ∃ id ∈ ids, entry ∈ portionAfter (some id) chosen entries := by
  induction h with
  | nil => cases hentry
  | @cons id rest entries later hquiet hlater ih =>
    intro chosen
    have hsplit : ∀ project, portionAfter project chosen (Entry.section id entries ++ later) =
        (if some id = project then Entry.section id entries else []) ++
          portionAfter project (some id) later := by
      intro project
      obtain ⟨hportion, hchosen⟩ := portionAfter_section id hquiet.project project chosen
      rw [portionAfter_append, hportion, hchosen]
    rcases List.mem_append.1 hentry with hentry | hentry
    · refine ⟨id, List.mem_cons_self .., ?_⟩
      rw [hsplit, if_pos rfl]
      exact List.mem_append_left _ hentry
    · obtain ⟨id', hid', hmem⟩ := ih hentry (some id)
      refine ⟨id', List.mem_cons_of_mem _ hid', ?_⟩
      rw [hsplit]
      exact List.mem_append_right _ hmem

/-- What is asked for in sections is asked for in one of them. -/
theorem mem_urls (h : Sectioned ids entries) {config : Config} {catalog : Catalog} {url : String}
    (hurl : url ∈ urlsOf config catalog entries) (chosen : Option String) :
    ∃ id ∈ ids, url ∈ urlsOf config catalog (portionAfter (some id) chosen entries) := by
  obtain ⟨op, hop, hmem⟩ := List.mem_flatMap.1 hurl
  obtain ⟨entry, hentry, hoperation⟩ := List.mem_filterMap.1 hop
  obtain ⟨id, hid, hportion⟩ := h.mem_portion hentry chosen
  exact ⟨id, hid, List.mem_flatMap.2 ⟨op, List.mem_filterMap.2 ⟨entry, hportion, hoperation⟩, hmem⟩⟩

end Sectioned

/-! ## Runs in sections -/

/-- A run that chose no project at first, then reported some in turn, and chose none in the end. -/
structure Progress.InSections {σ : Type} (p : Progress σ) (ids : List String)
    (opening sections : List Entry) : Prop where
  journal : p.journal = opening ++ (sections ++ [.operation (.setProject none)])
  steadfast : Steadfast opening
  sectioned : Sectioned ids sections

namespace Progress.InSections

variable {σ : Type} {p : Progress σ} {ids : List String} {opening sections : List Entry}

/-- What it wrote while it reported a project. -/
theorem portion_some (h : p.InSections ids opening sections) (id : String) :
    p.portion (some id) = portionAfter (some id) none sections := by
  obtain ⟨hopening, hchosen⟩ := portionAfter_steadfast (some id) none h.steadfast
  have hend : ∀ chosen, portionAfter (some id) chosen [.operation (.setProject none)] = [] :=
    fun _ => rfl
  rw [portion, h.journal, portionAfter_append, portionAfter_append, hopening, hchosen,
    hend, List.append_nil]
  rfl

/-- What it wrote while it reported none. -/
theorem portion_none (h : p.InSections ids opening sections) :
    p.portion none = opening ++ [.operation (.setProject none)] := by
  obtain ⟨hopening, hchosen⟩ := portionAfter_steadfast none none h.steadfast
  have hend : ∀ chosen, portionAfter none chosen [.operation (.setProject none)] =
      [.operation (.setProject none)] := fun _ => rfl
  rw [portion, h.journal, portionAfter_append, portionAfter_append, hopening, hchosen, hend,
    h.sectioned.portion_eq_nil fun _ _ => Option.some_ne_none _]
  rfl

/-- All that it reported, one project after the other. -/
theorem metrics (h : p.InSections ids opening sections) (hids : ids.Nodup) :
    p.report.metrics = p.metricsFor none ++ ids.flatMap fun id => p.metricsFor (some id) := by
  have hprojects : (ids.flatMap fun id => p.metricsFor (some id)) = metricsOf sections := by
    rw [h.sectioned.metrics hids none]
    exact congrArg (ids.flatMap ·) (funext fun id => congrArg metricsOf (h.portion_some id))
  change metricsOf p.journal = metricsOf (p.portion none) ++ _
  rw [hprojects, h.portion_none, h.journal]
  simp only [metricsOf_append, List.append_assoc]
  exact congrArg _ (List.append_nil _)

/-- Of the components it told while it reported no project. -/
theorem views (h : p.InSections ids opening sections) :
    p.report.serviceChecks = checksOf opening ∧ p.report.missing = missingOf opening ∧
      p.metricsFor none = metricsOf opening := by
  obtain ⟨hchecks, hmissing, -⟩ := h.sectioned.quiet_views
  refine ⟨?_, ?_, ?_⟩
  · change checksOf p.journal = _
    rw [h.journal, checksOf_append, checksOf_append, hchecks]
    exact List.append_nil _
  · change missingOf p.journal = _
    rw [h.journal, missingOf_append, missingOf_append, hmissing]
    exact List.append_nil _
  · rw [metricsFor, h.portion_none, metricsOf_append]
    exact List.append_nil _

end Progress.InSections

end StackWatch
