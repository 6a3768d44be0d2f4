import StackWatch.Proofs.ProjectList

/-!
# What the sections of a run are made of

A section of a run is a composition of a few parts: a query of its component, what is emitted of the
data, a choice by the configuration, and these in turn (`Run.Part`). A `Run.Stretch` is made of
sections, each of which is passed over if its component is skipped. What comes before the projects
is such a stretch, once the components were timed (`Run.stretch_components`), and so is what is
reported of one project (`Run.stretch_resources`).

A property of stretches needs one proof for each constructor, and none for each section.
-/

namespace StackWatch

namespace Run

variable {σ : Type}

/-- What is made of queries of one component and of what is emitted. -/
inductive Part (c : Component) : {α : Type} → Run σ α → Prop where
  | pure {α : Type} (a : α) : Part c (pure a)
  | bind {α β : Type} {m : Run σ α} {f : α → Run σ β} (hm : Part c m) (hf : ∀ a, Part c (f a)) :
      Part c (m >>= f)
  | ask {shape : Shape} (q : Query shape) (hq : q.component? = some c) : Part c (ask q)
  | emit (metrics : List Metric) : Part c (emit metrics)
  /-- what is done if the configuration asks for it -/
  | configured (asks : Config → Bool) {m : Run σ Unit} (hm : Part c m) :
      Part c (get >>= fun p => if asks p.session.config then m else Run.pure ())

/-- What is made of sections. -/
inductive Stretch : {α : Type} → Run σ α → Prop where
  | pure {α : Type} (a : α) : Stretch (pure a)
  | bind {α β : Type} {m : Run σ α} {f : α → Run σ β} (hm : Stretch m) (hf : ∀ a, Stretch (f a)) :
      Stretch (m >>= f)
  | sectionOf (c : Component) {m : Run σ Unit} (hm : Part c m) : Stretch (unlessSkipped c m)

/-! ## Queries and what they report -/

section Parts

variable {c : Component}

/-- By induction on the items. -/
theorem part_forEach {ι : Type} {f : ι → Run σ Unit} (h : ∀ a, Part c (f a)) :
    ∀ items, Part c (forEach f items)
  | [] => .pure ()
  | a :: rest => (h a).bind fun _ => part_forEach h rest

theorem part_entities (q : Query .entities) (hq : q.component? = some c) (series : Series)
    (tags : List String) : Part (σ := σ) c (reportEntities q series tags) := by
  refine (Part.ask q hq).bind fun value => ?_
  cases value with
  | none => exact .pure _
  | some entities => exact (Part.emit _).bind fun _ => .pure entities

theorem part_listing (l : Listing) (hl : l.component = c) (series : Series) (tags : List String) :
    Part (σ := σ) c (reportListing l series tags) :=
  (part_entities (.listing l) (congrArg some hl) series tags).bind fun _ => .pure ()

theorem part_figures (q : Query .figures) (hq : q.component? = some c) (tags : List String) :
    Part (σ := σ) c (reportFigures q tags) := by
  refine (Part.ask q hq).bind fun value => ?_
  cases value with
  | none => exact .pure ()
  | some figures => exact .emit _

theorem part_ifStatistics {part : Run σ Unit} (h : Part c part) : Part c (ifStatistics part) :=
  .configured Config.collectStatistics h

end Parts

/-! ## Sections without a project -/

theorem part_membership (groups : KeyMap Entity) :
    Part (σ := σ) .identity (reportMembership groups) := by
  refine .configured Config.collectGroupUsers (part_forEach (fun group => ?_) _)
  refine (Part.ask (.listing (.groupUsers group.1)) rfl).bind fun users => ?_
  cases users with
  | none => exact .pure ()
  | some users => exact .emit _

theorem stretch_identity : Stretch (σ := σ) reportIdentity := by
  refine .sectionOf .identity ?_
  refine Part.bind (part_listing .domains rfl _ _) fun _ => ?_
  refine Part.bind (part_listing .projects rfl _ _) fun _ => ?_
  refine Part.bind (part_listing .users rfl _ _) fun _ => ?_
  refine Part.bind (part_entities (.listing .groups) rfl _ _) fun groups => ?_
  refine Part.bind (part_membership groups) fun _ => ?_
  refine Part.bind (part_listing .services rfl _ _) fun _ => ?_
  exact Part.bind (part_entities .identityLimits rfl _ _) fun _ => .pure ()

theorem stretch_compute : Stretch (σ := σ) reportCompute := by
  refine .sectionOf .compute ?_
  refine Part.bind (part_figures .computeLimits rfl _) fun _ => ?_
  refine Part.bind (part_listing .computeServices rfl _ _) fun _ => ?_
  refine Part.bind (part_listing .flavors rfl _ _) fun _ => ?_
  exact Part.bind (part_listing .hypervisors rfl _ _) fun _ => part_listing .aggregates rfl _ _

theorem stretch_components : Stretch (σ := σ) reportComponents := by
  refine Stretch.bind stretch_identity fun _ => Stretch.bind stretch_compute fun _ => ?_
  refine Stretch.bind (m := reportNetwork) (.sectionOf .network (part_listing .agents rfl _ _))
    fun _ => ?_
  refine Stretch.bind (m := reportBaremetal) (.sectionOf .baremetal ?_) fun _ => ?_
  · exact Part.bind (part_listing .nodes rfl _ _) fun _ => part_listing .conductors rfl _ _
  · exact .sectionOf .loadBalancer (part_listing .amphorae rfl _ _)

/-! ## Sections of a project -/

theorem part_balancer (tags : List String) (balancer : String) :
    Part (σ := σ) .loadBalancer (reportBalancer tags balancer) := by
  refine Part.bind (part_ifStatistics (part_figures (.loadBalancerStatistics balancer) rfl _))
    fun _ => ?_
  refine Part.bind (Part.ask (.listing (.amphoraeOf balancer)) rfl) fun amphorae => ?_
  cases amphorae with
  | none => exact .pure ()
  | some amphorae =>
    exact part_ifStatistics (part_forEach (fun a => part_listing (.amphoraStatistics a) rfl _ _) _)

theorem part_balancers (project : String) (tags : List String) :
    Part (σ := σ) .loadBalancer (reportBalancers project tags) := by
  refine Part.bind (part_entities (.listing (.loadBalancers project)) rfl _ _) fun balancers => ?_
  refine Part.bind (part_forEach (part_balancer tags) _) fun _ => ?_
  refine Part.bind (part_entities (.listing (.listeners project)) rfl _ _) fun listeners => ?_
  refine Part.bind
    (part_ifStatistics (part_forEach (fun l => part_figures (.listenerStatistics l) rfl _) _))
    fun _ => ?_
  refine Part.bind (part_entities (.listing (.pools project)) rfl _ _) fun pools => ?_
  refine Part.bind (part_forEach (fun pool => part_listing (.members project pool) rfl _ _) _)
    fun _ => ?_
  exact part_listing (.healthMonitors project) rfl _ _

theorem part_networkQuotas (project : String) (tags : List String) :
    Part (σ := σ) .network (reportNetworkQuotas project tags) := by
  refine Part.bind (Part.ask (.networkQuotas project) rfl) fun quotas => ?_
  cases quotas with
  | none => exact .pure ()
  | some quotas => exact part_forEach (fun _ => .emit _) _

theorem part_servers (project : String) (tags : List String) :
    Part (σ := σ) .compute (reportServers project tags) := by
  refine Part.bind (part_entities (.quotaSet project) rfl _ _) fun _ => ?_
  exact Part.bind (part_entities (.servers project) rfl _ _) fun _ => .pure ()

theorem stretch_resources (project : AuthProject) : Stretch (σ := σ) (reportResources project) := by
  refine Stretch.bind (.sectionOf .compute (part_servers _ _)) fun _ => ?_
  refine Stretch.bind (.sectionOf .network (part_networkQuotas _ _)) fun _ => ?_
  exact .sectionOf .loadBalancer (part_balancers _ _)

end Run

end StackWatch
