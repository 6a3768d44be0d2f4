import StackWatch.Proofs.Conduct

/-!
# Runs that go alike

Two runs go alike if they ask the same queries, come to the same data, and report the same of them.
What it takes for that is said once: an `Accord` is a relation of two runs that every query keeps,
every login, and whatever is written for the data of a query. Every section of a run keeps it then,
by one lemma for each, and so does the run as a whole (`Accord.all`, `Accord.deployment`).

The relation may be any that a proof about two deployments calls for. With one deployment on both
sides it is an invariant of a single run.
-/

namespace StackWatch

namespace Run

section Matches

variable {σ τ α β : Type} (d : Deployment σ) (d' : Deployment τ)

/-- A part that two runs in one relation do alike: they come to the same value,
and to another relation. -/
def Matches (R : Progress σ → Progress τ → Prop) (m : Run σ α) (m' : Run τ α)
    (S : α → Progress σ → Progress τ → Prop) : Prop :=
  ∀ p p', R p p' → (m' d' p').1 = (m d p).1 ∧ S (m d p).1 (m d p).2 (m' d' p').2

/-- A part that keeps a relation of two runs. -/
abbrev Abides (R : Progress σ → Progress τ → Prop) (m : Run σ α) (m' : Run τ α) : Prop :=
  Matches d d' R m m' fun _ => R

variable {d d'} {R R' : Progress σ → Progress τ → Prop} {S S' : α → Progress σ → Progress τ → Prop}
  {m : Run σ α} {m' : Run τ α}

theorem matches_pure {a : α} (h : ∀ p p', R p p' → S a p p') :
    Matches d d' R (pure a) (pure a) S := fun p p' hR => ⟨rfl, h p p' hR⟩

theorem Matches.bind {f : α → Run σ β} {f' : α → Run τ β} {T : β → Progress σ → Progress τ → Prop}
    (hm : Matches d d' R m m' S) (hf : ∀ a, Matches d d' (S a) (f a) (f' a) T) :
    Matches d d' R (m >>= f) (m' >>= f') T := by
  intro p p' hR
  obtain ⟨hvalue, hS⟩ := hm p p' hR
  rw [bind_apply, bind_apply, hvalue]
  exact hf _ _ _ hS

/-- A part that goes by something that both runs have in common. -/
theorem matches_get {ι : Type} {view : Progress σ → ι} {view' : Progress τ → ι} {f : ι → Run σ α}
    {g : ι → Run τ α} (hcommon : ∀ p p', R p p' → view' p' = view p)
    (h : ∀ i, Matches d d' R (f i) (g i) S) :
    Matches d d' R (get >>= fun p => f (view p)) (get >>= fun p' => g (view' p')) S := by
  intro p p' hR
  rw [bind_apply, bind_apply, get_apply, get_apply, hcommon p p' hR]
  exact h _ p p' hR

/-- A part for a component that both runs, or neither, have skipped. -/
theorem Abides.unlessSkipped {m : Run σ Unit} {m' : Run τ Unit}
    (hskipped : ∀ p p', R p p' → p'.skipped = p.skipped) (c : Component)
    (hpart : Abides d d' R m m') : Abides d d' R (unlessSkipped c m) (unlessSkipped c m') := by
  refine matches_get (f := fun skipped => if c ∈ skipped then pure () else m)
    (g := fun skipped => if c ∈ skipped then pure () else m') hskipped fun _ => ?_
  split
  · exact matches_pure fun _ _ hR => hR
  · exact hpart

/-- By induction on the items. -/
theorem Abides.forEach {ι : Type} {f : ι → Run σ Unit} {f' : ι → Run τ Unit} :
    ∀ {items : List ι}, (∀ a ∈ items, Abides d d' R (f a) (f' a)) →
      Abides d d' R (forEach f items) (forEach f' items)
  | [], _ => matches_pure fun _ _ hR => hR
  | a :: rest, h => by
    refine Matches.bind (h a (List.mem_cons_self ..)) fun _ => ?_
    exact Abides.forEach fun b hb => h b (List.mem_cons_of_mem _ hb)

/-- A run that is the other, with something that holds of it. -/
def Itself {σ : Type} (I : Progress σ → Prop) (p p' : Progress σ) : Prop := p' = p ∧ I p

/-- What a part keeps of one run. -/
theorem abides_itself {σ α : Type} {I : Progress σ → Prop} {d : Deployment σ} {m : Run σ α}
    (h : ∀ p, I p → I (m d p).2) : Abides d d (Itself I) m m := by
  rintro _ p ⟨rfl, hp⟩
  exact ⟨rfl, rfl, h p hp⟩

end Matches

/-! ## Relations that a run keeps -/

/-- Relations of two runs that are kept by whatever a run does after its components were timed:
`close` while a login lasts, and `loose` at any time. -/
structure Accord {σ τ : Type} (d : Deployment σ) (d' : Deployment τ)
    (loose close : Progress σ → Progress τ → Prop) : Prop where
  loosen : ∀ {p p'}, close p p' → loose p p'
  config : ∀ {p p'}, loose p p' → p'.session.config = p.session.config
  skipped : ∀ {p p'}, close p p' → p'.skipped = p.skipped
  /-- a query comes to the same data, which are those of its component -/
  ask : ∀ {shape : Shape} (q : Query shape), Matches d d' close (ask q) (ask q) fun value p p' =>
    close p p' ∧ ∀ c v, q.component? = some c → value = some v → c.NamesData v
  /-- details may be reported -/
  write : ∀ {p p'} {metrics : List Metric}, close p p' →
    (∀ m ∈ metrics, ∃ c : Component, c.Details m.name) →
      close (p.write (metrics.map .metric)) (p'.write (metrics.map .metric))
  note : ∀ n, Abides d d' close (Run.note n) (Run.note n)
  noteLoose : ∀ n, Abides d d' loose (Run.note n) (Run.note n)
  choose : ∀ project, Abides d d' loose (chooseProject project) (chooseProject project)
  /-- a login is granted on both sides, or fails on both with one error -/
  login : Matches d d' loose (step .authorize Step.authorize) (step .authorize Step.authorize)
    fun result p p' => loose p p' ∧ (result = .ok () → close p p')

namespace Accord

variable {σ τ : Type} {d : Deployment σ} {d' : Deployment τ}
  {loose close : Progress σ → Progress τ → Prop} (h : Accord d d' loose close)
include h

/-! ## Queries and what they report -/

theorem emit {metrics : List Metric} (hmetrics : ∀ m ∈ metrics, ∃ c : Component, c.Details m.name) :
    Abides d d' close (emit metrics) (emit metrics) := by
  intro p p' hclose
  rw [emit_apply, emit_apply, Session.baseTags, Session.baseTags, h.config (h.loosen hclose)]
  refine ⟨rfl, h.write hclose fun m hm => ?_⟩
  obtain ⟨m', hm', rfl⟩ := List.mem_map.1 hm
  exact hmetrics m' hm'

/-- A part that goes by the data of a query. -/
theorem asking {shape : Shape} {q : Query shape} {c : Component} {β : Type}
    {f : Option shape.Value → Run σ β} {f' : Option shape.Value → Run τ β}
    (hq : q.component? = some c) (hnone : Abides d d' close (f none) (f' none))
    (hsome : ∀ v, c.NamesData v → Abides d d' close (f (some v)) (f' (some v))) :
    Abides d d' close (Run.ask q >>= f) (Run.ask q >>= f') := by
  refine (h.ask q).bind fun value p p' hvalue => ?_
  obtain ⟨hclose, hnames⟩ := hvalue
  cases value with
  | none => exact hnone p p' hclose
  | some v => exact hsome v (hnames c v hq rfl) p p' hclose

theorem entities {q : Query .entities} {series : Series} (tags : List String)
    (hq : q.component? = some series.component) :
    Abides d d' close (reportEntities q series tags) (reportEntities q series tags) := by
  refine h.asking hq (matches_pure fun _ _ hp => hp) fun entities hnames => ?_
  refine Matches.bind (h.emit fun m hm => ⟨_, series.details_gauges hnames tags m hm⟩) fun _ => ?_
  exact matches_pure fun _ _ hp => hp

theorem listing {l : Listing} {series : Series} (tags : List String)
    (hl : l.component = series.component) :
    Abides d d' close (reportListing l series tags) (reportListing l series tags) :=
  (h.entities (q := .listing l) tags (congrArg some hl)).bind fun _ => matches_pure fun _ _ hp => hp

theorem figures {q : Query .figures} {c : Component} (tags : List String)
    (hq : q.component? = some c) :
    Abides d d' close (reportFigures q tags) (reportFigures q tags) :=
  h.asking hq (matches_pure fun _ _ hp => hp) fun _ hnames =>
    h.emit fun m hm => ⟨c, details_gauges hnames tags m hm⟩

/-- A part that is done if the configuration asks for it. -/
theorem ifConfigured (asks : Config → Bool) {part : Run σ Unit} {part' : Run τ Unit}
    (hpart : Abides d d' close part part') :
    Abides d d' close (get >>= fun p => if asks p.session.config then part else pure ())
      (get >>= fun p' => if asks p'.session.config then part' else pure ()) := by
  refine matches_get (f := fun config => if asks config then part else pure ())
    (g := fun config => if asks config then part' else pure ())
    (fun _ _ hp => h.config (h.loosen hp)) fun _ => ?_
  split
  · exact hpart
  · exact matches_pure fun _ _ hp => hp

theorem unlessSkipped (c : Component) {part : Run σ Unit} {part' : Run τ Unit}
    (hpart : Abides d d' close part part') :
    Abides d d' close (unlessSkipped c part) (unlessSkipped c part') :=
  Abides.unlessSkipped (fun _ _ hp => h.skipped hp) c hpart

/-! ## Sections without a project -/

theorem groupUsers (group : String × Entity) :
    Abides d d' close (reportGroupUsers group) (reportGroupUsers group) := by
  refine h.asking (q := .listing (.groupUsers group.1)) rfl (matches_pure fun _ _ hp => hp)
    fun users _ => h.emit fun m hm => ?_
  obtain rfl := List.mem_singleton.1 hm
  exact ⟨.identity, "groups", "users", rfl⟩

theorem membership (groups : KeyMap Entity) :
    Abides d d' close (reportMembership groups) (reportMembership groups) :=
  h.ifConfigured Config.collectGroupUsers (Abides.forEach fun group _ => h.groupUsers group)

theorem identity : Abides d d' close reportIdentity reportIdentity := by
  refine h.unlessSkipped _ ?_
  refine Matches.bind (h.listing [] rfl) fun _ => ?_
  refine Matches.bind (h.listing [] rfl) fun _ => ?_
  refine Matches.bind (h.listing [] rfl) fun _ => ?_
  refine Matches.bind (h.entities [] rfl) fun groups => ?_
  refine (h.membership groups).bind fun _ => ?_
  refine Matches.bind (h.listing [] rfl) fun _ => ?_
  exact Matches.bind (h.entities [] rfl) fun _ => matches_pure fun _ _ hp => hp

theorem compute : Abides d d' close reportCompute reportCompute := by
  refine h.unlessSkipped _ ?_
  refine Matches.bind (h.figures [] rfl) fun _ => ?_
  refine Matches.bind (h.listing [] rfl) fun _ => ?_
  refine Matches.bind (h.listing [] rfl) fun _ => ?_
  exact Matches.bind (h.listing [] rfl) fun _ => h.listing [] rfl

theorem network : Abides d d' close reportNetwork reportNetwork :=
  h.unlessSkipped _ (h.listing [] rfl)

theorem baremetal : Abides d d' close reportBaremetal reportBaremetal :=
  h.unlessSkipped _ (Matches.bind (h.listing [] rfl) fun _ => h.listing [] rfl)

theorem loadBalancer : Abides d d' close reportLoadBalancer reportLoadBalancer :=
  h.unlessSkipped _ (h.listing [] rfl)

/-! ## Sections of a project -/

theorem ifStatistics {part : Run σ Unit} {part' : Run τ Unit}
    (hpart : Abides d d' close part part') :
    Abides d d' close (ifStatistics part) (ifStatistics part') :=
  h.ifConfigured Config.collectStatistics hpart

theorem balancer (tags : List String) (balancer : String) :
    Abides d d' close (reportBalancer tags balancer) (reportBalancer tags balancer) := by
  refine Matches.bind (h.ifStatistics (h.figures _ rfl)) fun _ => ?_
  refine h.asking (q := .listing (.amphoraeOf balancer)) rfl (matches_pure fun _ _ hp => hp)
    fun amphorae _ => ?_
  exact h.ifStatistics (Abides.forEach fun amphora _ => h.listing _ rfl)

theorem balancers (project : String) (tags : List String) :
    Abides d d' close (reportBalancers project tags) (reportBalancers project tags) := by
  refine Matches.bind (h.entities tags rfl) fun balancers => ?_
  refine Matches.bind (Abides.forEach fun balancer _ => h.balancer tags balancer) fun _ => ?_
  refine Matches.bind (h.entities tags rfl) fun listeners => ?_
  refine Matches.bind (h.ifStatistics (Abides.forEach fun _ _ => h.figures _ rfl)) fun _ => ?_
  refine Matches.bind (h.entities tags rfl) fun pools => ?_
  refine Matches.bind (Abides.forEach fun _ _ => h.listing _ rfl) fun _ => ?_
  exact h.listing tags rfl

theorem servers (project : String) (tags : List String) :
    Abides d d' close (reportServers project tags) (reportServers project tags) := by
  refine Matches.bind (h.entities tags rfl) fun _ => ?_
  exact Matches.bind (h.entities tags rfl) fun _ => matches_pure fun _ _ hp => hp

theorem networkQuotas (project : String) (tags : List String) :
    Abides d d' close (reportNetworkQuotas project tags) (reportNetworkQuotas project tags) := by
  refine h.asking (q := .networkQuotas project) rfl (matches_pure fun _ _ hp => hp)
    fun quotas hnames => Abides.forEach fun quota hquota => h.emit fun m hm => ?_
  obtain ⟨entry, hentry, rfl⟩ := List.mem_map.1 hquota
  exact ⟨_, details_gauges (hnames entry hentry) tags m hm⟩

theorem resources (project : AuthProject) :
    Abides d d' close (reportResources project) (reportResources project) := by
  refine Matches.bind (h.unlessSkipped _ (h.servers _ _)) fun _ => ?_
  refine Matches.bind (h.unlessSkipped _ (h.networkQuotas _ _)) fun _ => ?_
  exact h.unlessSkipped _ (h.balancers _ _)

/-- The section of a project, under the login that it begins with. -/
theorem project (project : AuthProject) :
    Abides d d' loose (reportProject project) (reportProject project) := by
  refine Matches.bind (h.choose _) fun _ => h.login.bind fun result p p' hp => ?_
  obtain ⟨hloose, hclose⟩ := hp
  cases result with
  | error e => exact h.noteLoose _ p p' hloose
  | ok _ =>
    obtain ⟨hvalue, hafter⟩ := h.resources project p p' (hclose rfl)
    exact ⟨hvalue, h.loosen hafter⟩

theorem projects : Matches d d' close reportProjects reportProjects fun _ => loose := by
  refine (h.ask .authProjects).bind fun value p p' hvalue => ?_
  cases value with
  | none => exact ⟨rfl, h.loosen hvalue.1⟩
  | some projects =>
    have hprojects : Abides d d' loose (Run.forEach reportProject projects)
        (Run.forEach reportProject projects) := Abides.forEach fun project _ => h.project project
    exact (hprojects.bind fun _ => h.choose none) p p' (h.loosen hvalue.1)

/-! ## The whole -/

/-- What comes after the components were timed. -/
theorem sections :
    Matches d d' close
      (do
        reportIdentity; reportCompute; reportNetwork
        reportBaremetal; reportLoadBalancer; reportProjects)
      (do
        reportIdentity; reportCompute; reportNetwork
        reportBaremetal; reportLoadBalancer; reportProjects)
      fun _ => loose := by
  refine Matches.bind h.identity fun _ => ?_
  refine Matches.bind h.compute fun _ => ?_
  refine Matches.bind h.network fun _ => ?_
  refine Matches.bind h.baremetal fun _ => ?_
  exact Matches.bind h.loadBalancer fun _ => h.projects

/-- Everything after the first login, if timing the components keeps the relation. -/
theorem all (htiming : ∀ c, Abides d d' close (reportResponseTime c) (reportResponseTime c)) :
    Matches d d' close reportAll reportAll fun _ => loose :=
  (Abides.forEach fun c _ => htiming c).bind fun _ => h.sections

/-- The whole run. -/
theorem deployment
    (htiming : ∀ c, Abides d d' close (reportResponseTime c) (reportResponseTime c)) :
    Abides d d' loose reportDeployment reportDeployment := by
  refine h.login.bind fun result p p' hp => ?_
  obtain ⟨hloose, hclose⟩ := hp
  cases result with
  | error e => exact h.noteLoose _ p p' hloose
  | ok _ => exact ((h.note .loggedIn).bind fun _ => h.all htiming) p p' (hclose rfl)

end Accord

end Run

end StackWatch
