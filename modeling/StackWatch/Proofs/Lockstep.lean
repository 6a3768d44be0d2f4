import StackWatch.Proofs.Retry
import StackWatch.Proofs.Timing

/-!
# Sessions in lockstep

Two sessions go in lockstep if they do the same at every step: they come to the same values or
fail with the same errors, and leave the same traces but for what they were answered
(`Event.blur`). `Step.Locked` says that of a pair of steps, for any relation of two sessions and
of the deployments that they talk to.

A `Lockstep` lists what it takes of such a relation: one law for each of the few stations that look
at the session or talk to the deployment. Every query and every probe goes in lockstep then
(`Lockstep.perform`, `Lockstep.probe`). The laws concern URLs that are `known` and endpoints that a
component may have (`site`), so that a relation may leave open what it says of other URLs.
-/

namespace StackWatch

/-! ## Traces without answers -/

/-- An event without what was answered. -/
def Event.blur : Event → Event
  | .exchange purpose request _ => .exchange purpose request .dropped
  | .notice n => .notice n

theorem requestsOf_blur (trace : List Event) :
    requestsOf (trace.map Event.blur) = requestsOf trace := by
  rw [requestsOf, requestsOf, List.filterMap_map]
  congr 1
  funext event
  cases event <;> rfl

/-- Two results that tally: values that are related, or the same error. -/
inductive Tally {α β : Type} (S : α → β → Prop) : Except ApiError α → Except ApiError β → Prop
  | ok {a : α} {b : β} (h : S a b) : Tally S (.ok a) (.ok b)
  | error (e : ApiError) : Tally S (.error e) (.error e)

namespace Tally

variable {α β : Type}

theorem refl (result : Except ApiError α) : Tally Eq result result := by
  cases result with
  | ok a => exact .ok rfl
  | error e => exact .error e

theorem eq {result result' : Except ApiError α} (h : Tally Eq result result') :
    result = result' := by
  cases h with
  | ok h => exact congrArg Except.ok h
  | error e => rfl

theorem mono {S T : α → β → Prop} {result : Except ApiError α} {result' : Except ApiError β}
    (h : Tally S result result') (hST : ∀ a b, S a b → T a b) : Tally T result result' := by
  cases h with
  | ok h => exact .ok (hST _ _ h)
  | error e => exact .error e

end Tally

namespace Step

section Locked

variable {σ τ α β γ δ : Type}

/-- Two outcomes that tally, of sessions that are related. -/
structure Tallies (R : Session → σ → Session → τ → Prop) (S : α → β → Prop) (o : Outcome σ α)
    (o' : Outcome τ β) : Prop where
  result : Tally S o.result o'.result
  related : R o.session o.state o'.session o'.state
  trace : o'.trace.map Event.blur = o.trace.map Event.blur

variable (d : Deployment σ) (d' : Deployment τ) (R : Session → σ → Session → τ → Prop)

/-- Two steps in lockstep: they tally, wherever sessions are related. -/
def Locked (S : α → β → Prop) (m : Step σ α) (m' : Step τ β) : Prop :=
  ∀ s w s' w', R s w s' w' → Tallies R S (m d s w) (m' d' s' w')

variable {d d' R} {S : α → β → Prop} {T : γ → δ → Prop} {m : Step σ α} {m' : Step τ β}

theorem locked_ofExcept {result : Except ApiError α} {result' : Except ApiError β}
    (h : Tally S result result') : Locked d d' R S (ofExcept result) (ofExcept result') :=
  fun _ _ _ _ hR => ⟨h, hR, rfl⟩

theorem locked_pure {a : α} {b : β} (h : S a b) : Locked d d' R S (pure a) (pure b) :=
  fun _ _ _ _ hR => ⟨.ok h, hR, rfl⟩

theorem locked_same (a : α) : Locked d d' R Eq (pure a) (pure a) := locked_pure rfl

theorem locked_fail (e : ApiError) : Locked d d' R S (fail e) (fail e) :=
  fun _ _ _ _ hR => ⟨.error e, hR, rfl⟩

theorem locked_note (n : Notice) : Locked d d' R Eq (note n) (note n) :=
  fun _ _ _ _ hR => ⟨.ok rfl, hR, rfl⟩

theorem Locked.mono {S' : α → β → Prop} (h : Locked d d' R S m m') (hS : ∀ a b, S a b → S' a b) :
    Locked d d' R S' m m' := fun s w s' w' hR =>
  let ⟨hresult, hrelated, htrace⟩ := h s w s' w' hR
  ⟨hresult.mono hS, hrelated, htrace⟩

/-- A sequence goes in lockstep if its parts do. -/
theorem Locked.bind {f : α → Step σ γ} {f' : β → Step τ δ} (hm : Locked d d' R S m m')
    (hf : ∀ a b, S a b → Locked d d' R T (f a) (f' b)) : Locked d d' R T (m >>= f) (m' >>= f') := by
  intro s w s' w' hR
  obtain ⟨hresult, hrelated, htrace⟩ := hm s w s' w' hR
  generalize hleft : (m d s w).result = result at hresult
  generalize hright : (m' d' s' w').result = result' at hresult
  cases hresult with
  | error e =>
    rw [bind_of_error hleft, bind_of_error hright]
    exact ⟨.error e, hrelated, htrace⟩
  | ok hS =>
    obtain ⟨hresult₂, hrelated₂, htrace₂⟩ := hf _ _ hS _ _ _ _ hrelated
    rw [bind_of_ok hleft, bind_of_ok hright]
    refine ⟨hresult₂, hrelated₂, ?_⟩
    dsimp only
    rw [List.map_append, List.map_append, htrace, htrace₂]

/-- The rest after a value that both sides share. -/
theorem Locked.bind_same {f : α → Step σ γ} {f' : α → Step τ δ} {m' : Step τ α}
    (hm : Locked d d' R Eq m m') (hf : ∀ a, Locked d d' R T (f a) (f' a)) :
    Locked d d' R T (m >>= f) (m' >>= f') :=
  hm.bind fun a _ hab => hab ▸ hf a

/-- A step whose failures are caught. -/
theorem Locked.catching {m' : Step τ α} (hm : Locked d d' R Eq m m') :
    Locked d d' R Eq m.catching m'.catching := fun s w s' w' hR =>
  let ⟨hresult, hrelated, htrace⟩ := hm s w s' w' hR
  ⟨.ok hresult.eq, hrelated, htrace⟩

/-- The list of projects is asked for in lockstep, if it is sent for in lockstep at one URL. -/
theorem locked_authProjects_of_send
    (hurl : ∀ {s w s' w'}, R s w s' w' → s'.config.projectsUrl = s.config.projectsUrl)
    (hsend : ∀ url, Locked d d' R Eq (send .projectList .get url none)
      (send .projectList .get url none)) :
    Locked d d' R Eq authProjects authProjects := by
  intro s w s' w' hR
  rw [authProjects, authProjects, bind_quiet (m := get) rfl, bind_quiet (m := get) rfl, hurl hR]
  refine ((hsend _).bind_same fun response => ?_) s w s' w' hR
  refine (locked_ofExcept (.refl _)).bind_same fun items => ?_
  exact (locked_ofExcept (.refl _)).bind_same fun projects => locked_same _

end Locked

/-- A value that both sides share, and of which something is known. -/
def Shared {α : Type} (P : α → Prop) (a b : α) : Prop := a = b ∧ P a

/-! ## Relations that queries keep -/

/-- A relation of two sessions, each with its deployment, that is kept by whatever a query or a
probe does, and by which it tells the same on both sides. -/
structure Lockstep {σ τ : Type} (d : Deployment σ) (d' : Deployment τ)
    (R : Session → σ → Session → τ → Prop) (site : Component → String → Prop)
    (known : String → Prop) : Prop where
  endpointOf : ∀ c, Locked d d' R (Shared (site c)) (endpointOf c) (endpointOf c)
  clientOf : ∀ c, Locked d d' R (Shared fun client : Client => site c client.endpoint) (clientOf c)
    (clientOf c)
  wasRead : ∀ {url}, known url → Locked d d' R Eq (wasRead url) (wasRead url)
  enter : ∀ {url}, known url → Locked d d' R Eq (enter url) (enter url)
  authorize : Locked d d' R Eq authorize authorize
  /-- as far as a probe reads the response -/
  timing : ∀ c {url}, known url → Locked d d' R (fun r r' : Response => r'.elapsed = r.elapsed)
    (send (.polling c) .get url none) (send (.polling c) .get url none)
  collected : ∀ (client : Client) (l : Listing), site l.component client.endpoint →
    Locked d d' R Eq
      (fetchItems client (.listing l) >>= fun items =>
        ofExcept (l.collect ((Resource.listing l).url client.endpoint) items))
      (fetchItems client (.listing l) >>= fun items =>
        ofExcept (l.collect ((Resource.listing l).url client.endpoint) items))
  /-- what is no collection of its own -/
  items : ∀ (client : Client) (r : Resource), (∀ l, r ≠ .listing l) →
    site r.component client.endpoint →
    Locked d d' R Eq (fetchItems client r) (fetchItems client r)
  object : ∀ (client : Client) (r : Resource), (∀ l, r ≠ .listing l) →
    site r.component client.endpoint →
    Locked d d' R Eq (fetchObject client r) (fetchObject client r)

namespace Lockstep

variable {σ τ : Type} {d : Deployment σ} {d' : Deployment τ} {R : Session → σ → Session → τ → Prop}
  {site : Component → String → Prop} {known : String → Prop} (h : Lockstep d d' R site known)
include h

/-! ### Probes -/

theorem timed (c : Component) {url : String} (hurl : known url) :
    Locked d d' R Eq (timed c url) (timed c url) := by
  refine (h.wasRead hurl).bind_same fun before => ?_
  split
  · exact locked_same none
  · refine (h.timing c hurl).bind fun response response' helapsed => ?_
    refine (h.enter hurl).bind_same fun _ => locked_pure ?_
    rw [Response.milliseconds, Response.milliseconds, helapsed]

/-- A probe of a URL that is known. -/
theorem probe (p : Probe)
    (hknown : ∀ endpoint, site p.component endpoint → known (p.url endpoint)) :
    Locked d d' R Eq (Step.probe p) (Step.probe p) := by
  cases p with
  | apiRoot c =>
    refine (h.endpointOf c).bind fun endpoint _ hendpoint => ?_
    obtain ⟨rfl, hsite⟩ := hendpoint
    exact h.timed c (hknown endpoint hsite)
  | blockStorageRoot =>
    refine (h.clientOf .blockStorage).bind fun client _ hclient => ?_
    obtain ⟨rfl, hsite⟩ := hclient
    exact h.timed _ (hknown client.endpoint hsite)

/-! ### Attempts -/

/-- Reading a resource whose URL is known. -/
theorem reading {α : Type} {r : Resource} {read : Client → Step σ α} {read' : Client → Step τ α}
    (hknown : ∀ endpoint, site r.component endpoint → known (r.url endpoint))
    (hread : ∀ client : Client, site r.component client.endpoint →
      Locked d d' R Eq (read client) (read' client)) :
    Locked d d' R Eq (reading r read) (reading r read') := by
  refine (h.clientOf r.component).bind fun client _ hclient => ?_
  obtain ⟨rfl, hsite⟩ := hclient
  have hurl := hknown client.endpoint hsite
  split
  · refine (h.wasRead hurl).bind_same fun before => ?_
    split
    · exact locked_same none
    · refine (hread client hsite).bind_same fun value => ?_
      exact (h.enter hurl).bind_same fun _ => locked_same (some value)
  · exact (locked_note _).bind_same fun _ => locked_same none

theorem flavorOf (client : Client) (hsite : site .compute client.endpoint) (flavor : Json) :
    Locked d d' R Eq (flavorOf client flavor) (flavorOf client flavor) := by
  unfold Step.flavorOf
  split
  · exact (h.object client (.flavor _) (fun _ => Resource.noConfusion) hsite).bind_same
      fun detail => locked_same _
  · exact locked_same _

theorem serverEntity (client : Client) (hsite : site .compute client.endpoint) (server : Json) :
    Locked d d' R Eq (serverEntity client server) (serverEntity client server) := by
  unfold Step.serverEntity
  split
  · exact (h.flavorOf client hsite _).bind_same fun found => locked_same _
  · exact locked_same _

/-- By induction on the servers. -/
theorem serverEntries (client : Client) (hsite : site .compute client.endpoint) (url : String)
    (servers : List Json) :
    Locked d d' R Eq (serverEntries client url servers) (serverEntries client url servers) := by
  induction servers with
  | nil => exact locked_same []
  | cons server rest ih =>
    refine (h.serverEntity client hsite server).bind_same fun entity => ?_
    refine (locked_ofExcept (.refl _)).bind_same fun id => ?_
    exact ih.bind_same fun entries => locked_same _

theorem limitsAt (client : Client) {r : Resource} (hr : ∀ l, r ≠ .listing l)
    (hsite : site r.component client.endpoint) (hurl : known (r.url client.endpoint))
    (member : String) : Locked d d' R Eq (limitsAt client r member) (limitsAt client r member) := by
  refine (h.wasRead hurl).bind_same fun before => ?_
  split
  · exact locked_same none
  · refine (h.items client r hr hsite).bind_same fun items => ?_
    exact (locked_ofExcept (.refl _)).bind_same fun limits => locked_same _

theorem enterIf (client : Client) {r : Resource} (hurl : known (r.url client.endpoint))
    (limits : Option (KeyMap Entity)) :
    Locked d d' R Eq (enterIf client r limits) (enterIf client r limits) := by
  cases limits with
  | none => exact locked_same ()
  | some limits => exact h.enter hurl

theorem joinLimits (client : Client)
    (hregistered : known (Resource.registeredLimits.url client.endpoint))
    (hlimits : known (Resource.limits.url client.endpoint))
    (registered limits : Option (KeyMap Entity)) :
    Locked d d' R Eq (joinLimits client registered limits)
      (joinLimits client registered limits) := by
  refine (h.enterIf client hregistered registered).bind_same fun _ => ?_
  refine (h.enterIf client hlimits limits).bind_same fun _ => ?_
  split <;> exact locked_same _

theorem figures {r : Resource} (hr : ∀ l, r ≠ .listing l) (spec : Spec)
    (hknown : ∀ endpoint, site r.component endpoint → known (r.url endpoint)) :
    Locked d d' R Eq (figures r spec) (figures r spec) :=
  h.reading hknown fun client hsite => (h.object client r hr hsite).bind_same fun _ => locked_same _

/-- **An attempt** at a query of a component, all of whose URLs are known. -/
theorem attempt {shape : Shape} (q : Query shape) {c : Component} (hq : q.component? = some c)
    (hknown : ∀ r ∈ q.collections, ∀ endpoint, site r.component endpoint → known (r.url endpoint)) :
    Locked d d' R Eq q.attempt q.attempt := by
  cases q with
  | authProjects => cases hq
  | listing l =>
    exact h.reading (hknown _ (List.mem_singleton_self _))
      fun client hsite => h.collected client l hsite
  | identityLimits =>
    refine (h.clientOf .identity).bind fun client _ hclient => ?_
    obtain ⟨rfl, hsite⟩ := hclient
    have hregistered := hknown .registeredLimits (by simp [Query.collections]) client.endpoint hsite
    have hlimits := hknown .limits (by simp [Query.collections]) client.endpoint hsite
    refine (h.limitsAt client (r := .registeredLimits) (fun _ => Resource.noConfusion) hsite
      hregistered _).bind_same fun registered => ?_
    refine (h.limitsAt client (r := .limits) (fun _ => Resource.noConfusion) hsite
      hlimits _).bind_same
      fun limits => ?_
    exact h.joinLimits client hregistered hlimits registered limits
  | quotaSet project =>
    refine h.reading (hknown _ (List.mem_singleton_self _)) fun client hsite => ?_
    refine (h.object client (.quotaSet project) (fun _ => Resource.noConfusion) hsite).bind_same
      fun object => ?_
    exact (locked_ofExcept (.refl _)).bind_same fun id => locked_same _
  | servers project =>
    refine h.reading (hknown _ (List.mem_singleton_self _)) fun client hsite => ?_
    refine (h.items client (.servers project) (fun _ => Resource.noConfusion) hsite).bind_same
      fun items => ?_
    exact (h.serverEntries client hsite _ items).bind_same fun entries => locked_same _
  | networkQuotas project =>
    refine h.reading (hknown _ (List.mem_singleton_self _)) fun client hsite => ?_
    exact (h.object client (.networkQuotas project) (fun _ => Resource.noConfusion) hsite).bind_same
      fun object => locked_same _
  | computeLimits | loadBalancerStatistics _ | listenerStatistics _ =>
    exact h.figures (fun _ => Resource.noConfusion) _ (hknown _ (List.mem_singleton_self _))

/-! ### Queries -/

/-- What is attempted in lockstep is done in lockstep, new logins included. -/
theorem withReauth {α : Type} (title : String) {attempt : Step σ (Option α)}
    {attempt' : Step τ (Option α)} (hattempt : Locked d d' R Eq attempt attempt') :
    Locked d d' R Eq (withReauth title attempt) (withReauth title attempt') := by
  refine hattempt.catching.bind_same fun result => ?_
  cases result with
  | ok value => exact locked_same value
  | error e =>
    dsimp only
    split
    · rw [mark_authorize, mark_authorize]
      refine h.authorize.bind_same fun _ => hattempt.catching.bind_same fun result => ?_
      cases result with
      | ok value => exact locked_same value
      | error e' => exact (locked_note _).bind_same fun _ => locked_same none
    · split
      · exact (locked_note _).bind_same fun _ => locked_same none
      · exact locked_fail e

/-- **A query** of a component, all of whose URLs are known. -/
theorem perform {shape : Shape} (q : Query shape) {c : Component} (hq : q.component? = some c)
    (hknown : ∀ r ∈ q.collections, ∀ endpoint, site r.component endpoint → known (r.url endpoint)) :
    Locked d d' R Eq q.perform q.perform :=
  h.withReauth q.title (h.attempt q hq hknown)

end Lockstep

end Step

end StackWatch
