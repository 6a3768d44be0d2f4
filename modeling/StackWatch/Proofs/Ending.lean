import StackWatch.Proofs.Coherence
import StackWatch.Proofs.Namespace

/-!
# How a query ends

A query that finds its component in the catalog never says that the component is missing: no
answer of a deployment is read as that error, and a login does not fail with it. Its data, if it
comes to any, carry metrics of its component and of no other. A query that does not find its
component ends at once, before anything is sent (`Query.perform_absent`, `Query.perform_yields`).
The same is true of probes.

Beside that stands what a query leaves alone: it keeps the configuration and the project, and every
login that it makes asks for that project's token (`Query.perform_keeps`, `Query.perform_posts`).
-/

namespace StackWatch

/-- A value of which something holds, or an error that is not the absence of a component. -/
def Yields {α : Type} (P : α → Prop) : Except ApiError α → Prop
  | .ok a => P a
  | .error e => ∀ c, e ≠ .componentNotFound c

namespace Yields

variable {α : Type} {P Q : α → Prop} {result : Except ApiError α}

theorem mono (h : Yields P result) (hPQ : ∀ a, P a → Q a) : Yields Q result := by
  cases result with
  | ok a => exact hPQ a h
  | error e => exact h

theorem of_ok {a : α} (h : Yields P result) (hok : result = .ok a) : P a := by
  subst hok
  exact h

theorem map {β : Type} {R : β → Prop} {f : α → β} (h : Yields P result) (hf : ∀ a, P a → R (f a)) :
    Yields R (result.map f) := by
  cases result with
  | ok a => exact hf a h
  | error e => exact h

/-- What yields no data comes to none, with or without an error. -/
theorem toOption_join {α : Type} {result : Except ApiError (Option α)}
    (h : Yields (· = none) result) : result.toOption.join = none := by
  cases result with
  | error e => rfl
  | ok value => exact h

/-- A component is absent, or it is not for that that anything failed. -/
theorem or_absent (result : Except ApiError α) :
    Yields (fun _ => True) result ∨ ∃ c, result = .error (.componentNotFound c) := by
  cases result with
  | ok a => exact .inl trivial
  | error e =>
    cases e with
    | componentNotFound c => exact .inr ⟨c, rfl⟩
    | _ => exact .inl fun _ => ApiError.noConfusion

end Yields

theorem eq_of_toOption_join {α : Type} {result : Except ApiError (Option α)} {a : α}
    (h : result.toOption.join = some a) : result = .ok (some a) := by
  cases result with
  | error e => cases h
  | ok value => exact congrArg Except.ok h

/-! ## Reading an answer -/

theorem HttpClient.yields_receive (url : String) (answer : Answer) :
    Yields (fun _ => True) (receive url answer) := by
  unfold receive
  cases answer with
  | dropped => exact nofun
  | response status token body elapsed =>
    dsimp only
    split
    · exact nofun
    · cases body with
      | json value => trivial
      | _ => exact nofun

namespace Response

theorem yields_field (r : Response) (key : String) : Yields (fun _ => True) (r.field key) := by
  unfold field
  split
  · trivial
  · exact nofun

theorem yields_array (r : Response) (key : String) : Yields (fun _ => True) (r.array key) := by
  unfold array field
  cases r.body.get? key with
  | none => exact nofun
  | some value =>
    dsimp only
    split
    · trivial
    · exact nofun

end Response

theorem yields_entityId (url : String) (object : Json) :
    Yields (fun _ => True) (entityId url object) := by
  unfold entityId
  split
  · trivial
  · trivial
  · trivial
  · exact nofun

theorem Listing.yields_identify (l : Listing) (url : String) (item : Json) :
    Yields (fun _ => True) (l.identify url item) := by
  unfold identify
  split
  · split
    · trivial
    · exact (yields_entityId url item).map fun _ h => h
  · trivial
  · split
    · trivial
    · exact nofun
  · exact (yields_entityId url item).map fun _ h => h

/-- A collection fails with an item that cannot be identified. By induction on the items. -/
theorem yields_entriesOf {identify : Json → Except ApiError (Option String)}
    (entity : Json → Entity) (h : ∀ item, Yields (fun _ => True) (identify item)) :
    ∀ items, Yields (fun _ => True) (entriesOf identify entity items)
  | [] => trivial
  | item :: rest => by
    have hitem := h item
    have hrest := yields_entriesOf entity h rest
    unfold entriesOf
    cases hid : identify item with
    | error e =>
      rw [hid] at hitem
      exact hitem
    | ok id =>
      cases hentries : entriesOf identify entity rest with
      | error e =>
        rw [hentries] at hrest
        exact hrest
      | ok entries => trivial

theorem Form.yields_collect (form : Form) {identify : Json → Except ApiError (Option String)}
    (h : ∀ item, Yields (fun _ => True) (identify item)) (items : List Json) :
    Yields (KeyMap.EachLabeled form.spec.labels) (collect identify form.entity items) := by
  cases hcollect : collect identify form.entity items with
  | ok entities => exact labeled_collect hcollect
  | error e =>
    have hentries := (yields_entriesOf form.entity h items).map (f := KeyMap.ofList)
      (R := fun _ => True) fun _ _ => trivial
    change Yields _ (collect identify form.entity items) at hentries
    rw [hcollect] at hentries
    exact hentries

theorem Listing.yields_collect (l : Listing) (url : String) (items : List Json) :
    Yields (KeyMap.EachLabeled l.form.spec.labels) (l.collect url items) :=
  l.form.yields_collect (l.yields_identify url) items

theorem yields_collectLimits (member url : String) (items : List Json) :
    Yields (KeyMap.EachLabeled Spec.identityLimits.labels) (collectLimits member url items) :=
  (Form.limit member).yields_collect (fun item => (yields_entityId url item).map fun _ h => h) items

theorem yields_authProjects (url : String) (items : List Json) :
    Yields (fun _ => True) (items.mapM (AuthProject.ofJson url)) := by
  induction items with
  | nil => trivial
  | cons item rest ih =>
    have hitem := (yields_entityId url item).map (R := fun _ => True)
      (f := fun id => (⟨id, ((item.get? "name").bind Json.str?).getD ""⟩ : AuthProject))
      fun _ h => h
    change Yields _ (AuthProject.ofJson url item) at hitem
    rw [List.mapM_cons]
    cases hproject : AuthProject.ofJson url item with
    | error e =>
      rw [hproject] at hitem
      exact hitem
    | ok project =>
      cases hrest : rest.mapM (AuthProject.ofJson url) with
      | error e =>
        rw [hrest] at ih
        exact ih
      | ok projects => trivial

theorem yields_ofAnswer (tokenUrl : String) (answer : Answer) :
    Yields (fun _ => True) (Login.ofAnswer tokenUrl answer) := by
  have hreceive := HttpClient.yields_receive tokenUrl answer
  unfold Login.ofAnswer
  cases hresponse : HttpClient.receive tokenUrl answer with
  | error e =>
    rw [hresponse] at hreceive
    exact hreceive
  | ok response =>
    dsimp only
    unfold Step.credentials
    split
    · exact nofun
    · split
      · exact nofun
      · trivial

/-! ## Steps -/

namespace Step

variable {σ α β : Type} {P : α → Prop} {Q : β → Prop}

/-- A step that yields in every session and against every deployment. -/
def Yields (P : α → Prop) (m : Step σ α) : Prop := ∀ d s w, StackWatch.Yields P (m d s w).result

theorem yields_pure {a : α} (h : P a) : Yields P (pure a : Step σ α) := fun _ _ _ => h

theorem yields_ofExcept {result : Except ApiError α} (h : StackWatch.Yields P result) :
    Yields P (ofExcept result : Step σ α) := fun _ _ _ => h

theorem yields_send (purpose : Purpose) (method : Method) (url : String) (body : Option Json) :
    Yields (fun _ => True) (send purpose method url body : Step σ Response) := by
  intro d s w
  cases hr : s.http.request? method url body with
  | none =>
    rw [send_of_no_request hr]
    exact nofun
  | some request =>
    rw [send_of_request hr]
    exact HttpClient.yields_receive _ _

/-- What a sequence yields is what its second step does, for whatever the first one yields. -/
theorem Yields.bind {m : Step σ α} {f : α → Step σ β} (hm : Yields P m)
    (hf : ∀ a, P a → Yields Q (f a)) : Yields Q (m >>= f) := by
  intro d s w
  have hfirst := hm d s w
  cases hr : (m d s w).result with
  | error e =>
    rw [hr] at hfirst
    rw [bind_of_error hr]
    exact hfirst
  | ok a =>
    rw [hr] at hfirst
    rw [bind_of_ok hr]
    exact hf a hfirst d _ _

theorem yields_fetch (client : Client) (r : Resource) {read : Response → Except ApiError α}
    (hread : ∀ response, StackWatch.Yields P (read response)) :
    Yields P (fetch client r read : Step σ α) :=
  (yields_send _ _ _ _).bind fun response _ => yields_ofExcept (hread response)

theorem yields_fetchItems (client : Client) (r : Resource) :
    Yields (fun _ => True) (fetchItems client r : Step σ (List Json)) :=
  yields_fetch client r (·.yields_array _)

theorem yields_fetchObject (client : Client) (r : Resource) :
    Yields (fun _ => True) (fetchObject client r : Step σ Json) :=
  yields_fetch client r (·.yields_field _)

/-! ## Servers -/

/-- The labels of a server's metrics, and of those of its flavor. -/
def serverLabels : List Label := Spec.servers.labels ++ Spec.serverFlavors.labels

theorem labeled_flavorMetrics (flavor : Json) : (flavorMetrics flavor).Labeled serverLabels :=
  (Spec.serverFlavors.labeled_project _ _).mono (List.subset_append_right _ _)

theorem yields_flavorOf (client : Client) (flavor : Json) :
    Yields (fun found => found.2.Labeled serverLabels)
      (flavorOf client flavor : Step σ (Json × KeyMap Float)) := by
  unfold flavorOf
  split
  · exact (yields_fetchObject client _).bind fun detail _ =>
      yields_pure (labeled_flavorMetrics detail)
  · exact yields_pure (labeled_flavorMetrics flavor)

theorem yields_serverEntity (client : Client) (server : Json) :
    Yields (fun entity => entity.metrics.Labeled serverLabels)
      (serverEntity client server : Step σ Entity) := by
  have hserver : (Form.server.entity server).metrics.Labeled serverLabels :=
    (Form.server.labeled_entity server).mono (List.subset_append_left _ _)
  unfold serverEntity
  split
  · exact (yields_flavorOf client _).bind fun found hfound => yields_pure (hserver.union hfound)
  · exact yields_pure hserver

/-- By induction on the servers. -/
theorem yields_serverEntries (client : Client) (url : String) : ∀ servers : List Json,
    Yields (fun entries => ∀ e ∈ entries, e.2.metrics.Labeled serverLabels)
      (serverEntries client url servers : Step σ (List (String × Entity)))
  | [] => yields_pure fun _ h => absurd h List.not_mem_nil
  | server :: rest => by
    refine (yields_serverEntity client server).bind fun entity hentity => ?_
    refine (yields_ofExcept (yields_entityId url server)).bind fun id _ => ?_
    refine (yields_serverEntries client url rest).bind fun entries hentries => yields_pure ?_
    intro e he
    rcases List.mem_cons.1 he with rfl | he
    · exact hentity
    · exact hentries e he

end Step

/-! ## Attempts -/

/-- Whether all metrics of a query's data are the component's. A list of projects has none. -/
def Component.NamesData (c : Component) : {shape : Shape} → shape.Value → Prop
  | .projects, _ => True
  | .entities, entities => c.NamesEvery entities
  | .figures, figures => c.NamesAll figures

/-- Whether all metrics are the component's, if there are data. -/
def Component.NamesAny (c : Component) {shape : Shape} (value : Option shape.Value) : Prop :=
  ∀ v, value = some v → c.NamesData v

namespace Query

variable {shape : Shape}

/-- The labels of the metrics that the data of a query have. -/
def labels : Query shape → List Label
  | authProjects => []
  | listing l => l.form.spec.labels
  | identityLimits => Spec.identityLimits.labels
  | quotaSet _ => Spec.quotaSets.labels
  | servers _ => Step.serverLabels
  | networkQuotas _ => Spec.networkQuotas.labels
  | computeLimits => Spec.computeLimits.labels
  | loadBalancerStatistics _ => Spec.loadBalancerTraffic.labels
  | listenerStatistics _ => Spec.listenerTraffic.labels

/-- Whether data are of the kind that a query comes to: their metrics have its labels, and a project
has one network quota at most. -/
def Carries : {shape : Shape} → Query shape → shape.Value → Prop
  | .projects, _, _ => True
  | .entities, q, entities =>
    entities.EachLabeled q.labels ∧ ∀ project, q = networkQuotas project → entities.size ≤ 1
  | .figures, q, figures => figures.Labeled q.labels

theorem covers_labels {q : Query shape} {c : Component} (hq : q.component? = some c) :
    c.Covers q.labels := by
  cases q with
  | authProjects => cases hq
  | listing l =>
    obtain rfl : l.component = c := Option.some.inj hq
    rw [← l.form_component]
    exact l.form.spec.covers_labels
  | servers project =>
    obtain rfl : .compute = c := Option.some.inj hq
    intro l hl
    rcases List.mem_append.1 hl with hl | hl
    · exact Spec.servers.covers_labels l hl
    · exact Spec.serverFlavors.covers_labels l hl
  | _ =>
    obtain rfl := Option.some.inj hq
    exact Spec.covers_labels _

/-- The data of a query are those of its component. -/
theorem Carries.names {q : Query shape} {c : Component}
    (hq : q.component? = some c) {v : shape.Value} (h : q.Carries v) : c.NamesData v := by
  cases shape with
  | projects => trivial
  | entities => exact h.1.names (covers_labels hq)
  | figures => exact h.names (covers_labels hq)

end Query

namespace Step

variable {σ : Type} {d : Deployment σ} {s : Session} {w : σ} {shape : Shape}

/-- Reading a resource of a component that is there yields what the reading does. -/
theorem yields_reading {α : Type} {P : α → Prop} (hs : s.Sound) {r : Resource}
    {read : Client → Step σ α} {endpoint : String}
    (hendpoint : s.endpoint? r.component = some endpoint)
    (hread : ∀ client, Yields P (read client)) :
    StackWatch.Yields (fun value => ∀ v, value = some v → P v) (reading r read d s w).result := by
  rw [reading_apply hs, hendpoint]
  dsimp only
  split
  · split
    · exact nofun
    · have hvalue := hread (Client.build r.component endpoint s.config) d
        (s.withClient r.component endpoint) w
      split
      · rename_i e he
        rw [he] at hvalue
        exact hvalue
      · rename_i a ha
        rw [ha] at hvalue
        intro v hv
        obtain rfl := Option.some.inj hv
        exact hvalue
  · exact nofun

/-- One of the two collections of limits yields limits. -/
theorem yields_limitsAt (client : Client) (r : Resource) (member : String) :
    Yields (fun limits => (limits.getD .empty).EachLabeled Spec.identityLimits.labels)
      (limitsAt client r member : Step σ (Option (KeyMap Entity))) := by
  have hbefore : Yields (fun _ => True) (wasRead (r.url client.endpoint) : Step σ Bool) :=
    fun _ _ _ => trivial
  refine hbefore.bind fun before _ => ?_
  split
  · exact yields_pure .empty
  · refine (yields_fetchItems client r).bind fun items _ => ?_
    exact (yields_ofExcept (yields_collectLimits member _ items)).bind fun limits hlimits =>
      yields_pure hlimits

theorem yields_enterIf (client : Client) (r : Resource) (limits : Option (KeyMap Entity)) :
    Yields (fun _ => True) (enterIf client r limits : Step σ Unit) := by
  intro d s w
  rw [enterIf_apply]
  trivial

theorem yields_joinLimits (client : Client) {registered limits : Option (KeyMap Entity)}
    (hregistered : (registered.getD .empty).EachLabeled Spec.identityLimits.labels)
    (hlimits : (limits.getD .empty).EachLabeled Spec.identityLimits.labels) :
    Yields (fun value => ∀ v, value = some v → Query.identityLimits.Carries v)
      (joinLimits client registered limits : Step σ (Option (KeyMap Entity))) := by
  refine (yields_enterIf client _ registered).bind fun _ _ => ?_
  refine (yields_enterIf client _ limits).bind fun _ _ => ?_
  split
  · exact yields_pure nofun
  · refine yields_pure fun v hv => ?_
    obtain rfl := Option.some.inj hv
    exact ⟨hregistered.union hlimits, nofun⟩

theorem yields_limitsBy (client : Client) :
    Yields (fun value => ∀ v, value = some v → Query.identityLimits.Carries v)
      (limitsBy client : Step σ (Option (KeyMap Entity))) :=
  (yields_limitsAt client _ _).bind fun _ hregistered =>
    (yields_limitsAt client _ _).bind fun _ hlimits => yields_joinLimits client hregistered hlimits

theorem yields_figures (hs : s.Sound) {r : Resource} {spec : Spec} {endpoint : String}
    (hendpoint : s.endpoint? r.component = some endpoint) :
    StackWatch.Yields (fun value => ∀ v, value = some v → v.Labeled spec.labels)
      (figures r spec d s w).result := by
  refine yields_reading hs hendpoint fun client => ?_
  exact (yields_fetchObject client r).bind fun object _ =>
    yields_pure (spec.labeled_project .plain object)

/-- The one entity of an object. -/
theorem labeled_single (form : Form) (id : String) (object : Json) :
    (KeyMap.ofList [(id, form.entity object)]).EachLabeled form.spec.labels :=
  .ofList fun e he => by
    obtain rfl := List.mem_singleton.1 he
    exact form.labeled_entity object

/-- An attempt at a query of a component that is there. -/
theorem yields_attempt (hs : s.Sound) (q : Query shape) {c : Component}
    (hq : q.component? = some c) {endpoint : String} (hendpoint : s.endpoint? c = some endpoint) :
    StackWatch.Yields (fun value => ∀ v, value = some v → q.Carries v)
      (q.attempt d s w).result := by
  cases q with
  | authProjects => cases hq
  | listing l =>
    obtain rfl : l.component = c := Option.some.inj hq
    refine yields_reading (r := .listing l) hs hendpoint fun client => ?_
    refine (yields_fetchItems client _).bind fun items _ => ?_
    exact yields_ofExcept ((l.yields_collect _ items).mono fun _ h => ⟨h, nofun⟩)
  | identityLimits =>
    obtain rfl := Option.some.inj hq
    have hclient := clientOf_apply (d := d) (w := w) hs .identity
    change StackWatch.Yields _ (identityLimits d s w).result
    rw [hendpoint] at hclient
    unfold identityLimits
    rw [bind_quiet hclient]
    exact yields_limitsBy _ d _ w
  | quotaSet project =>
    obtain rfl : .compute = c := Option.some.inj hq
    refine yields_reading (r := .quotaSet project) hs hendpoint fun client => ?_
    refine (yields_fetchObject client _).bind fun object _ => ?_
    refine (yields_ofExcept (yields_entityId _ object)).bind fun id _ => yields_pure ?_
    exact ⟨labeled_single _ id object, nofun⟩
  | servers project =>
    obtain rfl : .compute = c := Option.some.inj hq
    refine yields_reading (r := .servers project) hs hendpoint fun client => ?_
    refine (yields_fetchItems client _).bind fun items _ => ?_
    exact (yields_serverEntries client _ items).bind fun entries hentries =>
      yields_pure ⟨.ofList hentries, nofun⟩
  | networkQuotas project =>
    obtain rfl : .network = c := Option.some.inj hq
    refine yields_reading (r := .networkQuotas project) hs hendpoint fun client => ?_
    refine (yields_fetchObject client _).bind fun object _ => yields_pure ?_
    exact ⟨labeled_single _ project object, fun _ _ => Nat.le_refl 1⟩
  | computeLimits =>
    obtain rfl : .compute = c := Option.some.inj hq
    exact yields_figures hs hendpoint
  | loadBalancerStatistics loadBalancer | listenerStatistics listener =>
    obtain rfl : .loadBalancer = c := Option.some.inj hq
    exact yields_figures hs hendpoint

/-- An attempt at a query of a component that is not there ends at once. -/
theorem attempt_absent (hs : s.Sound) (q : Query shape) {c : Component}
    (hq : q.component? = some c) (hendpoint : s.endpoint? c = none) :
    q.attempt d s w = ⟨.error (.componentNotFound c), s, w, []⟩ := by
  cases attempted (d := d) (w := w) hs q hq with
  | absent hq' _ houtcome =>
    obtain rfl := Option.some.inj (hq.symm.trans hq')
    exact houtcome
  | present hq' hendpoint' _ =>
    obtain rfl := Option.some.inj (hq.symm.trans hq')
    cases hendpoint.symm.trans hendpoint'

/-- An attempt at the list of projects. -/
theorem yields_authProjects :
    Yields (fun _ => True) (authProjects : Step σ (Option (List AuthProject))) := by
  intro d s w
  rw [authProjects, bind_quiet (m := get) rfl]
  refine ((yields_send _ _ _ _).bind fun response _ => ?_) d s w
  refine (yields_ofExcept (response.yields_array _)).bind fun items _ => ?_
  exact (yields_ofExcept (StackWatch.yields_authProjects _ items)).bind
    fun _ _ => yields_pure trivial

/-- A login does not fail because a component is missing. -/
theorem yields_authorize : Yields (fun _ => True) (authorize : Step σ Unit) := by
  intro d s w
  have hanswer := yields_ofAnswer s.config.tokenUrl (d s.loginRequest w).1
  rw [authorize_apply]
  split
  · dsimp only
    split
    · rename_i e he
      rw [he] at hanswer
      exact hanswer
    · trivial
  · exact nofun

/-! ## What a login keeps -/

theorem authorize_keeps : (authorize d s w).session.config = s.config ∧
    (authorize d s w).session.project = s.project := by
  rw [authorize_apply]
  split
  · dsimp only
    split <;> exact ⟨rfl, rfl⟩
  · exact ⟨rfl, rfl⟩

/-- Every login asks with the request of its session. -/
theorem eq_loginRequest {request : Request} (h : request ∈ (authorize d s w).requests) :
    request = s.loginRequest := by
  rw [Outcome.requests, authorize_trace] at h
  split at h
  · exact List.mem_singleton.1 h
  · cases h

end Step

/-! ## Queries -/

namespace Query

open Step

variable {σ : Type} {d : Deployment σ} {s : Session} {w : σ} {shape : Shape} {held : Option Login}
  {c : Component}

/-- **A query of a component that is not there** ends at once. -/
theorem perform_absent (hs : s.Sound) {q : Query shape} (hq : q.component? = some c)
    (hendpoint : s.endpoint? c = none) :
    q.perform d s w = ⟨.error (.componentNotFound c), s, w, []⟩ := by
  have hfirst := attempt_absent (d := d) (w := w) hs q hq hendpoint
  cases withReauth_course q.title hfirst rfl rfl with
  | served h | failed h _ hhttp | locked h hhttp | again h hhttp | lost h hhttp =>
    -- the error is neither a value nor a failing status
    cases h <;> cases hhttp
  | broken _ _ hwhole => exact hwhole

/-- What an attempt comes to. -/
theorem carries_attempt (hs : s.Sound) {q : Query shape} (hq : q.component? = some c)
    {value : Option shape.Value} (h : (q.attempt d s w).result = .ok value) :
    ∀ v, value = some v → q.Carries v := by
  cases hendpoint : s.endpoint? c with
  | none =>
    rw [attempt_absent hs q hq hendpoint] at h
    cases h
  | some endpoint => exact (yields_attempt hs q hq hendpoint).of_ok h

/-- **A query of a component that is there** does not miss it, and its data
are those of the query. -/
theorem perform_carries (h : s.Holds held) {q : Query shape} (hq : q.component? = some c)
    {endpoint : String} (hendpoint : s.endpoint? c = some endpoint) :
    Yields (fun value => ∀ v, value = some v → q.Carries v) (q.perform d s w).result := by
  have hfirst := yields_attempt (d := d) (w := w) h.sound q hq hendpoint
  cases q.course d s w with
  | served _ hwhole | broken _ _ hwhole =>
    rw [hwhole]
    exact hfirst
  | failed _ _ _ hwhole | lost _ _ _ _ hwhole =>
    rw [hwhole]
    exact nofun
  | locked _ _ hlogin hwhole =>
    have hauthorize := yields_authorize d (q.attempt d s w).session (q.attempt d s w).state
    rw [hlogin] at hauthorize
    rw [hwhole]
    exact hauthorize
  | again _ _ _ hsecond hwhole =>
    obtain ⟨held', hrestart⟩ : ∃ held', (authorize d (q.attempt d s w).session
        (q.attempt d s w).state).session.Holds held' := by
      obtain ⟨hsound, hsame⟩ := q.attempt_keeps (d := d) (w := w) h.sound
      exact ⟨_, (tracks_login (.ask q)).holds (h.of_sameLogin hsound hsame)⟩
    rw [hwhole, Outcome.result_after, hsecond]
    exact carries_attempt hrestart.sound hq hsecond

/-- Its data are those of the component. -/
theorem perform_yields (h : s.Holds held) {q : Query shape} (hq : q.component? = some c)
    {endpoint : String} (hendpoint : s.endpoint? c = some endpoint) :
    Yields c.NamesAny (q.perform d s w).result :=
  (perform_carries h hq hendpoint).mono fun _ hcarries v hv => (hcarries v hv).names hq

/-- The data of a query are its own. -/
theorem carries_perform (h : s.Holds held) {q : Query shape} (hq : q.component? = some c)
    {value : Option shape.Value} (hresult : (q.perform d s w).result = .ok value) :
    ∀ v, value = some v → q.Carries v := by
  cases hendpoint : s.endpoint? c with
  | none =>
    rw [perform_absent h.sound hq hendpoint] at hresult
    cases hresult
  | some endpoint => exact (perform_carries h hq hendpoint).of_ok hresult

/-- The data of a query are those of its component. -/
theorem names_perform (h : s.Holds held) {q : Query shape} (hq : q.component? = some c)
    {value : Option shape.Value} (hresult : (q.perform d s w).result = .ok value) :
    c.NamesAny value :=
  fun v hv => (carries_perform h hq hresult v hv).names hq

/-- The list of projects is kept by keystone, and no component is missed for it. -/
theorem perform_authProjects_yields (d : Deployment σ) (s : Session) (w : σ) :
    Yields (fun _ => True) (authProjects.perform d s w).result := by
  have hfirst := Step.yields_authProjects d s w
  cases authProjects.course d s w with
  | served _ hwhole | broken _ _ hwhole =>
    rw [hwhole]
    exact hfirst
  | failed _ _ _ hwhole | lost _ _ _ _ hwhole =>
    rw [hwhole]
    trivial
  | locked _ _ hlogin hwhole =>
    have hauthorize := yields_authorize d (authProjects.attempt d s w).session
      (authProjects.attempt d s w).state
    rw [hlogin] at hauthorize
    rw [hwhole]
    exact hauthorize
  | again _ _ _ hsecond hwhole =>
    rw [hwhole, Outcome.result_after, hsecond]
    trivial

/-- A query misses no component if its own is there. -/
theorem perform_yields_of_there (h : s.Holds held) (q : Query shape)
    (hthere : ∀ c, q.component? = some c → s.endpoint? c ≠ none) :
    Yields (fun _ => True) (q.perform d s w).result := by
  cases hq : q.component? with
  | none =>
    cases q <;> try cases hq
    exact perform_authProjects_yields d s w
  | some c =>
    obtain ⟨endpoint, hendpoint⟩ := Option.ne_none_iff_exists'.1 (hthere c hq)
    exact (perform_yields h hq hendpoint).mono fun _ _ => trivial

/-- **What a query keeps**: the configuration and the project. -/
theorem perform_keeps (h : s.Holds held) (q : Query shape) :
    (q.perform d s w).session.config = s.config ∧
    (q.perform d s w).session.project = s.project := by
  obtain ⟨hsound, hsame⟩ := q.attempt_keeps (d := d) (w := w) h.sound
  have hlogin := authorize_keeps (d := d) (s := (q.attempt d s w).session)
    (w := (q.attempt d s w).state)
  have hrestart := (tracks_login (.ask q)).holds (d := d) (w := (q.attempt d s w).state)
    (h.of_sameLogin hsound hsame)
  have hsecond := (q.attempt_keeps (d := d) (w := (authorize d (q.attempt d s w).session
    (q.attempt d s w).state).state) hrestart.sound).2
  cases q.course d s w with
  | served _ hwhole | failed _ _ _ hwhole | broken _ _ hwhole =>
    rw [hwhole]
    exact ⟨hsame.config, hsame.project⟩
  | locked _ _ _ hwhole =>
    rw [hwhole]
    exact ⟨hlogin.1.trans hsame.config, hlogin.2.trans hsame.project⟩
  | again _ _ _ _ hwhole | lost _ _ _ _ hwhole =>
    rw [hwhole]
    exact ⟨hsecond.config.trans (hlogin.1.trans hsame.config),
      hsecond.project.trans (hlogin.2.trans hsame.project)⟩

/-- **What a query posts**: the login of its session, and nothing else. -/
theorem perform_posts (h : s.Holds held) (q : Query shape) {request : Request}
    (hrequest : request ∈ (q.perform d s w).requests) (hpost : request.method = .post) :
    request = s.loginRequest := by
  obtain ⟨hsound, hsame⟩ := q.attempt_keeps (d := d) (w := w) h.sound
  have hrestart := (tracks_login (.ask q)).holds (d := d) (w := (q.attempt d s w).state)
    (h.of_sameLogin hsound hsame)
  rcases (q.course d s w).mem_requests hrequest with hmem | hmem | ⟨-, hmem⟩
  · cases hpost.symm.trans (attempt_gets h.sound q request hmem)
  · rw [eq_loginRequest hmem, Session.loginRequest, Session.loginRequest,
      Session.grant, Session.grant, hsame.config, hsame.http, hsame.project]
  · cases hpost.symm.trans (attempt_gets hrestart.sound q request hmem)

end Query

/-! ## Probes -/

namespace Probe

open Step

variable {σ : Type} {d : Deployment σ} {s : Session} {w : σ}

/-- A probe of a component that is not there ends at once. -/
theorem probe_absent (hs : s.Sound) {p : Probe} (hendpoint : s.endpoint? p.component = none) :
    Step.probe p d s w = ⟨.error (.componentNotFound p.component), s, w, []⟩ := by
  cases Step.probed (d := d) (w := w) hs p with
  | absent _ houtcome => exact houtcome
  | present hendpoint' => cases hendpoint.symm.trans hendpoint'

/-- A probe of a component that is there does not miss it. -/
theorem probe_yields (hs : s.Sound) {p : Probe} {endpoint : String}
    (hendpoint : s.endpoint? p.component = some endpoint) :
    Yields (fun _ => True) (Step.probe p d s w).result := by
  have htimed : ∀ url, Step.Yields (fun _ => True)
      (timed p.component url : Step σ (Option Float)) := by
    intro url
    have hbefore : Step.Yields (fun _ => True) (wasRead url : Step σ Bool) := fun _ _ _ => trivial
    refine hbefore.bind fun before _ => ?_
    split
    · exact yields_pure trivial
    · refine (yields_send _ _ _ _).bind fun response _ => ?_
      have henter : Step.Yields (fun _ => True) (enter url : Step σ Unit) := fun _ _ _ => trivial
      exact henter.bind fun _ _ => yields_pure trivial
  cases Step.probed (d := d) (w := w) hs p with
  | absent hendpoint' => cases hendpoint.symm.trans hendpoint'
  | present _ _ _ _ houtcome =>
    rw [houtcome]
    exact htimed _ d _ w

end Probe

end StackWatch
