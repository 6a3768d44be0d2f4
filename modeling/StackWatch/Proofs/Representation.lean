import StackWatch.Proofs.Ending
import StackWatch.Proofs.Entries

/-!
# How the parts of a session fit together

A session holds the same login in five places: its state, its token, its catalog, the endpoints that
it remembers and the clients that it has built. `Session.Consistent` is what these say of one
another in every session that a run can reach, whichever of its logins failed and at whatever point.

Two things follow for whoever uses such a session (`Session.Reachable.consistent`). The client of
another component is never met, so that branch of every query is dead; `Step.Orderly` carries this
through a query one station at a time. And a component is reported as not found exactly when the
catalog at hand has no endpoint for it, whatever is remembered.
-/

namespace StackWatch

/-- What the parts of a session say of one another. -/
structure Session.Consistent (s : Session) : Prop where
  authenticated : s.auth = .authenticated ↔ ∃ token, s.http.token = some token
  unauthenticated : s.auth = .unauthenticated →
    s.resolver.catalog = .empty ∧ s.resolver.found = .empty ∧ s.clients = .empty
  found : ∀ c endpoint, s.resolver.found c = some endpoint →
    s.resolver.catalog.findUrl? c s.config.interface = some endpoint
  clients : ∀ c client, s.clients c = some client →
    client.component = c ∧ s.resolver.found c = some client.endpoint

namespace Session

variable {s : Session} {held : Option Login}

theorem Sound.endpoint?_eq (hs : s.Sound) (c : Component) :
    s.endpoint? c = s.resolver.catalog.findUrl? c s.config.interface := by
  rw [endpoint?, hs.interface]

/-- Without a catalog nothing is found. -/
theorem Holds.endpoint?_of_none (h : s.Holds none) (c : Component) : s.endpoint? c = none := by
  rw [endpoint?, h.catalog]
  rfl

/-- Without a login nothing is remembered: whatever was, would be in the empty catalog. -/
theorem Holds.found_of_none (h : s.Holds none) : s.resolver.found = .empty := by
  funext c
  cases hfound : s.resolver.found c with
  | none => rfl
  | some endpoint => cases (h.endpoint?_of_none c).symm.trans (h.sound.found c endpoint hfound)

theorem Holds.clients_of_none (h : s.Holds none) : s.clients = .empty := by
  funext c
  cases hclient : s.clients c with
  | none => rfl
  | some client =>
    have hfound := (h.sound.clients c client hclient).1
    rw [h.found_of_none] at hfound
    cases hfound

/-- A session that holds a login, or none, is consistent. -/
theorem consistent_of_holds (h : s.Holds held) : s.Consistent where
  authenticated := by
    rw [h.auth, h.token]
    cases held <;> simp
  unauthenticated hauth := by
    have hnone : held = none := by
      cases held with
      | none => rfl
      | some login => cases hauth.symm.trans (h.auth.2 rfl)
    subst hnone
    exact ⟨h.catalog, h.found_of_none, h.clients_of_none⟩
  found c endpoint hfound := by
    rw [← h.sound.endpoint?_eq]
    exact h.sound.found c endpoint hfound
  clients c client hclient := by
    obtain ⟨hfound, hbuild⟩ := h.sound.clients c client hclient
    exact ⟨congrArg Client.component hbuild, hfound⟩

end Session

/-! ## The client of another component is never met -/

/-- An event that is no encounter with the client of another component. -/
def Event.IsOrderly (event : Event) : Prop := ∀ c, event ≠ .notice (.wrongClient c)

/-- A step that keeps what is remembered in line with the catalog, and does not meet the client of
another component. -/
def Step.Orderly {σ α : Type} (m : Step σ α) : Prop := ∀ d s w, s.Sound →
  (m d s w).session.Sound ∧ ∀ event ∈ (m d s w).trace, event.IsOrderly

theorem Session.Gets.isOrderly {s : Session} {purpose : Purpose} {url : String} {event : Event}
    (h : s.Gets purpose url event) : event.IsOrderly := by
  obtain ⟨answer, rfl⟩ := h
  exact nofun

namespace Step

variable {σ α β : Type}

theorem orderly_of_silent {m : Step σ α} (htrace : ∀ d s w, (m d s w).trace = [])
    (hsound : ∀ {d s w}, s.Sound → (m d s w).session.Sound) : Orderly m := fun d s w hs =>
  ⟨hsound hs, fun event hevent => by
    rw [htrace d s w] at hevent
    cases hevent⟩

theorem orderly_pure (a : α) : Orderly (pure a : Step σ α) :=
  orderly_of_silent (fun _ _ _ => rfl) id

theorem orderly_fail (e : ApiError) : Orderly (fail e : Step σ α) :=
  orderly_of_silent (fun _ _ _ => rfl) id

theorem orderly_ofExcept (result : Except ApiError α) : Orderly (ofExcept result : Step σ α) :=
  orderly_of_silent (fun _ _ _ => rfl) id

theorem orderly_wasRead (url : String) : Orderly (wasRead url : Step σ Bool) :=
  orderly_of_silent (fun _ _ _ => rfl) id

theorem orderly_enter (url : String) : Orderly (enter url : Step σ Unit) :=
  orderly_of_silent (fun _ _ _ => rfl) fun hs => hs.withLedger _

theorem orderly_note (n : Notice) (h : ∀ c, n ≠ .wrongClient c) : Orderly (note n : Step σ Unit) :=
  fun _ _ _ hs => ⟨hs, fun event hevent => by
    rw [List.mem_singleton.1 hevent]
    exact fun c heq => h c (Event.notice.inj heq)⟩

/-- Whatever only asks is orderly. -/
theorem Looks.orderly {E : Session → Event → Prop} {m : Step σ α} (hm : Looks E m)
    (h : ∀ s event, E s event → event.IsOrderly) : Orderly m := fun d s w hs => by
  obtain ⟨hsession, htrace⟩ := hm d s w
  rw [hsession]
  exact ⟨hs, fun event hevent => h s event (htrace event hevent)⟩

theorem Orderly.bind {m : Step σ α} {f : α → Step σ β} (hm : Orderly m) (hf : ∀ a, Orderly (f a)) :
    Orderly (m >>= f) := by
  intro d s w hs
  obtain ⟨hsound, htrace⟩ := hm d s w hs
  cases hr : (m d s w).result with
  | error e =>
    rw [bind_of_error hr]
    exact ⟨hsound, htrace⟩
  | ok a =>
    obtain ⟨hsound', htrace'⟩ := hf a d _ (m d s w).state hsound
    rw [bind_of_ok hr]
    refine ⟨hsound', fun event hevent => ?_⟩
    rcases List.mem_append.1 hevent with hevent | hevent
    · exact htrace event hevent
    · exact htrace' event hevent

theorem Orderly.catching {m : Step σ α} (hm : Orderly m) : Orderly m.catching := hm

theorem AsksFor.isOrderly {endpoint : String} {R : Resource → Prop} {s : Session} {event : Event}
    (h : AsksFor endpoint R s event) : event.IsOrderly := by
  obtain ⟨r, -, hgets⟩ := h
  exact hgets.isOrderly

theorem ReadsFirst.orderly {endpoint : String} {r : Resource} {R : Resource → Prop} {m : Step σ α}
    (hm : ReadsFirst endpoint r R m) : Orderly m :=
  hm.looks.orderly fun _ _ h => h.isOrderly

theorem orderly_finds {c : Component} {value : Config → String → α}
    {remembering : Session → String → Session} {m : Step σ α} (hm : Finds c value remembering m) :
    Orderly m := by
  intro d s w hs
  rw [hm.apply hs]
  cases hendpoint : s.endpoint? c with
  | none => exact ⟨hs, fun _ h => nomatch h⟩
  | some endpoint => exact ⟨hm.sound hs hendpoint, fun _ h => nomatch h⟩

theorem orderly_reading {r : Resource} {read : Client → Step σ α}
    (hread : ∀ client, Orderly (read client)) : Orderly (reading r read) := by
  refine (orderly_finds (finds_clientOf _)).bind fun client => ?_
  split
  · refine (orderly_wasRead _).bind fun before => ?_
    split
    · exact orderly_pure none
    · exact (hread client).bind fun value => (orderly_enter _).bind fun _ => orderly_pure _
  · exact (orderly_note .conductorsNotOffered nofun).bind fun _ => orderly_pure none

theorem orderly_limitsAt (client : Client) (r : Resource) (member : String) :
    Orderly (limitsAt client r member : Step σ (Option (KeyMap Entity))) := by
  refine (orderly_wasRead _).bind fun before => ?_
  split
  · exact orderly_pure none
  · refine (readsFirst_fetch (R := fun _ => False) client r _).orderly.bind fun items => ?_
    exact (orderly_ofExcept _).bind fun _ => orderly_pure _

theorem orderly_joinLimits (client : Client) (registered limits : Option (KeyMap Entity)) :
    Orderly (joinLimits client registered limits : Step σ (Option (KeyMap Entity))) := by
  have henter : ∀ r read, Orderly (enterIf client r read : Step σ Unit) := by
    intro r read
    cases read with
    | none => exact orderly_pure ()
    | some _ => exact orderly_enter _
  refine (henter _ _).bind fun _ => (henter _ _).bind fun _ => ?_
  split <;> exact orderly_pure _

/-- Every attempt is orderly. -/
theorem orderly_attempt {shape : Shape} (q : Query shape) :
    Orderly (q.attempt : Step σ (Option shape.Value)) := by
  cases q with
  | authProjects => exact looks_authProjects.orderly fun _ _ h => h.isOrderly
  | listing l =>
    exact orderly_reading fun client =>
      (readsFirst_fetch (R := fun _ => False) client _ _).orderly.bind fun _ => orderly_ofExcept _
  | identityLimits =>
    refine (orderly_finds (finds_clientOf _)).bind fun client => ?_
    refine (orderly_limitsAt client _ _).bind fun registered => ?_
    exact (orderly_limitsAt client _ _).bind fun limits =>
      orderly_joinLimits client registered limits
  | quotaSet project =>
    exact orderly_reading fun client =>
      (readsFirst_fetch (R := fun _ => False) client _ _).orderly.bind fun _ =>
        (orderly_ofExcept _).bind fun _ => orderly_pure _
  | servers project =>
    exact orderly_reading fun client =>
      (readsFirst_fetch (R := fun _ => False) client _ _).orderly.bind fun items =>
        ((looks_serverEntries client _ items).orderly fun _ _ h => h.isOrderly).bind fun _ =>
          orderly_pure _
  | networkQuotas _ | computeLimits | loadBalancerStatistics _ | listenerStatistics _ =>
    exact orderly_reading fun client =>
      (readsFirst_fetch (R := fun _ => False) client _ _).orderly.bind fun _ => orderly_pure _

/-- A login remembers nothing of what was before it. -/
theorem orderly_authorize : Orderly (authorize : Step σ Unit) := by
  intro d s w hs
  refine ⟨?_, fun event hevent => ?_⟩
  · rw [authorize_apply]
    split
    · dsimp only
      split <;> exact .of_empty hs.interface rfl rfl
    · exact .of_empty hs.interface rfl rfl
  · rw [authorize_trace] at hevent
    split at hevent
    · rw [List.mem_singleton.1 hevent]
      exact nofun
    · cases hevent

theorem Orderly.withReauth {attempt : Step σ (Option α)} (hattempt : Orderly attempt)
    (title : String) : Orderly (withReauth title attempt) := by
  refine hattempt.catching.bind fun result => ?_
  cases result with
  | ok value => exact orderly_pure value
  | error e =>
    dsimp only
    split
    · rw [mark_authorize]
      refine orderly_authorize.bind fun _ => hattempt.catching.bind fun result => ?_
      cases result with
      | ok value => exact orderly_pure value
      | error e' =>
        exact (orderly_note (.retryFailed title e') nofun).bind fun _ => orderly_pure none
    · split
      · exact (orderly_note (.queryFailed title e) nofun).bind fun _ => orderly_pure none
      · exact orderly_fail e

theorem orderly_probe (p : Probe) : Orderly (probe p : Step σ (Option Float)) := by
  have htimed : ∀ c url, Orderly (timed c url : Step σ (Option Float)) := by
    intro c url
    refine (orderly_wasRead url).bind fun before => ?_
    split
    · exact orderly_pure none
    · refine ((looks_send _ _).orderly fun _ _ h => h.isOrderly).bind fun response => ?_
      exact (orderly_enter url).bind fun _ => orderly_pure _
  cases p with
  | apiRoot c => exact (orderly_finds (finds_endpointOf c)).bind fun endpoint => htimed c endpoint
  | blockStorageRoot => exact (orderly_finds (finds_clientOf _)).bind fun client => htimed _ _

end Step

/-- So is every operation. -/
theorem Operation.perform_orderly {σ : Type} (op : Operation) :
    Step.Orderly (op.perform : Step σ Reply) := by
  cases op with
  | authorize => exact Step.orderly_authorize.bind fun _ => Step.orderly_pure _
  | setProject project =>
    refine Step.Orderly.bind (m := Step.modify _) ?_ fun _ => Step.orderly_pure _
    exact Step.orderly_of_silent (fun _ _ _ => rfl) fun hs =>
      ⟨hs.interface, hs.found, hs.clients⟩
  | endpoint c =>
    exact (Step.orderly_finds (Step.finds_endpointOf c)).bind fun _ => Step.orderly_pure _
  | probe p => exact (Step.orderly_probe p).bind fun _ => Step.orderly_pure _
  | ask q => exact ((Step.orderly_attempt q).withReauth q.title).bind fun _ => Step.orderly_pure _

/-! ## A component is missed exactly when the catalog lacks it -/

/-- A result that yields anything at all is no missing component. -/
theorem Yields.ne_componentNotFound {α : Type} {P : α → Prop} {result : Except ApiError α}
    (h : Yields P result) (c : Component) : result ≠ .error (.componentNotFound c) := by
  rintro rfl
  exact h c rfl

variable {σ : Type} {d : Deployment σ} {s : Session} {w : σ} {held : Option Login}

theorem Query.perform_componentNotFound_iff (h : s.Holds held) {shape : Shape} {q : Query shape}
    {c c' : Component} (hq : q.component? = some c) :
    (q.perform d s w).result = .error (.componentNotFound c') ↔ c' = c ∧ s.endpoint? c = none := by
  cases hendpoint : s.endpoint? c with
  | none =>
    rw [q.perform_absent h.sound hq hendpoint]
    simp [eq_comm]
  | some endpoint =>
    have hyields := (q.perform_yields (d := d) (w := w) h hq hendpoint).ne_componentNotFound c'
    simp [hyields]

theorem Probe.probe_componentNotFound_iff (hs : s.Sound) (p : Probe) {c : Component} :
    (Step.probe p d s w).result = .error (.componentNotFound c) ↔
      c = p.component ∧ s.endpoint? p.component = none := by
  cases hendpoint : s.endpoint? p.component with
  | none =>
    rw [p.probe_absent hs hendpoint]
    simp [eq_comm]
  | some endpoint =>
    have hyields := (p.probe_yields (d := d) (w := w) hs hendpoint).ne_componentNotFound c
    simp [hyields]

/-- What a session does with what it remembers, whatever is asked of it and whoever answers. -/
structure Session.Reliable {σ : Type} (s : Session) (d : Deployment σ) (w : σ) : Prop where
  /-- no operation meets the client of another component -/
  orderly : ∀ op : Operation, ∀ event ∈ (op.perform d s w).trace, event.IsOrderly
  /-- a query misses its component exactly when the catalog at hand does -/
  query : ∀ {shape : Shape} (q : Query shape) (c c' : Component), q.component? = some c →
    ((q.perform d s w).result = .error (.componentNotFound c') ↔
      c' = c ∧ s.resolver.catalog.findUrl? c s.config.interface = none)
  /-- and so does a probe -/
  probe : ∀ (p : Probe) (c : Component),
    ((Step.probe p d s w).result = .error (.componentNotFound c) ↔
      c = p.component ∧ s.resolver.catalog.findUrl? p.component s.config.interface = none)

/-- **The parts of a session fit together.** Every session that operations lead to from a new one,
against any deployments, is consistent, and what it is asked next goes by its catalog alone. -/
theorem Session.Reachable.consistent {s : Session} (hs : s.Reachable) :
    s.Consistent ∧ ∀ {σ : Type} (d : Deployment σ) (w : σ), s.Reliable d w := by
  obtain ⟨held, h⟩ := hs.holds
  refine ⟨Session.consistent_of_holds h, fun d w =>
    ⟨fun op => (op.perform_orderly d s w h.sound).2, ?_, ?_⟩⟩
  · intro shape q c c' hq
    rw [← h.sound.endpoint?_eq]
    exact q.perform_componentNotFound_iff h hq
  · intro p c
    rw [← h.sound.endpoint?_eq]
    exact p.probe_componentNotFound_iff h.sound

/-- After a login and a query the session is authenticated and remembers the endpoint of compute;
the catalog has none for identity, whose queries do not find it. -/
theorem Session.sample_consistent :
    let asked := (Query.computeLimits.perform Deployment.sample
      (Operation.authorize.perform Deployment.sample .sample ()).session ()).session
    asked.Consistent ∧ asked.auth = .authenticated ∧
      asked.resolver.found .compute = some "http://nova" ∧
      (Query.identityLimits.perform Deployment.sample asked ()).result =
        .error (.componentNotFound .identity) := by
  intro asked
  have hasked : asked.Reachable := by
    have hlogin : Session.Reachable
        (Operation.authorize.perform Deployment.sample .sample ()).session :=
      .perform (.new Session.new_sample) .authorize Deployment.sample ()
    exact hlogin.perform (.ask .computeLimits) Deployment.sample ()
  obtain ⟨hconsistent, hreliable⟩ := hasked.consistent
  refine ⟨hconsistent, by decide +kernel, by decide +kernel, ?_⟩
  exact ((hreliable Deployment.sample ()).query .identityLimits .identity .identity rfl).2
    ⟨rfl, by decide +kernel⟩

end StackWatch
