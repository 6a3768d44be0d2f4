import StackWatch.Proofs.Attempt

/-!
# What a login brings

The outcome of a login is told by the one answer that it gets: `authorize_apply`. What a session
holds at any time can therefore be read off its trace, as the token and the catalog of the last
login (`lastLogin`). `Session.Holds` ties the session to that: its token, its catalog and whatever
it remembers are those of the login that it holds, and of none if there is none.

`Step.Tracks` says of a step that it keeps this tie, and that every event it leaves is one that may
be left under the login held at that moment. It holds of a sequence when it holds of its parts.
-/

namespace StackWatch

/-! ## The outcome of a login -/

/-- The token and the catalog that a login brought. -/
abbrev Login := String × Catalog

/-- What the answer to a login brings. -/
def Login.ofAnswer (tokenUrl : String) (answer : Answer) : Except ApiError Login :=
  match HttpClient.receive tokenUrl answer with
  | .error e => .error e
  | .ok response => Step.credentials response

/-- The request of a login. It carries no token. -/
def Session.loginRequest (s : Session) : Request :=
  ⟨.post, Url.wire s.config.tokenUrl, none, s.http.novaVersion, s.http.ironicVersion,
    some s.grant.toJson⟩

namespace Step

variable {σ α : Type} {d : Deployment σ} {s : Session} {w : σ}

/-- A login forgets everything of the one before. Then it sends one request, if there can be one,
and installs what the answer brings. -/
theorem authorize_apply :
    authorize d s w =
      if Url.isRequestable s.config.tokenUrl = true then
        let answer := (d s.loginRequest w).1
        let trace := [.exchange .authorization s.loginRequest answer]
        match Login.ofAnswer s.config.tokenUrl answer with
        | .error e => ⟨.error e, s.forget, (d s.loginRequest w).2, trace⟩
        | .ok (token, catalog) =>
          ⟨.ok (), s.forget.install token catalog, (d s.loginRequest w).2, trace⟩
      else ⟨.error (.transport s.config.tokenUrl .notBuilt), s.forget, w, []⟩ := by
  rw [authorize, bind_quiet (m := modify Session.forget) rfl, bind_quiet (m := get) rfl]
  by_cases hurl : Url.isRequestable s.config.tokenUrl = true
  · have hrequest : s.forget.http.request? .post s.forget.config.tokenUrl
        (some s.forget.grant.toJson) = some s.loginRequest := by
      exact HttpClient.request?_of_requestable hurl rfl .post _
    have hsend : send .authorization .post s.forget.config.tokenUrl (some s.forget.grant.toJson) d
        s.forget w = ⟨HttpClient.receive s.config.tokenUrl (d s.loginRequest w).1, s.forget,
          (d s.loginRequest w).2,
          [.exchange .authorization s.loginRequest (d s.loginRequest w).1]⟩ :=
      send_of_request hrequest
    rw [if_pos hurl]
    unfold Login.ofAnswer
    dsimp only
    cases hanswer : HttpClient.receive s.config.tokenUrl (d s.loginRequest w).1 with
    | error e =>
      rw [hanswer] at hsend
      exact bind_failed hsend
    | ok response =>
      rw [hanswer] at hsend
      rw [bind_of_ok (by rw [hsend]), hsend]
      dsimp only
      cases hread : credentials response with
      | error e => rw [bind_failed (m := ofExcept _) rfl, List.append_nil]
      | ok login => rw [bind_quiet (m := ofExcept _) rfl, modify, List.append_nil]
  · have hrequest : s.forget.http.request? .post s.forget.config.tokenUrl
        (some s.forget.grant.toJson) = none := by
      exact HttpClient.request?_of_not_requestable hurl .post _
    rw [if_neg hurl]
    exact bind_failed (send_of_no_request hrequest)

theorem authorize_trace : (authorize d s w).trace =
    if Url.isRequestable s.config.tokenUrl = true then
      [.exchange .authorization s.loginRequest (d s.loginRequest w).1]
    else [] := by
  rw [authorize_apply]
  split
  · dsimp only
    split <;> rfl
  · rfl

end Step

/-! ## What a trace holds -/

/-- The login that is held after an event: an answered POST replaces it by
what the answer brings. -/
def Event.loginAfter (tokenUrl : String) (held : Option Login) : Event → Option Login
  | .exchange _ request answer =>
    match request.method with
    | .post => (Login.ofAnswer tokenUrl answer).toOption
    | .get => held
  | .notice _ => held

/-- The login that is held after a trace. -/
def loginAfter (tokenUrl : String) (held : Option Login) (trace : List Event) : Option Login :=
  trace.foldl (Event.loginAfter tokenUrl) held

/-- The last login of a trace, if there was one and it succeeded. -/
def lastLogin (tokenUrl : String) (trace : List Event) : Option Login :=
  loginAfter tokenUrl none trace

theorem loginAfter_append (tokenUrl : String) (held : Option Login) (before after : List Event) :
    loginAfter tokenUrl held (before ++ after) =
      loginAfter tokenUrl (loginAfter tokenUrl held before) after :=
  List.foldl_append ..

/-- Whatever asks no POST leaves the login that is held. -/
theorem loginAfter_of_gets {tokenUrl : String} {held : Option Login} {trace : List Event}
    (h : ∀ request ∈ requestsOf trace, request.method = .get) :
    loginAfter tokenUrl held trace = held := by
  induction trace with
  | nil => rfl
  | cons event rest ih =>
    cases event with
    | notice n => exact ih h
    | exchange purpose request answer =>
      have hget : request.method = .get := h request (List.mem_cons_self ..)
      have hrest : loginAfter tokenUrl held rest = held :=
        ih fun r hr => h r (List.mem_cons_of_mem _ hr)
      refine Eq.trans ?_ hrest
      simp only [loginAfter, List.foldl_cons, Event.loginAfter, hget]

/-! ## What a session holds -/

namespace Session

/-- A session and the login that it holds. -/
structure Holds (s : Session) (held : Option Login) : Prop where
  sound : s.Sound
  token : s.http.token = held.map (·.1)
  catalog : s.resolver.catalog = (held.map (·.2)).getD .empty
  auth : s.auth = .authenticated ↔ held.isSome = true
  /-- no login succeeds where none can be asked for -/
  requestable : held.isSome = true → Url.isRequestable s.config.tokenUrl = true

variable {s s' : Session} {held : Option Login}

/-- The endpoints of a session are those of the catalog that it holds. -/
theorem Holds.endpoint?_eq_some (h : s.Holds held) {c : Component} {endpoint : String}
    (hendpoint : s.endpoint? c = some endpoint) :
    ∃ token catalog, held = some (token, catalog) ∧
      catalog.findUrl? c s.config.interface = some endpoint := by
  rw [endpoint?, h.sound.interface, h.catalog] at hendpoint
  cases held with
  | none => cases hendpoint
  | some login => exact ⟨login.1, login.2, rfl, hendpoint⟩

theorem Holds.of_sameLogin (h : s.Holds held) (hsound : s'.Sound) (hsame : s.SameLogin s') :
    s'.Holds held where
  sound := hsound
  token := hsame.http ▸ h.token
  catalog := hsame.catalog ▸ h.catalog
  auth := hsame.auth ▸ h.auth
  requestable := hsame.config ▸ h.requestable

theorem holds_forget (h : s.Sound) : s.forget.Holds none where
  sound := .of_empty h.interface rfl rfl
  token := rfl
  catalog := rfl
  auth := by simp [forget]
  requestable := nofun

theorem holds_install (h : s.Sound) (hurl : Url.isRequestable s.config.tokenUrl = true)
    (login : Login) : (s.forget.install login.1 login.2).Holds (some login) where
  sound := .of_empty h.interface rfl rfl
  token := rfl
  catalog := rfl
  auth := by simp [install]
  requestable _ := hurl

/-- A client that has just been made has no token. -/
theorem token_of_ofConfig {config : Config} {http : HttpClient}
    (h : HttpClient.ofConfig config = .ok http) : http.token = none := by
  unfold HttpClient.ofConfig at h
  split at h
  · cases h
  · split at h
    · cases h
    · obtain rfl := Except.ok.inj h
      rfl

/-- A new session holds no login. -/
theorem holds_new {config : Config} (h : Session.new config = .ok s) : s.Holds none := by
  unfold Session.new at h
  split at h
  · cases h
  · split at h
    · cases h
    · rename_i hhttp
      obtain rfl := Except.ok.inj h
      exact ⟨.of_empty rfl rfl rfl, token_of_ofConfig hhttp, rfl, by simp, nofun⟩

/-- Nor was a project chosen for it, and it has read nothing. -/
theorem new_fresh {config : Config} (h : Session.new config = .ok s) :
    s.project = none ∧ s.ledger = .empty := by
  unfold Session.new at h
  split at h
  · cases h
  · split at h
    · cases h
    · obtain rfl := Except.ok.inj h
      exact ⟨rfl, rfl⟩

end Session

/-! ## Steps that keep track of the login -/

/-- A step that keeps track of the login: a session that holds one before the step holds
after it what the trace of the step says, and every event is one that `P` permits under the
login held at that point. -/
structure Step.Tracks {σ α : Type} (P : Config → Option Login → Event → Prop) (m : Step σ α) :
    Prop where
  holds : ∀ {d s w held}, s.Holds held →
    (m d s w).session.Holds (loginAfter s.config.tokenUrl held (m d s w).trace)
  config : ∀ {d s w held}, s.Holds held → (m d s w).session.config = s.config
  permits : ∀ {d s w held}, s.Holds held → ∀ {before event after},
    (m d s w).trace = before ++ event :: after →
      P s.config (loginAfter s.config.tokenUrl held before) event

namespace Step

variable {σ α β : Type} {P : Config → Option Login → Event → Prop}

/-- A step that only looks keeps track, if it asks no POST and all it leaves is permitted. -/
theorem tracks_of_same {m : Step σ α}
    (hsame : ∀ {d s w held}, s.Holds held → (m d s w).session.Holds held)
    (hconfig : ∀ {d s w held}, s.Holds held → (m d s w).session.config = s.config)
    (hgets : ∀ {d s w held}, s.Holds held → ∀ request ∈ (m d s w).requests, request.method = .get)
    (hpermits : ∀ {d s w held}, s.Holds held → ∀ event ∈ (m d s w).trace, P s.config held event) :
    Tracks P m where
  holds h := by
    rw [loginAfter_of_gets (hgets h)]
    exact hsame h
  config := hconfig
  permits {d s w held} h before event after htrace := by
    -- what came before the event asked no POST, so the login is still the one held at first
    have hbefore : ∀ request ∈ requestsOf before, request.method = .get := by
      intro request hrequest
      refine hgets (d := d) (w := w) h request ?_
      rw [Outcome.requests, htrace, requestsOf_append]
      exact List.mem_append_left _ hrequest
    rw [loginAfter_of_gets hbefore]
    refine hpermits (d := d) (w := w) h event ?_
    rw [htrace]
    simp

/-- A trace without events is permitted. -/
theorem tracks_of_silent {m : Step σ α} (htrace : ∀ d s w, (m d s w).trace = [])
    (hsame : ∀ {d s w held}, s.Holds held → (m d s w).session.Holds held)
    (hconfig : ∀ {d s w held}, s.Holds held → (m d s w).session.config = s.config) :
    Tracks P m := by
  refine tracks_of_same hsame hconfig (fun _ request hrequest => ?_) fun _ event hevent => ?_
  · rw [Outcome.requests, htrace] at hrequest
    cases hrequest
  · rw [htrace] at hevent
    cases hevent

theorem tracks_pure (a : α) : Tracks P (pure a : Step σ α) :=
  tracks_of_silent (fun _ _ _ => rfl) id fun _ => rfl

theorem tracks_fail (e : ApiError) : Tracks P (fail e : Step σ α) :=
  tracks_of_silent (fun _ _ _ => rfl) id fun _ => rfl

theorem tracks_note (n : Notice) (h : ∀ config held, P config held (.notice n)) :
    Tracks P (note n : Step σ Unit) := by
  refine tracks_of_same id (fun _ => rfl) (fun _ _ h => nomatch h)
    fun {_ s _ held} _ event hevent => ?_
  rw [List.mem_singleton.1 hevent]
  exact h s.config held

theorem Tracks.catching {m : Step σ α} (hm : Tracks P m) : Tracks P m.catching :=
  ⟨hm.holds, hm.config, hm.permits⟩

theorem Tracks.mono {P' : Config → Option Login → Event → Prop} {m : Step σ α} (hm : Tracks P m)
    (h : ∀ config held event, P config held event → P' config held event) : Tracks P' m :=
  ⟨hm.holds, hm.config, fun hheld _ _ _ htrace => h _ _ _ (hm.permits hheld htrace)⟩

/-- Where an item of two lists in turn stands. -/
theorem append_eq_append_cons {ε : Type} {t t' before after : List ε} {event : ε}
    (h : t ++ t' = before ++ event :: after) :
    (∃ rest, t = before ++ event :: rest) ∨ ∃ later, before = t ++ later ∧
      t' = later ++ event :: after := by
  rcases List.append_eq_append_iff.1 h with ⟨later, hbefore, ht'⟩ | ⟨rest, ht, hrest⟩
  · exact .inr ⟨later, hbefore, ht'⟩
  · cases rest with
    | nil =>
      rw [List.append_nil] at ht
      exact .inr ⟨[], by rw [ht, List.append_nil], hrest.symm⟩
    | cons first rest =>
      obtain ⟨rfl, -⟩ := List.cons.inj hrest
      exact .inl ⟨rest, ht⟩

/-- A sequence of two steps that keep track is another: the second starts from
what the first holds. -/
theorem Tracks.bind {m : Step σ α} {f : α → Step σ β} (hm : Tracks P m) (hf : ∀ a, Tracks P (f a)) :
    Tracks P (m >>= f) where
  holds {d s w held} h := by
    have hfirst := hm.holds (d := d) (w := w) h
    have hconfig := hm.config (d := d) (w := w) h
    cases hr : (m d s w).result with
    | error e =>
      rw [bind_of_error hr]
      exact hfirst
    | ok a =>
      -- the second step starts from what the first one holds
      have hsecond := (hf a).holds (d := d) (w := (m d s w).state) hfirst
      rw [hconfig] at hsecond
      rw [bind_of_ok hr, loginAfter_append]
      exact hsecond
  config {d s w held} h := by
    have hconfig := hm.config (d := d) (w := w) h
    cases hr : (m d s w).result with
    | error e =>
      rw [bind_of_error hr]
      exact hconfig
    | ok a =>
      rw [bind_of_ok hr]
      exact ((hf a).config (hm.holds h)).trans hconfig
  permits {d s w held} h before event after htrace := by
    cases hr : (m d s w).result with
    | error e =>
      rw [bind_of_error hr] at htrace
      exact hm.permits h htrace
    | ok a =>
      rw [bind_of_ok hr] at htrace
      -- the event is one of the first step, or one of the second after all of the first
      rcases append_eq_append_cons htrace with ⟨rest, hfirst⟩ | ⟨later, rfl, hsecond⟩
      · exact hm.permits h hfirst
      · have hpermits := (hf a).permits (hm.holds h) hsecond
        rw [hm.config h] at hpermits
        rw [loginAfter_append]
        exact hpermits

/-- A login keeps track, if its request is permitted whatever was held before. -/
theorem tracks_authorize (h : ∀ {s : Session} {held answer}, s.Holds held →
      P s.config held (.exchange .authorization s.loginRequest answer)) :
    Tracks P (authorize : Step σ Unit) := by
  refine ⟨fun {d s w held} hheld => ?_, fun {d s w held} _ => ?_,
    fun {d s w held} hheld before event after htrace => ?_⟩
  · rw [authorize_apply]
    split
    · rename_i hurl
      dsimp only
      cases hanswer : Login.ofAnswer s.config.tokenUrl (d s.loginRequest w).1 with
      | error e =>
        have hafter : loginAfter s.config.tokenUrl held
            [.exchange .authorization s.loginRequest (d s.loginRequest w).1] = none :=
          congrArg Except.toOption hanswer
        rw [hafter]
        exact Session.holds_forget hheld.sound
      | ok login =>
        have hafter : loginAfter s.config.tokenUrl held
            [.exchange .authorization s.loginRequest (d s.loginRequest w).1] = some login :=
          congrArg Except.toOption hanswer
        rw [hafter]
        exact Session.holds_install hheld.sound hurl login
    · -- no login could have succeeded either, so there is none to forget
      rename_i hurl
      have hnone : held = none := by
        cases held with
        | none => rfl
        | some login => exact absurd (hheld.requestable rfl) hurl
      subst hnone
      exact Session.holds_forget hheld.sound
  · rw [authorize_apply]
    split
    · dsimp only
      split <;> rfl
    · rfl
  · have hevent : event = .exchange .authorization s.loginRequest (d s.loginRequest w).1 ∧
        before = [] := by
      rw [authorize_trace] at htrace
      split at htrace
      · cases before with
        | nil => exact ⟨(List.cons.inj htrace).1.symm, rfl⟩
        | cons first rest => exact absurd (List.cons.inj htrace).2 (by simp)
      · exact absurd htrace (by simp)
    obtain ⟨rfl, rfl⟩ := hevent
    exact h hheld

end Step

end StackWatch
