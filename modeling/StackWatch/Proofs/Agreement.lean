import StackWatch.Proofs.Rearranging
import StackWatch.Proofs.Steady

/-!
# Sessions that are answered with the same items

Two deployments without a state bring the `SameItems` if the second answers as the first does, but
for the order in which it lists the items of its collections. Two sessions are `Level` if they hold
the same login and have read the same. A step `Agrees` on the two sides if from level sessions it
comes to related values, or fails on both, and leaves level sessions. That is a matter of single
stations: `agrees_attempt` follows for every query.

On which failure of several a query comes may depend on the order, and with it whether there is a
new login. Under a login that would be granted again that makes no difference: what failed once
fails again (`Query.perform_of_failed`), so a query comes to the same data on both sides
(`Query.perform_sameItems`).
-/

namespace StackWatch

/-- Whether the order of the items is free under a member of what a URL, in wire form, is
answered with: everywhere but in the list of the user's projects, whose order is that in
which they are reported. -/
def Config.OrderIsFree (config : Config) (url member : String) : Prop :=
  ¬ (url = Url.wire config.projectsUrl ∧ member = "projects")

/-- Two deployments without a state that answer alike, but for the order of items. -/
structure SameItems (config : Config) (answer answer' : Request → Answer) : Prop where
  post : ∀ request : Request, request.method = .post → answer' request = answer request
  get : ∀ request : Request, request.method = .get →
    (answer request).SameItems (config.OrderIsFree request.url) (answer' request)

theorem SameItems.refl (config : Config) (answer : Request → Answer) :
    SameItems config answer answer :=
  ⟨fun _ _ => rfl, fun _ _ => .same _⟩

namespace Session

/-- Two sessions under one login that have read the same. -/
structure Level (config : Config) (s s' : Session) : Prop where
  sound : s.Sound
  sound' : s'.Sound
  configured : s.config = config
  stays : ∀ site, s.Stays site s'

namespace Level

variable {config : Config} {s s' s'' : Session}

theorem configured' (h : s.Level config s') : s'.config = config :=
  (h.stays "").config.trans h.configured

theorem symm (h : s.Level config s') : s'.Level config s :=
  ⟨h.sound', h.sound, h.configured', fun site => (h.stays site).symm⟩

theorem trans (h : s.Level config s') (h' : s'.Level config s'') : s.Level config s'' :=
  ⟨h.sound, h'.sound', h.configured, fun site => (h.stays site).trans (h'.stays site)⟩

/-- A session that stays under its login and reads nothing. -/
theorem of_sameLogin (hs : s.Sound) (hs' : s'.Sound) (hconfigured : s.config = config)
    (hsame : s.SameLogin s') (hledger : s'.ledger = s.ledger) : s.Level config s' :=
  ⟨hs, hs', hconfigured, fun _ => .of_sameLogin hsame fun _ _ => by rw [hledger]⟩

theorem endpoint? (h : s.Level config s') (c : Component) : s'.endpoint? c = s.endpoint? c :=
  (h.stays "").endpoint? h.sound h.sound' c

/-- No text is as long as itself and one more, so every URL is off some site. -/
theorem mem_urls (h : s.Level config s') (url : String) :
    url ∈ s'.ledger.urls ↔ url ∈ s.ledger.urls := by
  refine (h.stays (Url.wire url ++ "/")).ledger url fun heq => ?_
  have hlength := congrArg String.length heq
  rw [String.length_append] at hlength
  exact absurd hlength (by simp)

theorem contains (h : s.Level config s') (url : String) :
    s'.ledger.contains url = s.ledger.contains url := by
  rw [Bool.eq_iff_iff, Ledger.contains_iff, Ledger.contains_iff]
  exact h.mem_urls url

theorem forget (h : s.Level config s') : s.forget.Level config s'.forget :=
  ⟨(holds_forget h.sound).sound, (holds_forget h.sound').sound, h.configured, fun site =>
    (h.stays site).forget⟩

theorem relogged (h : s.Level config s') (login : Login) :
    (s.relogged login).Level config (s'.relogged login) :=
  ⟨.of_empty h.sound.interface rfl rfl, .of_empty h.sound'.interface rfl rfl,
    h.configured, fun site => (h.stays site).relogged login⟩

/-- Both sides may choose a project. -/
theorem withProject (h : s.Level config s') (project : Option String) :
    Session.Level config { s with project } { s' with project } where
  sound := ⟨h.sound.interface, h.sound.found, h.sound.clients⟩
  sound' := ⟨h.sound'.interface, h.sound'.found, h.sound'.clients⟩
  configured := h.configured
  stays site := { h.stays site with project := rfl }

/-- Both sides may read the same. -/
theorem withEntry (h : s.Level config s') (url : String) :
    (s.withEntry url).Level config (s'.withEntry url) := by
  refine ⟨h.sound.withLedger _, h.sound'.withLedger _, h.configured, fun site =>
    { h.stays site with ledger := fun url' _ => ?_ }⟩
  change url' ∈ (s'.ledger.insert url).urls ↔ url' ∈ (s.ledger.insert url).urls
  rw [Ledger.mem_urls_insert, Ledger.mem_urls_insert, h.mem_urls]

/-- Both sides may remember what they like, if it is what their catalog gives. -/
theorem remember {t t' : Session} (h : s.Level config s') (ht : t.Sound) (hsame : s.SameLogin t)
    (hledger : t.ledger = s.ledger) (ht' : t'.Sound) (hsame' : s'.SameLogin t')
    (hledger' : t'.ledger = s'.ledger) : t.Level config t' :=
  ((of_sameLogin h.sound ht h.configured hsame hledger).symm.trans h).trans
    (of_sameLogin h.sound' ht' h.configured' hsame' hledger')

end Level

end Session

namespace Step

variable {config : Config} {answer answer' : Request → Answer} {α β γ δ : Type} {R : α → β → Prop}
  {S : γ → δ → Prop} {m : Step Unit α} {m' : Step Unit β}

/-- What a step comes to on two sides. -/
structure Agree (config : Config) (R : α → β → Prop) (o : Outcome Unit α) (o' : Outcome Unit β) :
    Prop where
  result : Both R o.result o'.result
  level : o.session.Level config o'.session

/-- Two steps that in level sessions come to related values, or fail both. -/
def Agrees (config : Config) (answer answer' : Request → Answer)
    (R : α → β → Prop) (m : Step Unit α) (m' : Step Unit β) : Prop :=
  ∀ ⦃s s'⦄, s.Level config s' →
    Agree config R (m (.stateless answer) s ()) (m' (.stateless answer') s' ())

/-! ## Rules -/

theorem agrees_pure {a : α} {b : β} (h : R a b) :
    Agrees config answer answer' R (pure a) (pure b) :=
  fun _ _ hlevel => ⟨.ok h, hlevel⟩

theorem agrees_ofExcept {result : Except ApiError α} {result' : Except ApiError β}
    (h : Both R result result') :
    Agrees config answer answer' R (ofExcept result) (ofExcept result') :=
  fun _ _ hlevel => ⟨h, hlevel⟩

theorem agrees_note (n : Notice) : Agrees config answer answer' Eq (note n) (note n) :=
  fun _ _ hlevel => ⟨.ok rfl, hlevel⟩

theorem Agrees.bind {f : α → Step Unit γ} {g : β → Step Unit δ}
    (hm : Agrees config answer answer' R m m')
    (hfg : ∀ a b, R a b → Agrees config answer answer' S (f a) (g b)) :
    Agrees config answer answer' S (m >>= f) (m' >>= g) := by
  intro s s' hlevel
  obtain ⟨hresult, hlevel⟩ := hm hlevel
  generalize hr : (m (.stateless answer) s ()).result = result at hresult
  generalize hr' : (m' (.stateless answer') s' ()).result = result' at hresult
  cases hresult with
  | ok h =>
    obtain ⟨hresult, hlevel⟩ := hfg _ _ h hlevel
    rw [bind_of_ok hr, bind_of_ok hr']
    exact ⟨hresult, hlevel⟩
  | error e e' =>
    rw [bind_of_error hr, bind_of_error hr']
    exact ⟨.error e e', hlevel⟩

/-- A step that comes to one value goes on with it. -/
theorem Agrees.bind_eq {m m' : Step Unit α} {f : α → Step Unit γ} {g : α → Step Unit δ}
    (hm : Agrees config answer answer' Eq m m')
    (hfg : ∀ a, Agrees config answer answer' S (f a) (g a)) :
    Agrees config answer answer' S (m >>= f) (m' >>= g) :=
  hm.bind fun a _ heq => heq ▸ hfg a

/-! ## Stations -/

variable (h : SameItems config answer answer')
include h

theorem agrees_send (purpose : Purpose) (url : String) :
    Agrees config answer answer' (Response.SameItems (config.OrderIsFree (Url.wire url)))
      (send purpose .get url none) (send purpose .get url none) := by
  intro s s' hlevel
  have hhttp := (hlevel.stays "").http
  cases hr : s.http.request? .get url none with
  | none =>
    rw [send_of_no_request hr, send_of_no_request (hhttp ▸ hr)]
    exact ⟨.error _ _, hlevel⟩
  | some request =>
    obtain ⟨-, hget, hurl, -⟩ := HttpClient.token_of_request? hr
    rw [send_of_request hr, send_of_request (hhttp ▸ hr), ← hurl]
    exact ⟨HttpClient.receive_sameItems url (h.get request hget), hlevel⟩

/-- A fetch agrees if what is read off responses with the same items does. -/
theorem agrees_fetch (client : Client) (r : Resource) {read : Response → Except ApiError α}
    {T : α → α → Prop}
    (hread : ∀ {free : String → Prop} {response response' : Response},
      response.SameItems free response' → Both T (read response) (read response')) :
    Agrees config answer answer' T (fetch client r read) (fetch client r read) :=
  (agrees_send h _ _).bind fun _ _ hsame => agrees_ofExcept (hread hsame)

theorem agrees_fetchItems (client : Client) (r : Resource) :
    Agrees config answer answer' (Rearranged r.member) (fetchItems client r)
      (fetchItems client r) := by
  refine agrees_fetch h client r fun hsame => ?_
  refine (hsame.array r.member).mono fun items items' hitems => ?_
  rcases hitems with rfl | ⟨-, hitems⟩
  · exact .same
  · exact hitems

theorem agrees_fetchObject (client : Client) (r : Resource) :
    Agrees config answer answer' SameObject (fetchObject client r) (fetchObject client r) :=
  agrees_fetch h client r fun hsame => hsame.field r.member

omit h

/-- Both sides find the same endpoint, or neither finds one. -/
theorem agrees_finds {c : Component} {value : Config → String → α}
    {remembering : Session → String → Session} {m : Step Unit α}
    (hm : Finds c value remembering m) : Agrees config answer answer' Eq m m := by
  intro s s' hlevel
  rw [hm.apply hlevel.sound, hm.apply hlevel.sound', hlevel.endpoint? c, (hlevel.stays "").config]
  cases hendpoint : s.endpoint? c with
  | none => exact ⟨.error _ _, hlevel⟩
  | some endpoint =>
    have hendpoint' := (hlevel.endpoint? c).trans hendpoint
    exact ⟨.ok rfl, hlevel.remember (hm.sound hlevel.sound hendpoint) (hm.same s endpoint)
      (hm.ledger s endpoint) (hm.sound hlevel.sound' hendpoint') (hm.same s' endpoint)
      (hm.ledger s' endpoint)⟩

theorem agrees_wasRead (url : String) :
    Agrees config answer answer' Eq (wasRead url) (wasRead url) :=
  fun _ _ hlevel => ⟨.ok (hlevel.contains url).symm, hlevel⟩

theorem agrees_enter (url : String) : Agrees config answer answer' Eq (enter url) (enter url) :=
  fun _ _ hlevel => ⟨.ok rfl, hlevel.withEntry url⟩

theorem agrees_reading {r : Resource} {read : Client → Step Unit α}
    (hread : ∀ client, Agrees config answer answer' Eq (read client) (read client)) :
    Agrees config answer answer' Eq (reading r read) (reading r read) := by
  refine (agrees_finds (finds_clientOf r.component)).bind_eq fun client => ?_
  split
  · refine (agrees_wasRead _).bind_eq fun before => ?_
    split
    · exact agrees_pure rfl
    · refine (hread client).bind_eq fun value => ?_
      exact (agrees_enter _).bind_eq fun _ => agrees_pure rfl
  · exact (agrees_note _).bind_eq fun _ => agrees_pure rfl

/-! ## Probes -/

include h

theorem agrees_timed (c : Component) (url : String) :
    Agrees config answer answer' Eq (timed c url) (timed c url) := by
  refine (agrees_wasRead url).bind_eq fun before => ?_
  split
  · exact agrees_pure rfl
  · refine (agrees_send h _ _).bind fun response response' hsame => ?_
    refine (agrees_enter url).bind_eq fun _ => agrees_pure ?_
    rw [hsame.milliseconds]

/-- A probe comes to the same time, or fails on both sides. -/
theorem agrees_probe (p : Probe) : Agrees config answer answer' Eq (probe p) (probe p) := by
  cases p with
  | apiRoot c =>
    exact (agrees_finds (finds_endpointOf c)).bind_eq fun endpoint => agrees_timed h c endpoint
  | blockStorageRoot =>
    exact (agrees_finds (finds_clientOf .blockStorage)).bind_eq fun client => agrees_timed h _ _

/-! ## Servers -/

theorem agrees_flavorOf (client : Client) (flavor : Json) :
    Agrees config answer answer' Eq (flavorOf client flavor) (flavorOf client flavor) := by
  unfold flavorOf
  split
  · refine (agrees_fetchObject h client _).bind fun detail detail' hsame => agrees_pure ?_
    rw [hsame.getOrNull, flavorMetrics, flavorMetrics, hsame.project]
  · exact agrees_pure rfl

theorem agrees_serverEntity (client : Client) (server : Json) :
    Agrees config answer answer' Eq (serverEntity client server) (serverEntity client server) := by
  unfold serverEntity
  split
  · exact (agrees_flavorOf h client _).bind_eq fun found => agrees_pure rfl
  · exact agrees_pure rfl

omit h

/-- The entry of one server, in a session that asks for its flavor. -/
def serverEntry (answer : Request → Answer) (s : Session) (client : Client)
    (url : String) (server : Json) : Except ApiError (Option (String × Entity)) :=
  match (serverEntity client server (.stateless answer) s ()).result with
  | .error e => .error e
  | .ok entity => (entityId url server).map fun id => some (id, entity)

/-- Looking up flavors leaves the session as it is, so each server comes to its entry by itself. By
induction on the servers. -/
theorem serverEntries_result (answer : Request → Answer) (s : Session)
    (client : Client) (url : String) :
    ∀ servers, (serverEntries client url servers (.stateless answer) s ()).result =
      gather (serverEntry answer s client url) servers
  | [] => rfl
  | server :: rest => by
    have hsession := (looks_serverEntity client server (.stateless answer) s ()).1
    have hrest := serverEntries_result answer s client url rest
    unfold serverEntries gather serverEntry
    cases hentity : (serverEntity client server (.stateless answer) s ()).result with
    | error e => rw [bind_of_error hentity]
    | ok entity =>
      rw [bind_of_ok hentity, hsession]
      cases hid : entityId url server with
      | error e => rfl
      | ok id =>
        change ((serverEntries client url rest >>= fun entries => pure ((id, entity) :: entries))
          (.stateless answer) s ()).result = _
        rw [bind_pure_apply, hrest]
        rfl

theorem serverEntries_session (answer : Request → Answer) (s : Session)
    (client : Client) (url : String) (servers : List Json) :
    (serverEntries client url servers (.stateless answer) s ()).session = s :=
  (looks_serverEntries client url servers (.stateless answer) s ()).1

include h

/-- **Servers in another order** become the same map, or none on either side, whichever of their
flavors cannot be looked up. -/
theorem agrees_serverEntries (client : Client) (url : String) {servers servers' : List Json}
    (hservers : Rearranged "servers" servers servers') :
    Agrees config answer answer' Eq (serverEntries client url servers >>=
      fun e => pure (KeyMap.ofList e))
      (serverEntries client url servers' >>= fun e => pure (KeyMap.ofList e)) := by
  intro s s' hlevel
  rw [bind_pure_apply, bind_pure_apply, serverEntries_result, serverEntries_result,
    serverEntries_session, serverEntries_session]
  refine ⟨?_, hlevel⟩
  -- each server comes to the same on both sides
  have hentry : ∀ server, Both Eq (serverEntry answer s client url server)
      (serverEntry answer' s' client url server) := by
    intro server
    have hentity := (agrees_serverEntity h client server hlevel).result
    unfold serverEntry
    generalize (serverEntity client server (.stateless answer) s ()).result = result at hentity
    generalize (serverEntity client server (.stateless answer') s' ()).result = result' at hentity
    cases hentity with
    | error e e' => exact .error e e'
    | ok heq => exact heq ▸ .refl _
  have hkey : ∀ server id entity, serverEntry answer' s' client url server =
      .ok (some (id, entity)) →
      itemKey? "servers" server = some id := by
    intro server id entity hserver
    unfold serverEntry at hserver
    split at hserver
    · cases hserver
    · obtain ⟨id', hid, heq⟩ := eq_ok_of_map hserver
      obtain rfl : id' = id := congrArg Prod.fst (Option.some.inj heq)
      change (entityId "" server).toOption = some id'
      rw [← toOption_entityId url, hid]
      rfl
  have hsame : Both Eq (gather (serverEntry answer s client url) servers)
      (gather (serverEntry answer' s' client url) servers) :=
    gather_congr fun server _ => hentry server
  exact (hsame.map (S := Eq) fun _ _ heq => congrArg KeyMap.ofList heq).trans_eq
    (gather_rearranged hkey hservers)

/-! ## Attempts -/

theorem agrees_limitsAt (client : Client) (r : Resource) (member : String)
    (hkey : ∀ item, itemKey? r.member item = (entityId "" item).toOption) :
    Agrees config answer answer' Eq (limitsAt client r member) (limitsAt client r member) := by
  refine (agrees_wasRead _).bind_eq fun before => ?_
  split
  · exact agrees_pure rfl
  · refine (agrees_fetchItems h client r).bind fun items items' hitems => ?_
    exact (agrees_ofExcept (collectLimits_rearranged member _ hkey hitems)).bind_eq
      fun _ => agrees_pure rfl

omit h

theorem agrees_enterIf (client : Client) (r : Resource) (limits : Option (KeyMap Entity)) :
    Agrees config answer answer' Eq (enterIf client r limits) (enterIf client r limits) := by
  cases limits with
  | none => exact agrees_pure rfl
  | some limits => exact agrees_enter _

theorem agrees_joinLimits (client : Client) (registered limits : Option (KeyMap Entity)) :
    Agrees config answer answer' Eq (joinLimits client registered limits)
      (joinLimits client registered limits) := by
  refine (agrees_enterIf client _ registered).bind_eq fun _ => ?_
  refine (agrees_enterIf client _ limits).bind_eq fun _ => ?_
  split
  · exact agrees_pure rfl
  · exact agrees_pure rfl

include h

/-- The projects are listed in the same order. -/
theorem agrees_authProjects : Agrees config answer answer' Eq authProjects authProjects := by
  intro s s' hlevel
  rw [authProjects, bind_quiet (m := get) rfl, bind_quiet (m := get) rfl, hlevel.configured,
    hlevel.configured']
  refine ((agrees_send h _ _).bind fun response response' hsame => ?_) hlevel
  have hitems : Both Eq (response.array "projects") (response'.array "projects") :=
    (hsame.array "projects").mono fun _ _ hitems =>
      hitems.resolve_right fun hfree => hfree.1 ⟨rfl, rfl⟩
  refine (agrees_ofExcept hitems).bind_eq fun items => ?_
  exact (agrees_ofExcept (.refl _)).bind_eq fun projects => agrees_pure rfl

theorem agrees_figures (r : Resource) (spec : Spec) :
    Agrees config answer answer' Eq (figures r spec) (figures r spec) := by
  refine agrees_reading fun client => ?_
  refine (agrees_fetchObject h client r).bind fun object object' hsame => agrees_pure ?_
  rw [hsame.project]

/-- **An attempt at a query** comes to the same on both sides, or fails on both. -/
theorem agrees_attempt {shape : Shape} (q : Query shape) :
    Agrees config answer answer' Eq q.attempt q.attempt := by
  cases q with
  | authProjects => exact agrees_authProjects h
  | listing l =>
    refine agrees_reading (r := .listing l) fun client => ?_
    refine (agrees_fetchItems h client _).bind fun items items' hitems => ?_
    exact agrees_ofExcept (l.collect_rearranged _ hitems)
  | identityLimits =>
    refine (agrees_finds (finds_clientOf .identity)).bind_eq fun client => ?_
    refine (agrees_limitsAt h client _ _ fun _ => rfl).bind_eq fun registered => ?_
    refine (agrees_limitsAt h client _ _ fun _ => rfl).bind_eq fun limits => ?_
    exact agrees_joinLimits client registered limits
  | quotaSet project =>
    refine agrees_reading (r := .quotaSet project) fun client => ?_
    refine (agrees_fetchObject h client _).bind fun object object' hsame => ?_
    rw [hsame.entityId, Form.quotaSet, hsame.entity_plain]
    exact (agrees_ofExcept (.refl _)).bind_eq fun id => agrees_pure rfl
  | servers project =>
    refine agrees_reading (r := .servers project) fun client => ?_
    exact (agrees_fetchItems h client _).bind fun items items' hitems =>
      agrees_serverEntries h client _ hitems
  | networkQuotas project =>
    refine agrees_reading (r := .networkQuotas project) fun client => ?_
    refine (agrees_fetchObject h client _).bind fun object object' hsame => agrees_pure ?_
    rw [Form.networkQuotas, hsame.entity_plain]
  | computeLimits | loadBalancerStatistics _ | listenerStatistics _ => exact agrees_figures h _ _

end Step

/-! ## Queries -/

namespace Session.Steady

variable {config : Config} {answer answer' : Request → Answer} {login : Login} {s s' : Session}

/-- A login that would be granted again is granted again on the other side. -/
theorem level (h : s.Steady answer login) (hitems : SameItems config answer answer')
    (hlevel : s.Level config s') : s'.Steady answer' login := by
  have hs' := (hlevel.stays "").steady h hlevel.sound'
  refine ⟨hs'.holds, ?_⟩
  rw [hitems.post s'.loginRequest rfl]
  exact hs'.granted

end Session.Steady

namespace Query

variable {config : Config} {answer answer' : Request → Answer} {login : Login} {shape : Shape}
  {q : Query shape} {s s' : Session}

/-- An attempt that fails reads nothing. -/
theorem level_attempt_of_failed (hs : s.Sound) (hconfigured : s.config = config) {e : ApiError}
    (h : (q.attempt (.stateless answer) s ()).result = .error e) :
    s.Level config (q.attempt (.stateless answer) s ()).session := by
  obtain ⟨hsound, hsame⟩ := q.attempt_keeps (d := .stateless answer) (w := ()) hs
  refine .of_sameLogin hs hsound hconfigured hsame
    (q.attempt_ledger_of_no_data hs fun value hvalue => ?_)
  cases h.symm.trans hvalue

/-- After it a login brings back the same session. -/
theorem level_restart_of_failed (hs : s.Steady answer login)
    (hconfigured : s.config = config) {e : ApiError}
    (h : (q.attempt (.stateless answer) s ()).result = .error e) :
    s.Level config (q.restart (.stateless answer) s ()) := by
  have hfirst := level_attempt_of_failed hs.holds.sound hconfigured h
  have hsteady := (hfirst.stays "").steady hs hfirst.sound'
  have hrestart : q.restart (.stateless answer) s () =
      (q.attempt (.stateless answer) s ()).session.relogged login :=
    congrArg Outcome.session hsteady.authorize
  rw [hrestart]
  exact hfirst.trans ⟨hfirst.sound', (hsteady.relogged "").1.holds.sound, hfirst.configured',
    fun site => (hsteady.relogged site).2⟩

/-- **A query whose first attempt fails** comes to no data and reads nothing. A second attempt
starts from a session that has read the same and is answered the same, so that it fails as well. -/
theorem perform_of_failed (hs : s.Steady answer login)
    (hconfigured : s.config = config) {e : ApiError}
    (h : (q.attempt (.stateless answer) s ()).result = .error e) :
    (q.perform (.stateless answer) s ()).result.toOption.join = none ∧
      s.Level config (q.perform (.stateless answer) s ()).session := by
  have hfirst := level_attempt_of_failed hs.holds.sound hconfigured h
  have hrestart := level_restart_of_failed hs hconfigured h
  obtain ⟨e', hfails⟩ :=
    (Step.agrees_attempt (.refl config answer) q hrestart).result.error_of_error h
  cases q.course (.stateless answer) s () with
  | served hok => cases h.symm.trans hok
  | failed _ _ _ hwhole =>
    rw [hwhole]
    exact ⟨rfl, hfirst⟩
  | broken hresult _ hwhole =>
    rw [hwhole, hresult]
    exact ⟨rfl, hfirst⟩
  | locked _ _ hlogin =>
    -- the login does not fail
    rw [((hfirst.stays "").steady hs hfirst.sound').authorize] at hlogin
    cases hlogin
  | again _ _ _ hsecond => cases hfails.symm.trans hsecond
  | lost _ _ _ hsecond hwhole =>
    rw [hwhole]
    exact ⟨rfl, hrestart.trans
      (level_attempt_of_failed hrestart.sound' hrestart.configured' hsecond)⟩

/-- **A query** comes to the same data on both sides, and leaves the sessions level and under the
login that they hold. -/
theorem perform_sameItems (hitems : SameItems config answer answer') (hlevel : s.Level config s')
    (hs : s.Steady answer login) (q : Query shape) :
    (q.perform (.stateless answer') s' ()).result.toOption.join =
        (q.perform (.stateless answer) s ()).result.toOption.join ∧
      (q.perform (.stateless answer) s ()).session.Level config
        (q.perform (.stateless answer') s' ()).session ∧
      (q.perform (.stateless answer) s ()).session.Steady answer login := by
  have hs' := hs.level hitems hlevel
  obtain ⟨hresult, hafter⟩ := Step.agrees_attempt hitems q hlevel
  generalize hfirst : (q.attempt (.stateless answer) s ()).result = result at hresult
  generalize hfirst' : (q.attempt (.stateless answer') s' ()).result = result' at hresult
  cases hresult with
  | ok heq =>
    subst heq
    obtain ⟨hsound, hsame⟩ := q.attempt_keeps (d := .stateless answer) (w := ()) hs.holds.sound
    rw [perform_of_served hfirst, perform_of_served hfirst', hfirst, hfirst']
    exact ⟨rfl, hafter, hs.of_sameLogin hsound hsame⟩
  | error e e' =>
    obtain ⟨hnone, hmoved⟩ := perform_of_failed hs hlevel.configured hfirst
    obtain ⟨hnone', hmoved'⟩ := perform_of_failed hs' hlevel.configured' hfirst'
    refine ⟨hnone'.trans hnone.symm, (hmoved.symm.trans hlevel).trans hmoved', ?_⟩
    exact (hmoved.stays "").steady hs hmoved.sound'

end Query

end StackWatch
