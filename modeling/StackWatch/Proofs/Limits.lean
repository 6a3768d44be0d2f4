import StackWatch.Proofs.Entries
import StackWatch.Proofs.Indexing

/-!
# The limits of identity

Identity keeps its limits in two collections, the registered ones and those of projects and domains.
One attempt reads those of the two that have not been entered (`Session.ReadsBoth`), joins what it
has read (`limitOf`) and enters it, or it fails, and then nothing is entered, however much of it had
been read (`Step.identityLimits_cases`). A query for the limits comes to what its last attempt comes
to, so the data of two attempts, which may be under two logins, are never joined
(`Session.Reachable.limits_joined`).
-/

namespace StackWatch

namespace Session

variable {σ : Type}

/-- What a session comes to with one of the two collections, and the state in which that leaves the
deployment: nothing if the collection has been entered, and otherwise its items, if they can be had
and all be identified. -/
inductive ReadsLimits (s : Session) (d : Deployment σ) (endpoint : String) (r : Resource) (w : σ) :
    Option (List Json) → σ → Prop where
  | entered (h : r.url endpoint ∈ s.ledger.urls) : ReadsLimits s d endpoint r w none w
  | fetched {items : List Json} {w' : σ} (hunread : r.url endpoint ∉ s.ledger.urls)
      (hitems : s.gotItems d endpoint r w = (.ok items, w'))
      (hidentified : ∀ item ∈ items, item.id?.isSome = true) :
      ReadsLimits s d endpoint r w (some items) w'

/-- What a session comes to with both collections, the registered limits first. -/
def ReadsBoth (s : Session) (d : Deployment σ) (endpoint : String) (w : σ)
    (registered limits : Option (List Json)) : Prop :=
  ∃ w' w'', s.ReadsLimits d endpoint .registeredLimits w registered w' ∧
    s.ReadsLimits d endpoint .limits w' limits w''

section Reads

variable {s s' : Session} {d : Deployment σ} {endpoint : String} {r : Resource} {w w' : σ}
  {items : Option (List Json)}

/-- What can be read depends on what a session sends along and has entered, and
on nothing else of it. -/
theorem ReadsLimits.of_same (hhttp : s'.http = s.http) (hledger : s'.ledger = s.ledger)
    (h : s.ReadsLimits d endpoint r w items w') : s'.ReadsLimits d endpoint r w items w' := by
  have hgot : s'.gotItems d endpoint r w = s.gotItems d endpoint r w := by
    rw [gotItems, gotItems, gotBy_of_http hhttp]
  cases h with
  | entered h => exact .entered (hledger ▸ h)
  | fetched hunread hitems hidentified =>
    exact .fetched (hledger ▸ hunread) (hgot.trans hitems) hidentified

theorem ReadsBoth.of_same (hhttp : s'.http = s.http) (hledger : s'.ledger = s.ledger)
    {registered limits : Option (List Json)} (h : s.ReadsBoth d endpoint w registered limits) :
    s'.ReadsBoth d endpoint w registered limits := by
  obtain ⟨w', w'', hregistered, hlimits⟩ := h
  exact ⟨w', w'', hregistered.of_same hhttp hledger, hlimits.of_same hhttp hledger⟩

/-- A collection that has not been entered is fetched. -/
theorem ReadsLimits.got_of_unread (h : s.ReadsLimits d endpoint r w items w')
    (hunread : r.url endpoint ∉ s.ledger.urls) :
    ∃ fetched, items = some fetched ∧ s.gotItems d endpoint r w = (.ok fetched, w') ∧
      ∀ item ∈ fetched, item.id?.isSome = true := by
  cases h with
  | entered h => exact absurd h hunread
  | fetched _ hitems hidentified => exact ⟨_, rfl, hitems, hidentified⟩

/-- What is read is determined by the state. -/
theorem ReadsLimits.unique {items₁ items₂ : Option (List Json)} {w₁ w₂ : σ}
    (h₁ : s.ReadsLimits d endpoint r w items₁ w₁) (h₂ : s.ReadsLimits d endpoint r w items₂ w₂) :
    items₁ = items₂ ∧ w₁ = w₂ := by
  cases h₁ with
  | entered h =>
    cases h₂ with
    | entered => exact ⟨rfl, rfl⟩
    | fetched hunread => exact absurd h hunread
  | fetched hunread hitems =>
    obtain ⟨fetched, rfl, hitems', -⟩ := h₂.got_of_unread hunread
    obtain ⟨hsame, hstate⟩ := Prod.mk.inj (hitems.symm.trans hitems')
    exact ⟨congrArg some (Except.ok.inj hsame), hstate⟩

/-- What is fetched had not been entered. -/
theorem ReadsLimits.unread (h : s.ReadsLimits d endpoint r w items w')
    (hsome : items.isSome = true) : r.url endpoint ∉ s.ledger.urls := by
  cases h with
  | entered => cases hsome
  | fetched hunread => exact hunread

end Reads

end Session

/-- The limit under an identifier: that of a project or domain, or else the registered one. -/
def limitOf (registered limits : Option (List Json)) (id : String) : Option Entity :=
  ((lastKeyed Json.id? id (limits.getD [])).map (Form.limit "resource_limit").entity).or
    ((lastKeyed Json.id? id (registered.getD [])).map (Form.limit "default_limit").entity)

/-- The collections of limits that were fetched. -/
def fetchedLimits (registered limits : Option (List Json)) : List Resource :=
  (if registered.isSome then [.registeredLimits] else []) ++
    (if limits.isSome then [.limits] else [])

theorem mem_fetchedLimits {registered limits : Option (List Json)} {r : Resource} :
    r ∈ fetchedLimits registered limits ↔
      r = .registeredLimits ∧ registered.isSome = true ∨ r = .limits ∧ limits.isSome = true := by
  cases registered <;> cases limits <;> simp [fetchedLimits]

/-- What is fetched of both collections is joined and entered. -/
structure LimitsJoined {σ : Type} (s : Session) (endpoint : String)
    (registered limits : Option (List Json)) (o : Outcome σ (Option (KeyMap Entity))) : Prop where
  /-- there are data if anything was fetched -/
  succeeds : ∃ value, o.result = .ok value ∧ (value = none ↔ registered = none ∧ limits = none)
  data : ∀ m, o.result = .ok (some m) → ∀ id, m.get? id = limitOf registered limits id
  requests : o.requests = (fetchedLimits registered limits).map
    fun r => s.getRequest (r.url endpoint)
  entered : o.session.ledger.urls = s.ledger.urls ++
    (fetchedLimits registered limits).map (·.url endpoint)

namespace Step

variable {σ : Type} {d : Deployment σ} {s : Session} {w : σ}

/-- The map of one of the two collections. -/
def IsLimits (member : String) : Option (List Json) → Option (KeyMap Entity) → Prop :=
  Option.Rel fun items m =>
    m.Indexes Json.id? (fun item e => e = (Form.limit member).entity item) items

/-- One of the two collections is read, or there is an error. -/
theorem limitsAt_reads (client : Client) (r : Resource) (member : String) :
    (∃ items w' limits trace, s.ReadsLimits d client.endpoint r w items w' ∧
      IsLimits member items limits ∧
      requestsOf trace = ((readOf r limits).map fun r => s.getRequest (r.url client.endpoint)) ∧
      limitsAt client r member d s w = ⟨.ok limits, s, w', trace⟩) ∨
    (∀ items w', ¬ s.ReadsLimits d client.endpoint r w items w') ∧
      ∃ e w' trace, limitsAt client r member d s w = ⟨.error e, s, w', trace⟩ := by
  have hbefore : (wasRead (r.url client.endpoint) : Step σ Bool) d s w =
      ⟨.ok (s.ledger.contains (r.url client.endpoint)), s, w, []⟩ := rfl
  unfold limitsAt
  rw [bind_quiet hbefore]
  by_cases hread : r.url client.endpoint ∈ s.ledger.urls
  · rw [if_pos (Ledger.contains_iff.2 hread)]
    exact .inl ⟨none, w, none, [], .entered hread, .none, rfl, rfl⟩
  · have hnew : ¬ s.ledger.contains (r.url client.endpoint) = true := by
      rwa [Ledger.contains_iff]
    have hfetch : fetchItems client r d s w = _ := fetch_apply client r _
    rw [← Session.gotItems] at hfetch
    rw [if_neg hnew]
    cases hitems : s.gotItems d client.endpoint r w with
    | mk result w' =>
      rw [hitems] at hfetch
      cases result with
      | error e =>
        rw [bind_failed hfetch]
        refine .inr ⟨?_, e, _, _, rfl⟩
        intro items w' h
        obtain ⟨fetched, -, hitems', -⟩ := h.got_of_unread hread
        cases hitems.symm.trans hitems'
      | ok items =>
        rw [bind_of_ok (by rw [hfetch]), hfetch]
        dsimp only
        unfold collectLimits
        rcases collect_id_cases (r.url client.endpoint) (Form.limit member).entity items with
          ⟨hall, m, hm, hindexes⟩ | ⟨hall, e, he⟩
        · rw [hm]
          refine .inl ⟨some items, _, some m, _, .fetched hread hitems hall,
            .some hindexes, ?_, rfl⟩
          have hrequest : requestsOf (request client r d s w).trace = _ :=
            requests_of_fetched (congrArg Prod.fst hitems)
          rw [requestsOf_append, hrequest]
          rfl
        · rw [he]
          refine .inr ⟨?_, e, _, _, rfl⟩
          intro items' w' h
          obtain ⟨fetched, -, hitems', hall'⟩ := h.got_of_unread hread
          obtain rfl := Except.ok.inj (congrArg Prod.fst (hitems.symm.trans hitems'))
          exact hall hall'

/-- The map of two collections of limits, nothing if neither was read. -/
def joined : Option (KeyMap Entity) → Option (KeyMap Entity) → Option (KeyMap Entity)
  | none, none => none
  | registered, limits => some ((registered.getD .empty).union (limits.getD .empty))

theorem joinLimits_apply (client : Client) (registered limits : Option (KeyMap Entity)) :
    joinLimits client registered limits d s w =
      ⟨.ok (joined registered limits), s.withEntries
        ((readOf .registeredLimits registered ++ readOf .limits limits).map
          (·.url client.endpoint)), w, []⟩ := by
  cases registered <;> cases limits <;> rfl

/-- In the map of both collections, a limit of a project or domain counts
before a registered one. -/
theorem get?_joined {registered limits : Option (List Json)}
    {registered' limits' : Option (KeyMap Entity)}
    (hregistered : IsLimits "default_limit" registered registered')
    (hlimits : IsLimits "resource_limit" limits limits') {m : KeyMap Entity}
    (hm : joined registered' limits' = some m) (id : String) :
    m.get? id = limitOf registered limits id := by
  have hget : ∀ {member : String} {items : Option (List Json)} {m : Option (KeyMap Entity)},
      IsLimits member items m →
        (m.getD .empty).get? id =
          (lastKeyed Json.id? id (items.getD [])).map (Form.limit member).entity := by
    intro member items m h
    cases h with
    | none => rfl
    | some h => exact KeyMap.Indexes.get?_eq h id
  have hunion : m = (registered'.getD .empty).union (limits'.getD .empty) := by
    cases registered' <;> cases limits' <;> first | exact (Option.some.inj hm).symm | cases hm
  rw [hunion, KeyMap.get?_union, hget hregistered, hget hlimits, limitOf]

/-- The limits of both collections, joined. -/
theorem limitsJoined_of_reads (client : Client) (trace : List Event)
    {registered limits : Option (List Json)} {registered' limits' : Option (KeyMap Entity)}
    (hregistered : IsLimits "default_limit" registered registered')
    (hlimits : IsLimits "resource_limit" limits limits')
    (hunread : ∀ r ∈ fetchedLimits registered limits, r.url client.endpoint ∉ s.ledger.urls)
    (htrace : requestsOf trace = (readOf .registeredLimits registered' ++
      readOf .limits limits').map fun r => s.getRequest (r.url client.endpoint)) :
    LimitsJoined s client.endpoint registered limits
      ((joinLimits client registered' limits' d s w).after trace) := by
  have hread : readOf .registeredLimits registered' ++ readOf .limits limits' =
      fetchedLimits registered limits := by
    cases hregistered <;> cases hlimits <;> rfl
  have hnodup : ((fetchedLimits registered limits).map (·.url client.endpoint)).Nodup := by
    rw [← hread]
    have hsublist := (readOf_sublist registered' limits').map fun r => r.url client.endpoint
    exact hsublist.nodup (Query.identityLimits.nodup_urls client.endpoint)
  rw [joinLimits_apply, hread]
  exact
    { succeeds := by
        refine ⟨_, rfl, ?_⟩
        cases hregistered <;> cases hlimits <;> simp [joined]
      data := fun m hm => get?_joined hregistered hlimits (Except.ok.inj hm)
      requests := by
        rw [← hread, ← htrace]
        exact congrArg requestsOf (List.append_nil trace)
      entered := by
        change (s.withEntries _).ledger.urls = _
        rw [Session.withEntries_eq, Ledger.urls_foldl_insert hnodup, List.filter_eq_self.2]
        intro url hurl
        obtain ⟨r, hr, rfl⟩ := List.mem_map.1 hurl
        simpa using hunread r hr }

/-- **One attempt at the limits.** Both collections are read and joined, or there is an error. -/
theorem limitsBy_cases (client : Client) :
    (∃ registered limits, s.ReadsBoth d client.endpoint w registered limits ∧
      LimitsJoined s client.endpoint registered limits (limitsBy client d s w)) ∨
    (∀ registered limits, ¬ s.ReadsBoth d client.endpoint w registered limits) ∧
      ∃ e, (limitsBy client d s w).result = .error e := by
  unfold limitsBy
  rcases limitsAt_reads (d := d) (s := s) (w := w) client .registeredLimits "default_limit" with
    ⟨registered, w', registered', trace, hreads, hregistered, htrace, happly⟩
      | ⟨hnone, e, w', trace, happly⟩
  · rw [bind_of_ok (by rw [happly]), happly]
    dsimp only
    rcases limitsAt_reads (d := d) (s := s) (w := w') client .limits "resource_limit" with
      ⟨limits, w'', limits', trace', hreads', hlimits, htrace', happly'⟩
        | ⟨hnone, e, w'', trace', happly'⟩
    · rw [bind_of_ok (by rw [happly']), happly']
      refine .inl ⟨registered, limits, ⟨w', w'', hreads, hreads'⟩, ?_⟩
      have hunread : ∀ r ∈ fetchedLimits registered limits,
          r.url client.endpoint ∉ s.ledger.urls := by
        intro r hr
        rcases mem_fetchedLimits.1 hr with ⟨rfl, hsome⟩ | ⟨rfl, hsome⟩
        · exact hreads.unread hsome
        · exact hreads'.unread hsome
      have hjoined :=
        limitsJoined_of_reads (d := d) (w := w'') client (trace ++ trace') hregistered hlimits
        hunread (by rw [requestsOf_append, htrace, htrace', List.map_append])
      rw [← Outcome.after_after] at hjoined
      exact hjoined
    · rw [bind_failed happly']
      refine .inr ⟨?_, e, rfl⟩
      rintro registered limits ⟨w₁, w₂, hreads₁, hreads₂⟩
      obtain ⟨-, rfl⟩ := hreads.unique hreads₁
      exact hnone limits w₂ hreads₂
  · rw [bind_failed happly]
    refine .inr ⟨?_, e, rfl⟩
    rintro registered limits ⟨w₁, -, hreads, -⟩
    exact hnone registered w₁ hreads

/-- **An attempt at the limits of identity**, in terms of the session that makes it. -/
theorem identityLimits_cases (hs : s.Sound) {endpoint : String}
    (hendpoint : s.endpoint? .identity = some endpoint) :
    (∃ registered limits, s.ReadsBoth d endpoint w registered limits ∧
      LimitsJoined s endpoint registered limits (Query.identityLimits.attempt d s w)) ∨
    (∀ registered limits, ¬ s.ReadsBoth d endpoint w registered limits) ∧
      ∃ e, (Query.identityLimits.attempt d s w).result = .error e := by
  have hclient := clientOf_apply (d := d) (w := w) hs .identity
  rw [hendpoint] at hclient
  have happly : Query.identityLimits.attempt d s w =
      limitsBy (Client.build .identity endpoint s.config) d
        (s.withClient .identity endpoint) w := by
    change identityLimits d s w = _
    rw [identityLimits, bind_quiet hclient]
  -- to remember the client changes nothing of what is read
  have hhttp : (s.withClient .identity endpoint).http = s.http := rfl
  have hledger : (s.withClient .identity endpoint).ledger = s.ledger := rfl
  rw [happly]
  rcases limitsBy_cases (d := d) (w := w) (s := s.withClient .identity endpoint)
    (Client.build .identity endpoint s.config) with ⟨registered, limits, hreads, hjoined⟩
    | ⟨hnone, hfails⟩
  · refine .inl ⟨registered, limits, hreads.of_same hhttp.symm hledger.symm, ?_⟩
    exact ⟨hjoined.succeeds, hjoined.data, hjoined.requests, hjoined.entered⟩
  · refine .inr ⟨?_, hfails⟩
    intro registered limits hreads
    exact hnone registered limits (hreads.of_same hhttp hledger)

/-- An attempt at the limits does not succeed without having read both collections. -/
theorem readsBoth_of_ok (hs : s.Sound) {value : Option (KeyMap Entity)}
    (hvalue : (Query.identityLimits.attempt d s w).result = .ok value) :
    ∃ endpoint registered limits, s.endpoint? .identity = some endpoint ∧
      s.ReadsBoth d endpoint w registered limits ∧
      LimitsJoined s endpoint registered limits (Query.identityLimits.attempt d s w) := by
  cases hendpoint : s.endpoint? .identity with
  | none =>
    rw [attempt_absent hs .identityLimits rfl hendpoint] at hvalue
    cases hvalue
  | some endpoint =>
    rcases identityLimits_cases (d := d) (w := w) hs hendpoint with
      ⟨registered, limits, hreads, hjoined⟩ | ⟨-, e, he⟩
    · exact ⟨endpoint, registered, limits, rfl, hreads, hjoined⟩
    · cases he.symm.trans hvalue

end Step

/-- Where there are data, something was fetched. -/
theorem LimitsJoined.fetched {σ : Type} {s : Session} {endpoint : String}
    {registered limits : Option (List Json)} {o : Outcome σ (Option (KeyMap Entity))}
    (h : LimitsJoined s endpoint registered limits o) {m : KeyMap Entity}
    (hm : o.result = .ok (some m)) : registered.isSome = true ∨ limits.isSome = true := by
  obtain ⟨value, hvalue, hempty⟩ := h.succeeds
  obtain rfl : value = some m := Except.ok.inj (hvalue.symm.trans hm)
  cases registered with
  | some => exact .inl rfl
  | none =>
    cases limits with
    | some => exact .inr rfl
    | none => cases hempty.2 ⟨rfl, rfl⟩

/-- Limits that have been entered are not asked for again. -/
theorem Query.limits_entered {σ : Type} {d : Deployment σ} {s : Session} {w : σ}
    {held : Option Login} (h : s.Holds held) {endpoint : String}
    (hendpoint : s.endpoint? .identity = some endpoint)
    (hregistered : Resource.registeredLimits.url endpoint ∈ s.ledger.urls)
    (hlimits : Resource.limits.url endpoint ∈ s.ledger.urls) :
    let o := identityLimits.perform d s w
    o.result = .ok none ∧ o.requests = [] ∧ o.session.ledger = s.ledger := by
  intro o
  have hentered : s.ReadsBoth d endpoint w none none :=
    ⟨w, w, .entered hregistered, .entered hlimits⟩
  rcases Step.identityLimits_cases (d := d) (w := w) h.sound hendpoint with
    ⟨registered, limits, ⟨w', w'', hreads, hreads'⟩, hjoined⟩ | ⟨hnone, -⟩
  · obtain ⟨rfl, hstate⟩ := hreads.unique (.entered hregistered)
    rw [hstate] at hreads'
    obtain ⟨rfl, -⟩ := hreads'.unique (.entered hlimits)
    obtain ⟨value, hvalue, hempty⟩ := hjoined.succeeds
    obtain rfl := hempty.2 ⟨rfl, rfl⟩
    have hwhole : o = identityLimits.attempt d s w := perform_of_served hvalue
    rw [hwhole]
    refine ⟨hvalue, hjoined.requests, identityLimits.attempt_ledger_of_no_data h.sound ?_⟩
    intro m hm
    cases hvalue.symm.trans hm
  · exact absurd hentered (hnone none none)

/-- What a query for the limits of identity comes to, by its last attempt. -/
structure LimitsQueried {σ : Type} (d : Deployment σ) (s start : Session) (w : σ)
    (last o : Outcome σ (Option (KeyMap Entity))) : Prop where
  /-- nothing is entered before the last attempt -/
  unchanged : start.ledger = s.ledger
  /-- data are those of the last attempt, which has read both collections, and so are the entries -/
  data : ∀ m, o.result = .ok (some m) → ∃ endpoint registered limits,
    start.endpoint? .identity = some endpoint ∧ start.ReadsBoth d endpoint w registered limits ∧
    (registered.isSome = true ∨ limits.isSome = true) ∧
    (∀ id, m.get? id = limitOf registered limits id) ∧
    last.requests = ((fetchedLimits registered limits).map
      fun r => start.getRequest (r.url endpoint)) ∧
    (∃ before, o.requests = before ++ last.requests) ∧
    o.session.ledger.urls = s.ledger.urls ++ (fetchedLimits registered limits).map (·.url endpoint)
  /-- what has been entered is not asked for -/
  entered : ∀ endpoint, s.endpoint? .identity = some endpoint →
    Resource.registeredLimits.url endpoint ∈ s.ledger.urls →
    Resource.limits.url endpoint ∈ s.ledger.urls →
    o.result = .ok none ∧ o.requests = [] ∧ o.session.ledger = s.ledger
  /-- if the last attempt cannot read both collections, nothing comes of either -/
  failed : (∀ endpoint registered limits, start.endpoint? .identity = some endpoint →
    ¬ start.ReadsBoth d endpoint w registered limits) →
    (∀ m, o.result ≠ .ok (some m)) ∧ o.session.ledger = s.ledger

/-- **The limits of identity.** In every session that a run can reach and against any deployment, a
query for the limits brings what its last attempt has read of both collections, or nothing. -/
theorem Session.Reachable.limits_joined {s : Session} (hs : s.Reachable) {σ : Type}
    (d : Deployment σ) (w : σ) :
    let start := Query.identityLimits.lastStart d s w
    LimitsQueried d s start.1 start.2 (Query.identityLimits.lastAttempt d s w)
      (Query.identityLimits.perform d s w) := by
  intro start
  obtain ⟨held, hheld⟩ := hs.holds
  have hsound : start.1.Sound := (Query.lastStart_sound hheld .identityLimits).1
  have hledger : start.1.ledger = s.ledger := (Query.lastStart_sound hheld .identityLimits).2
  rcases Query.identityLimits.perform_of_lastAttempt (d := d) (s := s) (w := w) with
    ⟨before, value, hwhole, hvalue⟩ | ⟨-, hnone⟩
  · obtain ⟨endpoint, registered, limits, hendpoint, hreads, hjoined⟩ :=
      Step.readsBoth_of_ok hsound hvalue
    refine ⟨hledger, ?_, fun _ => Query.limits_entered hheld, ?_⟩
    · intro m hm
      rw [hwhole] at hm ⊢
      refine ⟨endpoint, registered, limits, hendpoint, hreads, hjoined.fetched hm,
        hjoined.data m hm, hjoined.requests, ⟨requestsOf before, Outcome.requests_after ..⟩, ?_⟩
      rw [← hledger]
      exact hjoined.entered
    · intro h
      exact absurd hreads (h endpoint registered limits hendpoint)
  · refine ⟨hledger, ?_, fun _ => Query.limits_entered hheld, ?_⟩
    · intro m hm
      exact absurd hm (hnone m)
    · intro _
      exact ⟨hnone, Query.perform_ledger_of_no_data hheld _ hnone⟩

/-- A deployment that counts its logins, and has limits under two identifiers. Under the first login
it refuses those of projects. -/
def Deployment.sampleLimits : Deployment Nat := fun request logins =>
  match request.method with
  | .post =>
    (.response 201 (some (if logins = 0 then "first" else "second"))
      (.json (.obj [("token", .obj [("catalog", Catalog.toJson
        ⟨[⟨Component.identity.name, none, [⟨.public, "http://identity", none⟩]⟩]⟩)])]))
        0, logins + 1)
  | .get =>
    (if request.url = "http://identity/v3/registered_limits" then
      .response 200 none (.json (.obj [("registered_limits", .arr
        [.obj [("default_limit", .int 10), ("id", .str "a")],
         .obj [("default_limit", .int 20), ("id", .str "b")]])])) 0
    else if logins = 1 then .response 401 none (.json .null) 0
    else .response 200 none (.json (.obj [("limits", .arr
      [.obj [("id", .str "b"), ("resource_limit", .int 5)]])])) 0, logins)

/-- After the refusal both collections are read again, under the second token. -/
theorem sampleLimits_joined :
    let s := (Operation.authorize.perform Deployment.sampleLimits .sample 0).session
    let start := Query.identityLimits.lastStart Deployment.sampleLimits s 1
    let o := Query.identityLimits.perform Deployment.sampleLimits s 1
    LimitsQueried Deployment.sampleLimits s start.1 start.2
        (Query.identityLimits.lastAttempt Deployment.sampleLimits s 1) o ∧
      (o.requests.map fun request => (request.url, request.token)) =
        [("http://identity/v3/registered_limits", some "first"),
          ("http://identity/v3/limits", some "first"),
         (Config.sample.tokenUrl, none), ("http://identity/v3/registered_limits", some "second"),
         ("http://identity/v3/limits", some "second")] ∧
      o.session.ledger.urls = ["http://identity/v3/registered_limits",
        "http://identity/v3/limits"] ∧
      o.result.toOption.join.map KeyMap.keys = some ["a", "b"] := by
  intro s start o
  have hs : s.Reachable := .perform (.new Session.new_sample) .authorize Deployment.sampleLimits 0
  refine ⟨hs.limits_joined Deployment.sampleLimits 1, ?_, ?_, ?_⟩
  · decide +kernel
  · decide +kernel
  · decide +kernel

end StackWatch
