import StackWatch.Proofs.Entries
import StackWatch.Proofs.Indexing

/-!
# Servers with their flavors

A server names its flavor, holds it, or has none (`Json.flavorPlace`). An attempt at the servers of
a project looks up the named ones in the order of the servers, and ends with the first that cannot
be had; the entity of a server is furnished with its flavor (`Entity.Furnishes`), whose metrics are
apart from its own. So the attempt comes to all servers of the list or to none (`Furnished`,
`Session.Reachable.furnished`).
-/

namespace StackWatch

/-! ## Flavors -/

/-- The flavor of a server, as its entity shows it. -/
structure Flavor where
  name : Json
  /-- what its metrics are read from -/
  object : Json

namespace Flavor

/-- A flavor that was looked up. -/
def ofDetail (detail : Json) : Flavor := ⟨detail.getOrNull "name", detail⟩

/-- A flavor that a server holds. -/
def ofEmbedded (flavor : Json) : Flavor := ⟨flavor.getOrNull "original_name", flavor⟩

end Flavor

/-- Where the flavor of a server stands. -/
inductive FlavorPlace where
  | nowhere
  | embedded (flavor : Json)
  | elsewhere (id : String)

namespace Json

/-- A server has a flavor if that is an object, and holds it if that has no
text for an identifier. -/
def flavorPlace (server : Json) : FlavorPlace :=
  match server.get? "flavor" with
  | some (.obj members) =>
    match ((Json.obj members).get? "id").bind Json.str? with
    | some id => .elsewhere id
    | none => .embedded (.obj members)
  | _ => .nowhere

/-- The identifier of the flavor that has to be looked up for a server, if there is one. -/
def flavorId? (server : Json) : Option String :=
  match server.flavorPlace with
  | .elsewhere id => some id
  | _ => none

end Json

/-- The flavor from some place, given the details that were looked up and not yet used. -/
def FlavorPlace.take : FlavorPlace → List Json → Option Flavor × List Json
  | nowhere, details => (none, details)
  | embedded flavor, details => (some (.ofEmbedded flavor), details)
  | elsewhere _, details => (details.head?.map .ofDetail, details.tail)

/-- Servers with their flavors, given the details that were looked up for them in order. -/
def furnish : List Json → List Json → List (Json × Option Flavor)
  | [], _ => []
  | server :: rest, details =>
    let (flavor, later) := server.flavorPlace.take details
    (server, flavor) :: furnish rest later

/-! ## Entities of servers -/

/-- No metric is in both maps. -/
def KeyMap.Disjoint {α : Type} (m n : KeyMap α) : Prop :=
  ∀ key, m.get? key = none ∨ n.get? key = none

/-- The metrics that a server has of itself. -/
def Json.ownMetrics (server : Json) : KeyMap Float := Spec.servers.project .unqualified server

/-- The metrics of a flavor, none if there is no flavor. -/
def Flavor.metrics? : Option Flavor → KeyMap Float
  | some flavor => Spec.serverFlavors.project flavorLens flavor.object
  | none => .empty

/-- An entity of a server with its flavor: it has the metrics of both, which are apart, and the name
of the flavor, and is otherwise that of the server. -/
structure Entity.Furnishes (e : Entity) (server : Json) (flavor : Option Flavor) : Prop where
  apart : server.ownMetrics.Disjoint (Flavor.metrics? flavor)
  metrics : ∀ key, e.metrics.get? key =
    (server.ownMetrics.get? key).or ((Flavor.metrics? flavor).get? key)
  name : e.attributes.get? "flavor_name" = flavor.map Flavor.name
  rest : ∀ key, key ≠ "flavor_name" →
    e.attributes.get? key = (Form.server.entity server).attributes.get? key

/-- The entity that is made of a server and its flavor. -/
def furnishedEntity (server : Json) : Option Flavor → Entity
  | some flavor =>
    ((Form.server.entity server).withAttribute "flavor_name" flavor.name).withMetrics
      (flavorMetrics flavor.object)
  | none => Form.server.entity server

/-- The entry of a server with its flavor, if the server can be identified. -/
def furnishedEntry (p : Json × Option Flavor) : Option (String × Entity) :=
  p.1.id?.map fun id => (id, furnishedEntity p.1 p.2)

/-- An entity has no attributes but those of its form: the copied ones and the derived ones. By
induction on the derived ones, which are set last. -/
theorem Form.get?_attributes_of_not_mem {form : Form} {name : String}
    (hcopied : name ∉ form.attributes) (hderived : name ∉ form.derived.map Prod.fst)
    (object : Json) : (form.entity object).attributes.get? name = none := by
  have hset : ∀ {derived : List (String × (Json → Json))} {e : Entity},
      name ∉ derived.map Prod.fst →
      (derived.foldl (fun e d => e.withAttribute d.1 (d.2 object)) e).attributes.get? name =
        e.attributes.get? name := by
    intro derived
    induction derived with
    | nil => exact fun _ => rfl
    | cons d rest ih =>
      intro e h
      obtain ⟨hne, hrest⟩ := List.ne_and_not_mem_of_not_mem_cons h
      exact (ih hrest).trans ((KeyMap.get?_insert ..).trans (if_neg hne))
  have hempty : (form.attributes.map fun member => (member, object.getOrNull member)).filter
      (fun entry => entry.1 = name) = [] := by
    simp only [List.filter_map, List.map_eq_nil_iff, List.filter_eq_nil_iff]
    intro member hmember
    simpa using fun heq : member = name => hcopied (heq ▸ hmember)
  rw [entity, hset hderived, Entity.ofObject, KeyMap.get?_ofList, KeyMap.lastEntry, hempty]
  rfl

/-- Metrics with different labels are apart. -/
theorem KeyMap.Labeled.disjoint {labels labels' : List Label} {figures figures' : KeyMap Float}
    (h : figures.Labeled labels) (h' : figures'.Labeled labels')
    (hapart : ∀ l ∈ labels, l ∉ labels') : figures.Disjoint figures' := by
  intro key
  cases hkey : figures.get? key with
  | none => exact .inl rfl
  | some x =>
    cases hkey' : figures'.get? key with
    | none => exact .inr rfl
    | some x' =>
      obtain ⟨l, hl, hname⟩ := h _ (mem_of_get? hkey)
      obtain ⟨l', hl', hname'⟩ := h' _ (mem_of_get? hkey')
      obtain rfl : l = l' := Label.name_injective (hname.symm.trans hname')
      exact absurd hl' (hapart l hl)

theorem disjoint_metrics (server : Json) (flavor : Option Flavor) :
    server.ownMetrics.Disjoint (Flavor.metrics? flavor) := by
  cases flavor with
  | none => exact fun _ => .inr rfl
  | some flavor =>
    exact (Spec.labeled_project .servers _ _).disjoint
      (Spec.labeled_project .serverFlavors _ _) (by decide)

theorem furnishes_furnishedEntity (server : Json) (flavor : Option Flavor) :
    (furnishedEntity server flavor).Furnishes server flavor := by
  have hown : (Form.server.entity server).metrics = server.ownMetrics := Form.entity_metrics ..
  have hunnamed : (Form.server.entity server).attributes.get? "flavor_name" = none :=
    Form.get?_attributes_of_not_mem (by decide) (by decide) server
  have hapart := disjoint_metrics server flavor
  cases flavor with
  | none =>
    refine ⟨hapart, ?_, hunnamed, fun _ _ => rfl⟩
    intro key
    rw [furnishedEntity, hown, Flavor.metrics?, KeyMap.get?_empty, Option.or_none]
  | some flavor =>
    have hunion : (furnishedEntity server (some flavor)).metrics =
        server.ownMetrics.union (Flavor.metrics? (some flavor)) := by
      rw [← hown]
      rfl
    refine ⟨hapart, ?_, KeyMap.get?_insert .., ?_⟩
    · intro key
      rw [hunion, KeyMap.get?_union]
      -- at most one of the two maps has the key
      rcases hapart key with h | h
      · rw [h, Option.or_none, Option.none_or]
      · rw [h, Option.or_none, Option.none_or]
    · intro key hkey
      exact (KeyMap.get?_insert ..).trans (if_neg hkey)

/-- The URLs that an attempt at some servers of a project gets: their list, and then the
flavors that they name. -/
def serverUrls (project endpoint : String) (servers : List Json) : List String :=
  (Resource.servers project).url endpoint ::
    (servers.filterMap Json.flavorId?).map fun id => (Resource.flavor id).url endpoint

/-! ## Looking up flavors -/

namespace Session

variable {σ : Type}

/-- The details of some flavors, asked for one after the other; nothing if one
of them cannot be had. -/
def details (s : Session) (d : Deployment σ) (endpoint : String) :
    List String → σ → Option (List Json)
  | [], _ => some []
  | id :: rest, w =>
    match s.gotObject d endpoint (.flavor id) w with
    | (.error _, _) => none
    | (.ok detail, w') => (s.details d endpoint rest w').map (detail :: ·)

/-- Servers can be furnished: all can be identified, and the details of all flavors that
they name can be had. -/
structure CanFurnish (s : Session) (d : Deployment σ) (endpoint : String)
    (servers : List Json) (w : σ) (details : List Json) : Prop where
  identified : ∀ server ∈ servers, server.id?.isSome = true
  details : s.details d endpoint (servers.filterMap Json.flavorId?) w = some details

/-- The flavor of one server, and the state in which finding it leaves the deployment. -/
def found (s : Session) (d : Deployment σ) (endpoint : String) (server : Json) (w : σ) :
    Except ApiError (Option Flavor) × σ :=
  match server.flavorPlace with
  | .nowhere => (.ok none, w)
  | .embedded flavor => (.ok (some (.ofEmbedded flavor)), w)
  | .elsewhere id =>
    let (detail, w') := s.gotObject d endpoint (.flavor id) w
    (detail.map fun detail => some (.ofDetail detail), w')

/-- Some servers with their flavors, nothing if a flavor cannot be had. -/
def furnish? (s : Session) (d : Deployment σ) (endpoint : String) (servers : List Json) (w : σ) :
    Option (List (Json × Option Flavor)) :=
  (s.details d endpoint (servers.filterMap Json.flavorId?) w).map (furnish servers)

variable {s s' : Session} {d : Deployment σ} {endpoint : String}

/-- What can be had depends on what a session sends along, and on nothing else of it. -/
theorem details_of_http (h : s'.http = s.http) :
    ∀ (ids : List String) (w : σ), s'.details d endpoint ids w = s.details d endpoint ids w
  | [], _ => rfl
  | id :: rest, w => by
    simp only [details, gotObject, gotBy_of_http h, details_of_http h rest]

theorem canFurnish_of_http (h : s'.http = s.http) {servers : List Json} {w : σ}
    {details : List Json} :
    s'.CanFurnish d endpoint servers w details ↔ s.CanFurnish d endpoint servers w details := by
  constructor
  · rintro ⟨hall, hdetails⟩
    exact ⟨hall, (details_of_http h _ _).symm.trans hdetails⟩
  · rintro ⟨hall, hdetails⟩
    exact ⟨hall, (details_of_http h _ _).trans hdetails⟩

/-- The flavor of the first server is found before those of the others. -/
theorem furnish?_cons (server : Json) (rest : List Json) (w : σ) :
    s.furnish? d endpoint (server :: rest) w =
      match s.found d endpoint server w with
      | (.error _, _) => none
      | (.ok flavor, w') => (s.furnish? d endpoint rest w').map ((server, flavor) :: ·) := by
  unfold furnish? found
  cases hplace : server.flavorPlace with
  | nowhere | embedded =>
    have hid : server.flavorId? = none := by rw [Json.flavorId?, hplace]
    rw [List.filterMap_cons_none hid]
    dsimp only
    cases s.details d endpoint (rest.filterMap Json.flavorId?) w with
    | none => rfl
    | some details => simp only [Option.map_some, furnish, hplace, FlavorPlace.take]
  | elsewhere id =>
    have hid : server.flavorId? = some id := by rw [Json.flavorId?, hplace]
    rw [List.filterMap_cons_some hid, details]
    dsimp only
    cases s.gotObject d endpoint (.flavor id) w with
    | mk result w' =>
      cases result with
      | error e => rfl
      | ok detail =>
        simp only [Except.map]
        cases s.details d endpoint (rest.filterMap Json.flavorId?) w' with
        | none => rfl
        | some details =>
          simp only [Option.map_some, furnish, hplace, FlavorPlace.take,
            List.head?_cons, List.tail_cons]

end Session

namespace Step

variable {σ : Type} {d : Deployment σ} {s : Session} {w : σ}

/-- What is done for a server depends on where its flavor stands. -/
theorem serverEntity_eq (client : Client) (server : Json) :
    (serverEntity client server : Step σ Entity) =
      match server.flavorPlace with
      | .nowhere => pure (furnishedEntity server none)
      | .embedded flavor => pure (furnishedEntity server (some (.ofEmbedded flavor)))
      | .elsewhere id =>
        fetchObject client (.flavor id) >>= fun detail =>
          pure (furnishedEntity server (some (.ofDetail detail))) := by
  unfold serverEntity Json.flavorPlace
  cases server.get? "flavor" with
  | none => rfl
  | some value =>
    cases value with
    | obj members =>
      dsimp only
      unfold flavorOf
      cases ((Json.obj members).get? "id").bind Json.str? with
      | none => rfl
      | some id =>
        funext d s w
        change ((fetchObject client (.flavor id) >>= fun detail =>
            pure (detail.getOrNull "name", flavorMetrics detail)) >>= fun flavor =>
          pure (((Form.server.entity server).withAttribute "flavor_name" flavor.1).withMetrics
            flavor.2)) d s w = _
        rw [bind_pure_apply, bind_pure_apply]
        dsimp only
        rw [bind_pure_apply]
        cases (fetchObject client (.flavor id) d s w).result with
        | error e => rfl
        | ok detail => rfl
    | null | bool _ | int _ | float _ | str _ | arr _ => rfl

/-- The entity of a server is furnished with the flavor that is found. -/
theorem serverEntity_apply (client : Client) (server : Json) :
    serverEntity client server d s w =
      ⟨(s.found d client.endpoint server w).1.map (furnishedEntity server), s,
        (s.found d client.endpoint server w).2, (serverEntity client server d s w).trace⟩ := by
  rw [serverEntity_eq]
  unfold Session.found
  cases server.flavorPlace with
  | nowhere => rfl
  | embedded flavor => rfl
  | elsewhere id =>
    dsimp only
    rw [bind_pure_apply, fetchObject, fetch_apply, ← Session.gotObject]
    dsimp only
    cases (s.gotObject d client.endpoint (.flavor id) w).1 with
    | error e => rfl
    | ok detail => rfl

/-- For a server, the flavor that it names is asked for, if that can be asked for. -/
theorem requests_serverEntity (client : Client) (server : Json) :
    let asked :=
      server.flavorId?.toList.map fun id => s.getRequest ((Resource.flavor id).url client.endpoint)
    let o := serverEntity client server d s w
    o.requests.IsPrefix asked ∧ ∀ entity, o.result = .ok entity → o.requests = asked := by
  rw [serverEntity_eq, Json.flavorId?]
  cases server.flavorPlace with
  | nowhere => exact ⟨List.prefix_refl _, fun _ _ => rfl⟩
  | embedded flavor => exact ⟨List.prefix_refl _, fun _ _ => rfl⟩
  | elsewhere id =>
    dsimp only
    rw [bind_pure_apply, fetchObject, fetch_apply]
    refine ⟨send_get_isPrefix _ _, ?_⟩
    intro entity hentity
    obtain ⟨detail, hdetail, -⟩ := eq_ok_of_map hentity
    exact requests_of_fetched hdetail

/-- The entries of some servers: first the flavor of a server is found, then the server is
identified, and then come the others. -/
theorem serverEntries_cons (client : Client) (url : String) (server : Json) (rest : List Json) :
    serverEntries client url (server :: rest) d s w =
      let trace := (serverEntity client server d s w).trace
      match s.found d client.endpoint server w with
      | (.error e, w') => ⟨.error e, s, w', trace⟩
      | (.ok flavor, w') =>
        match entityId url server with
        | .error e => ⟨.error e, s, w', trace⟩
        | .ok id =>
          let o := serverEntries client url rest d s w'
          ⟨o.result.map ((id, furnishedEntity server flavor) :: ·), o.session, o.state,
            trace ++ o.trace⟩ := by
  have hentity := serverEntity_apply (d := d) (s := s) (w := w) client server
  rw [serverEntries]
  cases hfound : s.found d client.endpoint server w with
  | mk result w' =>
    rw [hfound] at hentity
    cases result with
    | error e => exact bind_failed hentity
    | ok flavor =>
      rw [bind_of_ok (by rw [hentity]; rfl), hentity]
      dsimp only
      cases hid : entityId url server with
      | error e => rw [bind_failed (m := ofExcept (.error e)) rfl, List.append_nil]
      | ok id =>
        rw [bind_quiet (m := ofExcept (.ok id)) rfl, bind_pure_apply]

/-- **The entries of servers**: those of all servers, if all can be identified and all flavors can
be had, and none otherwise. By induction on the servers, in whatever state the deployment is. -/
theorem serverEntries_toOption (client : Client) (url : String) :
    ∀ (servers : List Json) (w : σ), (serverEntries client url servers d s w).result.toOption =
      if ∀ server ∈ servers, server.id?.isSome = true then
        (s.furnish? d client.endpoint servers w).map (·.filterMap furnishedEntry)
      else none
  | [], w => rfl
  | server :: rest, w => by
    rw [serverEntries_cons, Session.furnish?_cons]
    cases s.found d client.endpoint server w with
    | mk result w' =>
      cases result with
      | error e => simp [Except.toOption]
      | ok flavor =>
        rcases entityId_cases url server with ⟨id, hserver, hid⟩ | ⟨⟨e, hserver⟩, hid⟩
        · have hmap : ∀ result : Except ApiError (List (String × Entity)),
              (result.map ((id, furnishedEntity server flavor) :: ·)).toOption =
                result.toOption.map ((id, furnishedEntity server flavor) :: ·) := by
            intro result
            cases result <;> rfl
          simp only [hserver]
          rw [hmap, serverEntries_toOption client url rest w']
          by_cases hall : ∀ server ∈ rest, server.id?.isSome = true
          · rw [if_pos hall, if_pos (List.forall_mem_cons.2 ⟨by rw [hid]; rfl, hall⟩)]
            cases s.furnish? d client.endpoint rest w' with
            | none => rfl
            | some servers => simp [furnishedEntry, hid]
          · rw [if_neg hall, if_neg fun h => hall (List.forall_mem_cons.1 h).2]
            rfl
        · simp only [hserver]
          rw [if_neg]
          · rfl
          · intro hall
            have hsome := hall server (List.mem_cons_self ..)
            rw [hid] at hsome
            cases hsome

/-- Servers come to their entries or to an error. -/
theorem serverEntries_cases (client : Client) (url : String) (servers : List Json) (w : σ) :
    let o := serverEntries client url servers d s w
    (∃ details, s.CanFurnish d client.endpoint servers w details ∧
      o.result = .ok ((furnish servers details).filterMap furnishedEntry)) ∨
    (∀ details, ¬ s.CanFurnish d client.endpoint servers w details) ∧ ∃ e, o.result = .error e := by
  intro o
  have hresult : o.result.toOption = _ := serverEntries_toOption client url servers w
  cases ho : o.result with
  | error e =>
    refine .inr ⟨?_, e, rfl⟩
    rintro details ⟨hall, hdetails⟩
    rw [ho, if_pos hall, Session.furnish?, hdetails] at hresult
    cases hresult
  | ok entries =>
    rw [ho] at hresult
    split at hresult
    · rename_i hall
      obtain ⟨pairs, hpairs, rfl⟩ := Option.map_eq_some_iff.1 hresult.symm
      obtain ⟨details, hdetails, rfl⟩ := Option.map_eq_some_iff.1 hpairs
      exact .inl ⟨details, ⟨hall, hdetails⟩, rfl⟩
    · cases hresult

/-- Servers are furnished in their order, and nothing is asked for after the first failure. By
induction on the servers. -/
theorem requests_serverEntries (client : Client) (url : String) :
    ∀ (servers : List Json) (w : σ),
      let asked := (servers.filterMap Json.flavorId?).map fun id =>
        s.getRequest ((Resource.flavor id).url client.endpoint)
      let o := serverEntries client url servers d s w
      o.requests.IsPrefix asked ∧ ∀ entries, o.result = .ok entries → o.requests = asked
  | [], w => ⟨List.prefix_refl _, fun _ _ => rfl⟩
  | server :: rest, w => by
    have hcons : (server :: rest).filterMap Json.flavorId? =
        server.flavorId?.toList ++ rest.filterMap Json.flavorId? := by
      rw [List.filterMap_cons]
      cases server.flavorId? <;> rfl
    obtain ⟨hstart, hwhole⟩ := requests_serverEntity (d := d) (s := s) (w := w) client server
    rw [hcons, List.map_append, serverEntries_cons]
    cases hfound : s.found d client.endpoint server w with
    | mk result w' =>
      cases result with
      | error e => exact ⟨hstart.trans (List.prefix_append ..), fun _ h => nomatch h⟩
      | ok flavor =>
        have hfirst :=
          hwhole (furnishedEntity server flavor) (by rw [serverEntity_apply, hfound]; rfl)
        obtain ⟨hstart', hwhole'⟩ := requests_serverEntries client url rest w'
        dsimp only
        cases entityId url server with
        | error e =>
          refine ⟨?_, fun _ h => nomatch h⟩
          exact hstart.trans (List.prefix_append ..)
        | ok id =>
          dsimp only
          have hrequests : ∀ trace, requestsOf ((serverEntity client server d s w).trace ++ trace) =
              (serverEntity client server d s w).requests ++ requestsOf trace :=
            fun trace => requestsOf_append ..
          constructor
          · change (requestsOf _).IsPrefix _
            rw [hrequests, hfirst]
            exact (List.prefix_append_right_inj _).2 hstart'
          · intro entries hentries
            obtain ⟨later, hlater, -⟩ := eq_ok_of_map hentries
            change requestsOf _ = _
            rw [hrequests, hfirst]
            exact congrArg _ (hwhole' later hlater)

section Attempt

variable {project endpoint : String} {servers : List Json} {w' : σ}
  {o : Outcome σ (List (String × Entity))}

/-- Once an attempt at the servers of a project has their list, it comes to the map of their
entries, or fails with them. -/
theorem servers_apply (hs : s.Sound) (hendpoint : s.endpoint? .compute = some endpoint)
    (hunread : (Resource.servers project).url endpoint ∉ s.ledger.urls)
    (hservers : s.gotItems d endpoint (.servers project) w = (.ok servers, w'))
    (hentries : serverEntries (Client.build .compute endpoint s.config)
      ((Resource.servers project).url endpoint)
      servers d (s.withClient .compute endpoint) w' = o) :
    ∃ first, requestsOf first = [s.getRequest ((Resource.servers project).url endpoint)] ∧
      Step.servers project d s w =
        match o.result with
        | .error e => ⟨.error e, s.withClient .compute endpoint, o.state, first ++ o.trace⟩
        | .ok entries =>
          ⟨.ok (some (.ofList entries)),
            (s.withClient .compute endpoint).withEntry ((Resource.servers project).url endpoint),
            o.state, first ++ o.trace⟩ := by
  let url := (Resource.servers project).url endpoint
  let client := Client.build .compute endpoint s.config
  let s' := s.withClient .compute endpoint
  let first := (request client (.servers project) d s' w).trace
  have hgot : s'.gotItems d client.endpoint (.servers project) w = (.ok servers, w') := hservers
  have hitems : fetchItems client (.servers project) d s' w = ⟨.ok servers, s', w', first⟩ := by
    rw [fetchItems, fetch_apply, ← Session.gotItems, hgot]
  have hlater : serverEntries client url servers d s' w' = o := hentries
  have hsession : o.session = s' := by
    rw [← hlater]
    exact (looks_serverEntries client url servers d s' _).1
  have hread : (do
      let items ← fetchItems client (.servers project)
      let entries ← serverEntries client url items
      pure (KeyMap.ofList entries) : Step σ (KeyMap Entity)) d s' w =
        ⟨o.result.map .ofList, s', o.state, first ++ o.trace⟩ := by
    rw [bind_of_ok (by rw [hitems]), hitems, bind_pure_apply]
    dsimp only
    rw [hlater, hsession]
  have hcomponent : s.endpoint? (Resource.servers project).component = some endpoint := hendpoint
  refine ⟨first, requests_of_fetched (s := s') (congrArg Prod.fst hservers), ?_⟩
  unfold Step.servers
  rw [reading_of_unread hs hcomponent rfl hunread hread]
  cases o.result with
  | error e => rfl
  | ok entries => rfl

/-- **An attempt at the servers of a project**, in terms of the session that makes it. It asks for
their list and for their flavors, and enters the list; or it fails underway. -/
theorem servers_cases (hs : s.Sound) (hendpoint : s.endpoint? .compute = some endpoint)
    (hunread : (Resource.servers project).url endpoint ∉ s.ledger.urls)
    (hservers : s.gotItems d endpoint (.servers project) w = (.ok servers, w')) :
    let o := (Query.servers project).attempt d s w
    let asked := (serverUrls project endpoint servers).map s.getRequest
    (∃ details, s.CanFurnish d endpoint servers w' details ∧
      o.result = .ok (some (.ofList ((furnish servers details).filterMap furnishedEntry))) ∧
      o.requests = asked ∧
      o.session.ledger.urls = s.ledger.urls ++ [(Resource.servers project).url endpoint]) ∨
    (∀ details, ¬ s.CanFurnish d endpoint servers w' details) ∧
      (∃ e, o.result = .error e) ∧ o.requests.IsPrefix asked ∧ o.session.ledger = s.ledger := by
  let url := (Resource.servers project).url endpoint
  let client := Client.build .compute endpoint s.config
  let s' := s.withClient .compute endpoint
  -- to remember the client changes nothing of what can be had
  have hhttp : s'.http = s.http := rfl
  have hcan : ∀ {details}, s'.CanFurnish d client.endpoint servers w' details ↔
      s.CanFurnish d endpoint servers w' details := Session.canFurnish_of_http hhttp
  have hcases := serverEntries_cases (d := d) (s := s') client url servers w'
  obtain ⟨hstart, hwhole⟩ := requests_serverEntries (d := d) (s := s') client url servers w'
  obtain ⟨first, hfirst, happly⟩ := servers_apply hs hendpoint hunread hservers rfl
  have hasked : (serverUrls project endpoint servers).map s.getRequest = requestsOf first ++
      (servers.filterMap Json.flavorId?).map fun id =>
        s'.getRequest ((Resource.flavor id).url endpoint) := by
    rw [serverUrls, List.map_cons, List.map_map, hfirst]
    rfl
  rw [Query.attempt, happly]
  rcases hcases with ⟨details, hfurnish, ho⟩ | ⟨hnone, e, ho⟩
  · refine .inl ⟨details, hcan.1 hfurnish, ?_⟩
    rw [ho]
    refine ⟨rfl, ?_, Ledger.urls_insert_of_not_mem hunread⟩
    rw [hasked, Outcome.requests, requestsOf_append]
    exact congrArg _ (hwhole _ ho)
  · refine .inr ⟨fun details hfurnish => hnone details (hcan.2 hfurnish), ?_⟩
    rw [ho]
    refine ⟨⟨e, rfl⟩, ?_, rfl⟩
    rw [hasked, Outcome.requests, requestsOf_append]
    exact (List.prefix_append_right_inj _).2 hstart

end Attempt

end Step

/-! ## All servers or none -/

/-- What an attempt at the servers of a project comes to that has got their list, if the deployment
is in some state after that. -/
structure Furnished {σ : Type} (d : Deployment σ) (s : Session) (project endpoint : String)
    (servers : List Json) (w : σ) (o : Outcome σ (Option (KeyMap Entity))) : Prop where
  /-- there is a map if all servers can be identified and all flavors can be had -/
  complete : (∃ m, o.result = .ok (some m)) ↔ ∃ details, s.CanFurnish d endpoint servers w details
  keys : ∀ m, o.result = .ok (some m) → ∀ key,
    (m.get? key).isSome = true ↔ ∃ server ∈ servers, server.id? = some key
  /-- of servers with one identifier the last counts, with its flavor -/
  entities : ∀ m details, o.result = .ok (some m) → s.CanFurnish d endpoint servers w details →
    m.Indexes (fun p => p.1.id?) (fun p e => e.Furnishes p.1 p.2) (furnish servers details)
  /-- whatever it comes to, nothing is asked for out of order -/
  asked : o.requests.IsPrefix ((serverUrls project endpoint servers).map s.getRequest)
  entered : ∀ m, o.result = .ok (some m) →
    o.requests = (serverUrls project endpoint servers).map s.getRequest ∧
    o.session.ledger.urls = s.ledger.urls ++ [(Resource.servers project).url endpoint]
  /-- without a map there is an error, and nothing is entered -/
  refused : (∀ m, o.result ≠ .ok (some m)) → (∃ e, o.result = .error e) ∧
    o.session.ledger = s.ledger

theorem map_fst_furnish :
    ∀ servers details : List Json, (furnish servers details).map Prod.fst = servers
  | [], _ => rfl
  | server :: rest, details => by
    rw [furnish, List.map_cons, map_fst_furnish rest]

theorem exists_mem_furnish {servers details : List Json} {P : Json → Prop} :
    (∃ p ∈ furnish servers details, P p.1) ↔ ∃ server ∈ servers, P server := by
  have hmem : ∀ server, server ∈ servers ↔ ∃ p ∈ furnish servers details, p.1 = server := by
    intro server
    rw [← List.mem_map, map_fst_furnish]
  constructor
  · rintro ⟨p, hp, h⟩
    exact ⟨p.1, (hmem p.1).2 ⟨p, hp, rfl⟩, h⟩
  · rintro ⟨server, hserver, h⟩
    obtain ⟨p, hp, rfl⟩ := (hmem server).1 hserver
    exact ⟨p, hp, h⟩

/-- The map of the entries of servers with their flavors. -/
theorem indexes_furnish (servers details : List Json) :
    (KeyMap.ofList ((furnish servers details).filterMap furnishedEntry)).Indexes (fun p => p.1.id?)
      (fun p e => Entity.Furnishes e p.1 p.2) (furnish servers details) := by
  have hmap := KeyMap.indexes_ofList (fun p : Json × Option Flavor => p.1.id?)
    (fun p => furnishedEntity p.1 p.2) (furnish servers details)
  apply hmap.mono
  rintro p - e rfl
  exact furnishes_furnishedEntity p.1 p.2

/-- **Servers with their flavors.** In every session that a run can reach and against any
deployment, an attempt at the unread servers of a project that has got their list comes to all of
them, each with its flavor, or to an error. -/
theorem Session.Reachable.furnished {s : Session} (hs : s.Reachable) {σ : Type}
    (d : Deployment σ) (w : σ) {project endpoint : String} {servers : List Json} {w' : σ}
    (hendpoint : s.endpoint? .compute = some endpoint)
    (hunread : (Resource.servers project).url endpoint ∉ s.ledger.urls)
    (hservers : s.gotItems d endpoint (.servers project) w = (.ok servers, w')) :
    Furnished d s project endpoint servers w' ((Query.servers project).attempt d s w) := by
  obtain ⟨held, hheld⟩ := hs.holds
  rcases Step.servers_cases hheld.sound hendpoint hunread hservers with
    ⟨details, hcan, hresult, hrequests, hledger⟩ | ⟨hnone, ⟨e, hresult⟩, hrequests, hledger⟩
  · have hmap := indexes_furnish servers details
    have hvalue : ∀ {m}, ((Query.servers project).attempt d s w).result = .ok (some m) →
        KeyMap.ofList ((furnish servers details).filterMap furnishedEntry) = m := by
      intro m hm
      exact Option.some.inj (Except.ok.inj (hresult.symm.trans hm))
    exact
      { complete := ⟨fun _ => ⟨details, hcan⟩, fun _ => ⟨_, hresult⟩⟩
        keys := by
          intro m hm key
          rw [← hvalue hm, hmap.keys, exists_mem_furnish (P := fun server => server.id? = some key)]
        entities := by
          intro m details' hm hcan'
          obtain rfl : details = details' := Option.some.inj (hcan.details.symm.trans hcan'.details)
          rw [← hvalue hm]
          exact hmap
        asked := hrequests ▸ List.prefix_refl _
        entered := fun _ _ => ⟨hrequests, hledger⟩
        refused := fun h => absurd hresult (h _) }
  · have hfails : ∀ m, ((Query.servers project).attempt d s w).result ≠ .ok (some m) := by
      intro m hm
      cases hresult.symm.trans hm
    exact
      { complete := by
          constructor
          · rintro ⟨m, hm⟩
            exact absurd hm (hfails m)
          · rintro ⟨details, hcan⟩
            exact absurd hcan (hnone details)
        keys := fun m hm => absurd hm (hfails m)
        entities := fun m _ hm => absurd hm (hfails m)
        asked := hrequests
        entered := fun m hm => absurd hm (hfails m)
        refused := fun _ => ⟨⟨e, hresult⟩, hledger⟩ }

/-- Servers of which the first names its flavor, the second holds it, and the last has none. -/
def sampleServers : List Json :=
  [.obj [("flavor", .obj [("id", .str "f")]), ("id", .str "a")],
   .obj [("flavor", .obj [("original_name", .str "m1"), ("ram", .int 512)]), ("id", .int 7)],
   .obj [("OS-EXT-STS:power_state", .int 1), ("id", .str "a")]]

/-- A deployment that grants every login, and has these servers and one flavor. -/
def Deployment.sampleServers : Deployment Unit := .stateless fun request =>
  match request.method with
  | .post => (Deployment.sample request ()).1
  | .get =>
    .response 200 none (.json (.obj (if request.url = "http://nova/servers/detail?project_id=p" then
      [("servers", .arr StackWatch.sampleServers)]
    else [("flavor", .obj [("name", .str "small"), ("ram", .int 64)])]))) 0

/-- Of the servers, the last with each identifier is there, and one flavor was looked up. -/
theorem sampleServers_furnished :
    let s := (Operation.authorize.perform Deployment.sampleServers .sample ()).session
    let o := (Query.servers "p").attempt Deployment.sampleServers s ()
    Furnished Deployment.sampleServers s "p" "http://nova" sampleServers () o ∧
      o.requests.map (·.url) = ["http://nova/servers/detail?project_id=p",
        "http://nova/flavors/f"] ∧
      (o.result.toOption.join.map KeyMap.keys) = some ["7", "a"] := by
  intro s o
  have hs : s.Reachable := .perform (.new Session.new_sample) .authorize Deployment.sampleServers ()
  refine ⟨hs.furnished Deployment.sampleServers () (by decide +kernel)
    (by decide +kernel) rfl, ?_, ?_⟩
  · decide +kernel
  · decide +kernel

end StackWatch
