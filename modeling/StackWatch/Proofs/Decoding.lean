import StackWatch.Proofs.Coherence
import StackWatch.Proofs.Indexing

/-!
# Collections are read whole or not at all

What a component answers to the request for a collection is a body of any kind. The collection is
there if the body is an object that has it in an array, and every item of the array can be told by
its key. Then the map has an entity for each of the keys. Otherwise there is no map, not even a part
of one: the attempt fails with an error that names the URL, and the URL does not count as read.

`Session.Reachable.decoded` says so of every attempt that got a body in full.
-/

namespace StackWatch

/-- The items of a body under a member: the body is an object, and has an array there. -/
def Body.items? (member : String) : Body → Option (List Json)
  | .json (.obj members) => (findEntry member members).bind Json.items?
  | _ => none

namespace Listing

/-- The key of an item in a collection. -/
def key? (l : Listing) (item : Json) : Option String :=
  match l with
  | nodes => ((item.get? "uuid").bind Json.str?).or item.id?
  | conductors => (item.get? "hostname").bind Json.str?
  | amphoraStatistics _ => (item.get? "listener_id").bind Json.str?
  | _ => item.id?

/-- What an attempt at a collection comes to that got a body for a URL. -/
structure Decoded {σ : Type} (l : Listing) (s : Session) (url : String) (body : Body)
    (o : Outcome σ (Option (KeyMap Entity))) : Prop where
  /-- there is a map if all items are there and have a key -/
  complete : (∃ m, o.result = .ok (some m)) ↔
    ∃ items, body.items? l.member = some items ∧ ∀ item ∈ items, (l.key? item).isSome = true
  keys : ∀ m items, o.result = .ok (some m) → body.items? l.member = some items → ∀ key,
    (m.get? key).isSome = true ↔ ∃ item ∈ items, l.key? item = some key
  /-- of items with one key the last counts -/
  entities : ∀ m items, o.result = .ok (some m) → body.items? l.member = some items → ∀ key,
    m.get? key = (lastKeyed l.key? key items).map l.form.entity
  /-- a collection without items is an empty map -/
  empty : body.items? l.member = some [] → o.result = .ok (some .empty)
  entered : ∀ m, o.result = .ok (some m) → o.session.ledger = s.ledger.insert url
  /-- without a map the body was not what was asked for, and nothing is entered -/
  refused : (∀ m, o.result ≠ .ok (some m)) →
    (∃ fault, o.result = .error (.decode url fault)) ∧ o.session.ledger = s.ledger

end Listing

/-! ## From items to a map -/

/-- An object is identified by its identifier, and it is a failure that it has none. -/
theorem entityId_eq (url : String) (item : Json) :
    entityId url item =
      match item.id? with
      | some id => .ok id
      | none => .error (.decode url (.missing "id")) := by
  unfold entityId Json.id?
  cases item.get? "id" with
  | none => rfl
  | some value => cases value <;> rfl

/-- Where there are no entries, an item could not be identified. -/
theorem exists_of_entriesOf_error {identify : Json → Except ApiError (Option String)}
    {entity : Json → Entity} {e : ApiError} {items : List Json}
    (h : entriesOf identify entity items = .error e) :
    ∃ item ∈ items, identify item = .error e := by
  induction items with
  | nil => cases h
  | cons item rest ih =>
    rw [entriesOf] at h
    split at h
    · next he =>
      cases h
      exact ⟨item, List.mem_cons_self, he⟩
    · split at h
      · next hrest =>
        cases h
        obtain ⟨item', hmem, he⟩ := ih hrest
        exact ⟨item', List.mem_cons_of_mem item hmem, he⟩
      · cases h

theorem exists_of_collect_error {identify : Json → Except ApiError (Option String)}
    {entity : Json → Entity} {e : ApiError} {items : List Json}
    (h : collect identify entity items = .error e) : ∃ item ∈ items, identify item = .error e := by
  rw [collect] at h
  cases hentries : entriesOf identify entity items with
  | ok entries =>
    rw [hentries] at h
    cases h
  | error e' =>
    rw [hentries] at h
    cases h
    exact exists_of_entriesOf_error hentries

namespace Listing

variable {l : Listing}

/-- An item goes by its key. One without a key is a failure that names the URL. -/
theorem identify_cases (hl : l ≠ .conductors) (url : String) (item : Json) :
    (∃ key, l.key? item = some key ∧ l.identify url item = .ok (some key)) ∨
      l.key? item = none ∧ ∃ fault, l.identify url item = .error (.decode url fault) := by
  have hid : (∃ key, item.id? = some key ∧ (entityId url item).map some = .ok (some key)) ∨
      item.id? = none ∧ ∃ fault, (entityId url item).map some = .error (.decode url fault) := by
    rw [entityId_eq]
    cases item.id? with
    | some id => exact .inl ⟨id, rfl, rfl⟩
    | none => exact .inr ⟨rfl, _, rfl⟩
  cases l with
  | conductors => exact absurd rfl hl
  | nodes =>
    simp only [key?, identify]
    cases huuid : (item.get? "uuid").bind Json.str? with
    | some uuid => exact .inl ⟨uuid, rfl, rfl⟩
    | none => exact hid
  | amphoraStatistics amphora =>
    simp only [key?, identify]
    cases hlistener : (item.get? "listener_id").bind Json.str? with
    | some listener => exact .inl ⟨listener, rfl, rfl⟩
    | none => exact .inr ⟨rfl, _, rfl⟩
  | _ => exact hid

/-- Some items come to the map of their entities, or to a failure that names the URL. -/
theorem collect_cases (hl : l ≠ .conductors) (url : String) (items : List Json) :
    ((∀ item ∈ items, (l.key? item).isSome = true) ∧
      ∃ m, l.collect url items = .ok m ∧
      m.Indexes l.key? (fun item e => e = l.form.entity item) items) ∨
    (¬ ∀ item ∈ items, (l.key? item).isSome = true) ∧
      ∃ fault, l.collect url items = .error (.decode url fault) := by
  have hkey : (fun item => (l.identify url item).toOption.join) = l.key? := by
    funext item
    rcases identify_cases hl url item with ⟨key, hkey, hok⟩ | ⟨hkey, fault, he⟩
    · rw [hok, hkey]
      rfl
    · rw [he, hkey]
      rfl
  cases hcollect : l.collect url items with
  | ok m =>
    have hall : ∀ item ∈ items, ∃ id, l.identify url item = .ok id := by
      intro item hitem
      cases hitem' : l.identify url item with
      | ok id => exact ⟨id, rfl⟩
      | error e =>
        have hfails : ∃ e', l.collect url items = .error e' := collect_of_unidentified hitem hitem'
        obtain ⟨e', he'⟩ := hfails
        cases hcollect.symm.trans he'
    have hfull : ∃ m', l.collect url items = .ok m' ∧ m'.Indexes
        (fun item => (l.identify url item).toOption.join)
        (fun item e => e = l.form.entity item) items :=
      collect_of_identified hall
    obtain ⟨m', hm', hindexes⟩ := hfull
    obtain rfl : m = m' := Except.ok.inj (hcollect.symm.trans hm')
    refine .inl ⟨?_, m, rfl, hkey ▸ hindexes⟩
    intro item hitem
    obtain ⟨id, hid⟩ := hall item hitem
    rcases identify_cases hl url item with ⟨key, hkey, -⟩ | ⟨-, fault, he⟩
    · rw [hkey]
      rfl
    · cases hid.symm.trans he
  | error e =>
    obtain ⟨item, hmem, he⟩ := exists_of_collect_error hcollect
    rcases identify_cases hl url item with ⟨key, -, hok⟩ | ⟨hnone, fault, hfault⟩
    · cases he.symm.trans hok
    · obtain rfl : e = .decode url fault := Except.error.inj (he.symm.trans hfault)
      refine .inr ⟨?_, fault, rfl⟩
      intro hall
      have hsome := hall item hmem
      rw [hnone] at hsome
      cases hsome

end Listing

/-! ## From a body to items -/

/-- A body that arrived in full is taken for the items that it has, or for a
failure that names the URL. -/
theorem receive_array_cases (url member : String) (token : Option String)
    (elapsed : Nat) {status : Nat} {body : Body} (hstatus : isFailure status = false)
    (hbody : body ≠ .truncated) :
    (∃ items, body.items? member = some items ∧
      (HttpClient.receive url (.response status token body elapsed)).bind
        (·.array member) = .ok items) ∨
    body.items? member = none ∧ ∃ fault,
      (HttpClient.receive url (.response status token body elapsed)).bind (·.array member) =
        .error (.decode url fault) := by
  simp only [HttpClient.receive, hstatus, Bool.false_eq_true, if_false]
  cases body with
  | truncated => exact absurd rfl hbody
  | malformed => exact .inr ⟨rfl, _, rfl⟩
  | json value =>
    cases value with
    | obj members =>
      simp only [Body.items?, Except.bind, Response.array, Response.field, Json.get?_obj]
      cases findEntry member members with
      | none => exact .inr ⟨rfl, _, rfl⟩
      | some value =>
        cases value with
        | arr items => exact .inl ⟨items, rfl, rfl⟩
        | _ => exact .inr ⟨rfl, _, rfl⟩
    | _ => exact .inr ⟨rfl, _, rfl⟩

namespace Listing

variable {l : Listing}

/-- What an answer to the request for a collection comes to. -/
def ofAnswer (l : Listing) (url : String) (answer : Answer) : Except ApiError (KeyMap Entity) :=
  ((HttpClient.receive url answer).bind (·.array l.member)).bind (l.collect url)

/-- A body that arrived in full comes to the map of all its items, or to a
failure that names the URL. -/
theorem ofAnswer_cases (hl : l ≠ .conductors) (url : String) (token : Option String) (elapsed : Nat)
    {status : Nat} {body : Body} (hstatus : isFailure status = false) (hbody : body ≠ .truncated) :
    (∃ items m, body.items? l.member = some items ∧ (∀ item ∈ items, (l.key? item).isSome = true) ∧
      l.ofAnswer url (.response status token body elapsed) = .ok m ∧
      m.Indexes l.key? (fun item e => e = l.form.entity item) items) ∨
    (¬ ∃ items, body.items? l.member = some items ∧ ∀ item ∈ items, (l.key? item).isSome = true) ∧
      ∃ fault, l.ofAnswer url (.response status token body elapsed) =
        .error (.decode url fault) := by
  unfold ofAnswer
  rcases receive_array_cases url l.member token elapsed hstatus hbody with
    ⟨items, hitems, harray⟩ | ⟨hnone, fault, harray⟩
  · rw [harray]
    rcases collect_cases hl url items with ⟨hkeys, m, hm, hindexes⟩ | ⟨hkeys, fault, he⟩
    · exact .inl ⟨items, m, hitems, hkeys, hm, hindexes⟩
    · refine .inr ⟨?_, fault, he⟩
      rintro ⟨items', hitems', hkeys'⟩
      obtain rfl : items = items' := Option.some.inj (hitems.symm.trans hitems')
      exact hkeys hkeys'
  · rw [harray]
    refine .inr ⟨?_, fault, rfl⟩
    rintro ⟨items, hitems, -⟩
    cases hnone.symm.trans hitems

end Listing

namespace Step

variable {σ α β : Type} {d : Deployment σ} {s : Session} {w : σ}

/-- Whoever asked for a resource and got an answer goes by that answer. -/
theorem got_of_exchange {client : Client} {r : Resource} {purpose : Purpose} {request : Request}
    {answer : Answer} (h : .exchange purpose request answer ∈ (Step.request client r d s w).trace) :
    request = s.getRequest (r.url client.endpoint) ∧
      (s.got d (r.url client.endpoint) w).1 =
        HttpClient.receive (r.url client.endpoint) answer := by
  unfold Step.request at h
  unfold Session.got HttpClient.send
  cases hr : s.http.request? .get (r.url client.endpoint) none with
  | none =>
    rw [send_of_no_request hr] at h
    cases h
  | some sent =>
    rw [send_of_request hr, List.mem_singleton] at h
    cases h
    exact ⟨eq_getRequest hr, rfl⟩

/-- A collection other than that of the conductors is always offered. -/
theorem offers_listing {l : Listing} (hl : l ≠ .conductors) (client : Client) :
    client.offers (.listing l) = true := by
  cases l with
  | conductors => exact absurd rfl hl
  | _ => rfl

/-- An attempt at a collection comes to what its answer does, and enters the
URL if there is a map. -/
theorem listing_of_exchange (hs : s.Sound) {l : Listing} (hl : l ≠ .conductors) {purpose : Purpose}
    {request : Request} {answer : Answer}
    (h : .exchange purpose request answer ∈ (listing l d s w).trace) :
    ∃ endpoint, s.endpoint? l.component = some endpoint ∧
      request = s.getRequest ((Resource.listing l).url endpoint) ∧
      ((∃ m, l.ofAnswer ((Resource.listing l).url endpoint) answer = .ok m ∧
          (listing l d s w).result = .ok (some m) ∧
          (listing l d s w).session.ledger = s.ledger.insert ((Resource.listing l).url endpoint)) ∨
        ∃ e, l.ofAnswer ((Resource.listing l).url endpoint) answer = .error e ∧
          (listing l d s w).result = .error e ∧ (listing l d s w).session.ledger = s.ledger) := by
  have hread := reading_apply (d := d) (w := w) hs (.listing l) fun client => do
    let items ← fetchItems client (.listing l)
    ofExcept (l.collect ((Resource.listing l).url client.endpoint) items)
  rw [← listing] at hread
  cases hendpoint : s.endpoint? l.component with
  | none =>
    rw [show s.endpoint? (Resource.listing l).component = none from hendpoint] at hread
    rw [hread] at h
    cases h
  | some endpoint =>
    rw [show s.endpoint? (Resource.listing l).component = some endpoint from hendpoint] at hread
    dsimp only at hread
    rw [if_pos (offers_listing hl _)] at hread
    by_cases hbefore :
        ((Resource.listing l).isOnce &&
          s.ledger.contains ((Resource.listing l).url endpoint)) = true
    · rw [if_pos hbefore] at hread
      rw [hread] at h
      cases h
    · rw [if_neg hbefore, bind_ofExcept_apply, fetchItems, fetch_apply, Session.gotBy,
        Client.build_endpoint] at hread
      have htrace : (listing l d s w).trace =
          (Step.request (Client.build l.component endpoint s.config)
          (.listing l) d (s.withClient l.component endpoint) w).trace := by
        rw [hread]
        dsimp only
        split <;> rfl
      rw [htrace] at h
      obtain ⟨hrequest, hgot⟩ := got_of_exchange h
      rw [Client.build_endpoint] at hrequest hgot
      refine ⟨endpoint, rfl, hrequest, ?_⟩
      dsimp only at hread
      rw [show (s.withClient (Resource.listing l).component endpoint).got d _ w =
        (s.withClient l.component endpoint).got d _ w from rfl, hgot] at hread
      rw [hread]
      split
      · next e he => exact .inr ⟨e, he, rfl, rfl⟩
      · next m hm => exact .inl ⟨m, hm, rfl, rfl⟩

end Step

/-! ## An attempt that got a body -/

namespace Listing

variable {σ : Type} {l : Listing} {s : Session} {url : String} {body : Body}
  {o : Outcome σ (Option (KeyMap Entity))}

/-- All items of the body have a key. -/
theorem Decoded.of_map {items : List Json} {m : KeyMap Entity}
    (hitems : body.items? l.member = some items)
    (hkeys : ∀ item ∈ items, (l.key? item).isSome = true)
    (hindexes : m.Indexes l.key? (fun item e => e = l.form.entity item) items)
    (hresult : o.result = .ok (some m)) (hledger : o.session.ledger = s.ledger.insert url) :
    l.Decoded s url body o := by
  have hsame : ∀ {m' items'}, o.result = .ok (some m') → body.items? l.member = some items' →
      m = m' ∧ items = items' := by
    intro m' items' hm' hitems'
    exact ⟨Option.some.inj (Except.ok.inj (hresult.symm.trans hm')),
      Option.some.inj (hitems.symm.trans hitems')⟩
  exact
    { complete := ⟨fun _ => ⟨items, hitems, hkeys⟩, fun _ => ⟨m, hresult⟩⟩
      keys := by
        intro m' items' hm' hitems'
        obtain ⟨rfl, rfl⟩ := hsame hm' hitems'
        exact hindexes.keys
      entities := by
        intro m' items' hm' hitems'
        obtain ⟨rfl, rfl⟩ := hsame hm' hitems'
        exact hindexes.get?_eq
      empty := by
        intro hnone
        obtain rfl := Option.some.inj (hitems.symm.trans hnone)
        have hm : m = .empty := KeyMap.ext_get? fun key => hindexes.get?_eq key
        rw [hresult, hm]
      entered := fun _ _ => hledger
      refused := fun h => absurd hresult (h m) }

/-- The body has no items, or one of them has no key. -/
theorem Decoded.of_fault {fault : DecodeFault}
    (hnone : ¬ ∃ items, body.items? l.member = some items ∧
      ∀ item ∈ items, (l.key? item).isSome = true)
    (hresult : o.result = .error (.decode url fault)) (hledger : o.session.ledger = s.ledger) :
    l.Decoded s url body o := by
  have hfails : ∀ m, o.result ≠ .ok (some m) := by
    intro m hm
    cases hresult.symm.trans hm
  exact
    { complete := ⟨fun ⟨m, hm⟩ => absurd hm (hfails m), fun h => absurd h hnone⟩
      keys := fun m _ hm => absurd hm (hfails m)
      entities := fun m _ hm => absurd hm (hfails m)
      empty := fun h => absurd ⟨[], h, fun _ hmem => absurd hmem List.not_mem_nil⟩ hnone
      entered := fun m hm => absurd hm (hfails m)
      refused := fun _ => ⟨⟨fault, hresult⟩, hledger⟩ }

end Listing

/-- **A collection is read whole or not at all.** In every session that a run can reach and against
any deployment, an attempt at a collection that was answered, with no failing status and a body in
full, comes to the map of all items of the body, or to an error that names the URL. -/
theorem Session.Reachable.decoded {s : Session} (hs : s.Reachable) {σ : Type}
    (d : Deployment σ) (w : σ) {l : Listing} (hl : l ≠ .conductors) {purpose : Purpose}
    {request : Request} {status : Nat} {token : Option String} {body : Body} {elapsed : Nat}
    (hanswered : .exchange purpose request (.response status token body elapsed) ∈
      ((Query.listing l).attempt d s w).trace)
    (hstatus : isFailure status = false) (hbody : body ≠ .truncated) :
    ∃ endpoint, s.endpoint? l.component = some endpoint ∧
      request = s.getRequest ((Resource.listing l).url endpoint) ∧
      l.Decoded s ((Resource.listing l).url endpoint) body ((Query.listing l).attempt d s w) := by
  obtain ⟨held, hheld⟩ := hs.holds
  obtain ⟨endpoint, hendpoint, hrequest, hcomes⟩ :=
    Step.listing_of_exchange hheld.sound hl hanswered
  refine ⟨endpoint, hendpoint, hrequest, ?_⟩
  rcases l.ofAnswer_cases hl ((Resource.listing l).url endpoint) token elapsed hstatus hbody with
    ⟨items, m, hitems, hkeys, hm, hindexes⟩ | ⟨hnone, fault, he⟩
  · rcases hcomes with ⟨m', hm', hresult, hledger⟩ | ⟨e, he, -⟩
    · obtain rfl : m = m' := Except.ok.inj (hm.symm.trans hm')
      exact .of_map hitems hkeys hindexes hresult hledger
    · cases hm.symm.trans he
  · rcases hcomes with ⟨m, hm, -⟩ | ⟨e, he', hresult, hledger⟩
    · cases he.symm.trans hm
    · obtain rfl := Except.error.inj (he.symm.trans he')
      exact .of_fault hnone hresult hledger

/-- Flavors of which two share a key, written as a number and as a text, and an
aggregate without a key. -/
def Body.sample : Body :=
  .json (.obj [
    ("aggregates", .arr [.obj [("id", .int 1)], .obj [("id", .null)]]),
    ("flavors", .arr [.obj [("id", .int 7), ("name", .str "small")], .obj [("id", .str "a")],
      .obj [("id", .str "7"), ("name", .str "large")]])])

/-- A deployment that grants every login and answers every other request with this body. -/
def Deployment.sampleBody : Deployment Unit := .stateless fun request =>
  match request.method with
  | .post => (Deployment.sample request ()).1
  | .get => .response 200 none .sample 0

/-- The session that has logged in there. -/
def Session.sampleBody : Session :=
  (Operation.authorize.perform Deployment.sampleBody .sample ()).session

/-- Of the flavors there are two. Of the aggregates there is none. -/
theorem sampleBody_decoded :
    .exchange (.polling .compute) (Session.sampleBody.getRequest "http://nova/flavors/detail")
        (.response 200 none .sample 0) ∈
      ((Query.listing .flavors).attempt Deployment.sampleBody .sampleBody ()).trace ∧
    (∃ endpoint, Session.sampleBody.endpoint? .compute = some endpoint ∧
      Listing.flavors.Decoded .sampleBody ((Resource.listing .flavors).url endpoint) .sample
        ((Query.listing .flavors).attempt Deployment.sampleBody .sampleBody ())) ∧
    ((Query.listing .flavors).attempt Deployment.sampleBody .sampleBody ()).result.toOption.join.map
      KeyMap.keys = some ["7", "a"] ∧
    ((Query.listing .aggregates).attempt Deployment.sampleBody .sampleBody ()).result =
      .error (.decode "http://nova/os-aggregates" (.missing "id")) := by
  have hs : Session.sampleBody.Reachable :=
    .perform (.new Session.new_sample) .authorize Deployment.sampleBody ()
  have htrace : ((Query.listing .flavors).attempt Deployment.sampleBody .sampleBody ()).trace =
      [.exchange (.polling .compute) (Session.sampleBody.getRequest "http://nova/flavors/detail")
        (.response 200 none .sample 0)] := rfl
  have hanswered := htrace ▸ List.mem_singleton_self _
  have hfull : Body.sample ≠ .truncated := nofun
  refine ⟨hanswered, ?_, by decide +kernel, rfl⟩
  obtain ⟨endpoint, hendpoint, -, hdecoded⟩ :=
    hs.decoded Deployment.sampleBody () (by decide) hanswered (by decide) hfull
  exact ⟨endpoint, hendpoint, hdecoded⟩

end StackWatch
