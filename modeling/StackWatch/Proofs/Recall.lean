import StackWatch.Proofs.Looking

/-!
# What is remembered is what the catalog says

A session remembers the endpoints that it looked up and the clients that it built. `Session.Sound`
says that all of it is what the catalog at hand would give again. Under that invariant both tables
are invisible: looking up an endpoint (`endpointOf_apply`) and asking for a client
(`clientOf_apply`) are functions of the catalog, and the client of another component is never met.
-/

namespace StackWatch

namespace Memo

variable {α : Type}

/-- Setting the value that is there already changes nothing. -/
theorem insert_eq_self {m : Memo α} {c : Component} {value : α} (h : m c = some value) :
    m.insert c value = m := by
  funext c'
  by_cases hc : c' = c
  · subst hc
    rw [insert_self, h]
  · rw [insert_of_ne m value hc]

/-- A value of the table after an insertion is the inserted one, or was there before. -/
theorem insert_eq_some {m : Memo α} {c c' : Component} {value v : α}
    (h : m.insert c value c' = some v) : c' = c ∧ v = value ∨ c' ≠ c ∧ m c' = some v := by
  by_cases hc : c' = c
  · subst hc
    rw [insert_self] at h
    exact .inl ⟨rfl, (Option.some.inj h).symm⟩
  · rw [insert_of_ne m value hc] at h
    exact .inr ⟨hc, h⟩

end Memo

@[simp] theorem Client.build_endpoint (c : Component) (endpoint : String) (config : Config) :
    (Client.build c endpoint config).endpoint = endpoint := rfl

namespace Session

/-- The endpoint of a component in the catalog at hand. -/
def endpoint? (s : Session) (c : Component) : Option String :=
  s.resolver.catalog.findUrl? c s.resolver.interface

/-- The session that remembers an endpoint. -/
def withEndpoint (s : Session) (c : Component) (endpoint : String) : Session :=
  { s with resolver := { s.resolver with found := s.resolver.found.insert c endpoint } }

/-- The session that remembers an endpoint and the client built from it. -/
def withClient (s : Session) (c : Component) (endpoint : String) : Session :=
  { s.withEndpoint c endpoint with
    clients := s.clients.insert c (Client.build c endpoint s.config) }

/-- What a session remembers is what its catalog gives. -/
structure Sound (s : Session) : Prop where
  interface : s.resolver.interface = s.config.interface
  found : ∀ c endpoint, s.resolver.found c = some endpoint → s.endpoint? c = some endpoint
  clients : ∀ c client, s.clients c = some client →
    s.resolver.found c = some client.endpoint ∧ client = Client.build c client.endpoint s.config

variable {s : Session} {c : Component} {endpoint : String}

/-- A session that remembers nothing. -/
theorem Sound.of_empty (hinterface : s.resolver.interface = s.config.interface)
    (hfound : s.resolver.found = .empty) (hclients : s.clients = .empty) : s.Sound where
  interface := hinterface
  found c endpoint h := by
    rw [hfound] at h
    cases h
  clients c client h := by
    rw [hclients] at h
    cases h

theorem Sound.withEndpoint (hs : s.Sound) (h : s.endpoint? c = some endpoint) :
    (s.withEndpoint c endpoint).Sound where
  interface := hs.interface
  found c' endpoint' h' := by
    rcases Memo.insert_eq_some h' with ⟨rfl, rfl⟩ | ⟨-, h'⟩
    · exact h
    · exact hs.found c' endpoint' h'
  clients c' client h' := by
    obtain ⟨hfound, hclient⟩ := hs.clients c' client h'
    refine ⟨?_, hclient⟩
    change s.resolver.found.insert c endpoint c' = some client.endpoint
    by_cases hc : c' = c
    · -- both the memo and the client took the endpoint from this catalog
      subst hc
      rw [Memo.insert_self, ← h, hs.found c' client.endpoint hfound]
    · rw [Memo.insert_of_ne _ _ hc]
      exact hfound

theorem Sound.withClient (hs : s.Sound) (h : s.endpoint? c = some endpoint) :
    (s.withClient c endpoint).Sound where
  interface := hs.interface
  found := (hs.withEndpoint h).found
  clients c' client h' := by
    rcases Memo.insert_eq_some h' with ⟨rfl, rfl⟩ | ⟨-, h'⟩
    · exact ⟨Memo.insert_self _ _ _, rfl⟩
    · exact (hs.withEndpoint h).clients c' client h'

theorem Sound.withLedger (hs : s.Sound) (ledger : Ledger) : Session.Sound { s with ledger } where
  interface := hs.interface
  found := hs.found
  clients := hs.clients

theorem withEndpoint_eq_self (h : s.resolver.found c = some endpoint) :
    s.withEndpoint c endpoint = s := by
  rw [withEndpoint, Memo.insert_eq_self h]

theorem withClient_eq_self (hfound : s.resolver.found c = some endpoint)
    (hclient : s.clients c = some (Client.build c endpoint s.config)) :
    s.withClient c endpoint = s := by
  rw [withClient, Memo.insert_eq_self hclient, withEndpoint_eq_self hfound]

end Session

namespace Step

variable {σ : Type} {d : Deployment σ} {s : Session} {w : σ}

/-- Under the invariant an endpoint is what the catalog says, whether it is remembered or not. -/
theorem endpointOf_apply (hs : s.Sound) (c : Component) :
    endpointOf c d s w =
      match s.endpoint? c with
      | none => ⟨.error (.componentNotFound c), s, w, []⟩
      | some endpoint => ⟨.ok endpoint, s.withEndpoint c endpoint, w, []⟩ := by
  have hrun : endpointOf c d s w =
      ⟨(s.resolver.resolve c).1, { s with resolver := (s.resolver.resolve c).2 }, w, []⟩ := rfl
  rw [hrun]
  cases hfound : s.resolver.found c with
  | some endpoint =>
    rw [Resolver.resolve_hit hfound, hs.found c endpoint hfound]
    simp only [Session.withEndpoint_eq_self hfound]
  | none =>
    cases hurl : s.endpoint? c with
    | none => rw [Resolver.resolve_absent hfound hurl]
    | some endpoint =>
      rw [Resolver.resolve_miss hfound hurl]
      rfl

/-- The client that is built for a component is its own. -/
theorem ownClient_build (c : Component) (endpoint : String) (config : Config) :
    (ownClient c (Client.build c endpoint config) : Step σ Client) =
      pure (Client.build c endpoint config) :=
  if_pos rfl

/-- Under the invariant a client is the one built from the catalog, whether it
is remembered or not. -/
theorem clientOf_apply (hs : s.Sound) (c : Component) :
    clientOf c d s w =
      match s.endpoint? c with
      | none => ⟨.error (.componentNotFound c), s, w, []⟩
      | some endpoint =>
        ⟨.ok (Client.build c endpoint s.config), s.withClient c endpoint, w, []⟩ := by
  cases hclient : s.clients c with
  | some client =>
    -- a remembered client is the one that would be built again
    obtain ⟨hfound, hbuild⟩ := hs.clients c client hclient
    have hrun : clientOf c d s w = ownClient c client d s w := by
      rw [clientOf, bind_of_ok (m := get) rfl]
      simp only [get, hclient]
      rfl
    rw [hbuild] at hclient
    rw [hrun, hs.found c _ hfound, hbuild, ownClient_build]
    simp only [pure_apply, Client.build_endpoint, Session.withClient_eq_self hfound hclient]
  | none =>
    have hrun : clientOf c d s w =
        (do
          let endpoint ← endpointOf c
          let client := Client.build c endpoint s.config
          modify fun s => { s with clients := s.clients.insert c client }
          ownClient c client : Step σ Client) d s w := by
      rw [clientOf, bind_of_ok (m := get) rfl]
      simp only [get, hclient]
      rfl
    rw [hrun]
    have hendpoint := endpointOf_apply (d := d) (w := w) hs c
    cases hurl : s.endpoint? c with
    | none =>
      rw [hurl] at hendpoint
      have herror : (endpointOf c d s w).result = .error (.componentNotFound c) := by rw [hendpoint]
      rw [bind_of_error herror, hendpoint]
    | some endpoint =>
      rw [hurl] at hendpoint
      have hok : (endpointOf c d s w).result = .ok endpoint := by rw [hendpoint]
      rw [bind_of_ok hok, hendpoint, bind_of_ok (m := modify _) rfl, ownClient_build]
      rfl

end Step

end StackWatch
