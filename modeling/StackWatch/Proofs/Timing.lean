import StackWatch.Proofs.Attempt

/-!
# What timing a component can do

A probe finds the endpoint of its component and asks for one URL there, unless that was read. When a
response came it enters the URL, and in every other case it enters nothing (`probe_of_data`,
`probe_session`). It never logs in.
-/

namespace StackWatch

/-- The URL that a probe asks for, at the endpoint of its component. -/
def Probe.url : Probe → String → String
  | .apiRoot _, endpoint => endpoint
  | .blockStorageRoot, endpoint => StackWatch.blockStorageRoot endpoint

theorem Probe.component_ofComponent (c : Component) : (Probe.ofComponent c).component = c := by
  cases c <;> rfl

theorem Probe.ofComponent_injective {c c' : Component}
    (h : Probe.ofComponent c = Probe.ofComponent c') : c = c' := by
  rw [← component_ofComponent c, h, component_ofComponent]

/-- The root of block storage is its endpoint up to the last slash. -/
theorem blockStorageRoot_append {root last : String} (h : '/' ∉ last.toList) :
    blockStorageRoot (root ++ "/" ++ last) = root := by
  have hcs : (root ++ "/" ++ last).toList = root.toList ++ '/' :: last.toList := by simp
  have hdrop : (last.toList.reverse ++ '/' :: root.toList.reverse).dropWhile (· != '/') =
      '/' :: root.toList.reverse := by
    rw [List.dropWhile_append_of_pos]
    · rfl
    · intro c hc
      have hne : c ≠ '/' := fun heq => h (heq ▸ List.mem_reverse.1 hc)
      simpa using hne
  unfold blockStorageRoot
  dsimp only
  rw [hcs, if_pos (by simp), List.reverse_append, List.reverse_cons, List.append_assoc,
    List.singleton_append, hdrop]
  simp

namespace Step

variable {σ : Type} {d : Deployment σ} {s : Session} {w : σ}

/-- How a round trip to a URL ends: without a time and with nothing changed, or with the time of the
one request that was sent for it. -/
inductive Timed (s : Session) (url : String) (o : Outcome σ (Option Float)) : Prop where
  | empty (hresult : ∀ elapsed, o.result ≠ .ok (some elapsed)) (hsession : o.session = s)
  | data {elapsed : Float} (hresult : o.result = .ok (some elapsed)) (hunread : url ∉ s.ledger.urls)
      (hrequests : o.requests = [s.getRequest url]) (hsession : o.session = s.withEntry url)

/-- A round trip asks for its URL unless that was read. -/
theorem timed_cases (c : Component) (url : String) :
    (∀ event ∈ (timed c url d s w).trace,
      url ∉ s.ledger.urls ∧ s.Gets (.polling c) url event) ∧
    Timed s url (timed c url d s w) := by
  have hbefore : (wasRead url : Step σ Bool) d s w = ⟨.ok (s.ledger.contains url), s, w, []⟩ := rfl
  rw [timed, bind_quiet hbefore]
  by_cases hread : s.ledger.contains url = true
  · rw [if_pos hread]
    exact ⟨fun _ h => absurd h List.not_mem_nil, .empty (fun _ h => nomatch h) rfl⟩
  · have hunread := Ledger.not_mem_of_not_contains hread
    have htrace := send_get_trace (d := d) (s := s) (w := w) (.polling c) url
    rw [if_neg hread]
    cases hsend : (send (.polling c) .get url none d s w).result with
    | error e =>
      rw [bind_of_error hsend]
      exact ⟨fun event hevent => ⟨hunread, htrace event hevent⟩, .empty (fun _ h => nomatch h) rfl⟩
    | ok response =>
      rw [bind_of_ok hsend, enter_pure]
      simp only [List.append_nil]
      exact ⟨fun event hevent => ⟨hunread, htrace event hevent⟩,
        .data rfl hunread (send_get_requests hsend) rfl⟩

/-- What a probe can come to. -/
inductive Probed (p : Probe) (d : Deployment σ) (s : Session) (w : σ)
    (o : Outcome σ (Option Float)) : Prop where
  | absent (hendpoint : s.endpoint? p.component = none)
      (houtcome : o = ⟨.error (.componentNotFound p.component), s, w, []⟩)
  | present {endpoint : String} {s' : Session} (hendpoint : s.endpoint? p.component = some endpoint)
      (hsound : s'.Sound) (hsame : s.SameLogin s') (hledger : s'.ledger = s.ledger)
      (houtcome : o = timed p.component (p.url endpoint) d s' w)

/-- Under the invariant a probe goes by the catalog. -/
theorem probed (hs : s.Sound) (p : Probe) : Probed p d s w (probe p d s w) := by
  cases p with
  | apiRoot c =>
    have hrun := endpointOf_apply (d := d) (w := w) hs c
    change Probed _ d s w ((endpointOf c >>= timed c) d s w)
    cases hendpoint : s.endpoint? c with
    | none =>
      rw [hendpoint] at hrun
      rw [bind_failed hrun]
      exact .absent hendpoint rfl
    | some endpoint =>
      rw [hendpoint] at hrun
      rw [bind_quiet hrun]
      exact .present hendpoint (hs.withEndpoint hendpoint) (s.sameLogin_withEndpoint _ _) rfl rfl
  | blockStorageRoot =>
    have hrun := clientOf_apply (d := d) (w := w) hs .blockStorage
    change Probed _ d s w ((clientOf .blockStorage >>= fun client =>
      timed .blockStorage (StackWatch.blockStorageRoot client.endpoint)) d s w)
    cases hendpoint : s.endpoint? .blockStorage with
    | none =>
      rw [hendpoint] at hrun
      rw [bind_failed hrun]
      exact .absent hendpoint rfl
    | some endpoint =>
      rw [hendpoint] at hrun
      rw [bind_quiet hrun]
      exact .present hendpoint (hs.withClient hendpoint) (s.sameLogin_withClient _ _) rfl rfl

end Step

/-! ## What follows of every probe -/

namespace Probe

variable {σ : Type} {d : Deployment σ} {s : Session} {w : σ}

/-- **What a probe sends**: the request for its URL, if that is unread. -/
theorem probe_emits (hs : s.Sound) (p : Probe) :
    ∀ event ∈ (Step.probe p d s w).trace, ∃ endpoint, s.endpoint? p.component = some endpoint ∧
      p.url endpoint ∉ s.ledger.urls ∧ s.Gets (.polling p.component) (p.url endpoint) event := by
  intro event hevent
  cases Step.probed (d := d) (w := w) hs p with
  | absent _ houtcome =>
    rw [houtcome] at hevent
    cases hevent
  | @present endpoint s' hendpoint _ hsame hledger houtcome =>
    rw [houtcome] at hevent
    obtain ⟨hunread, hgets⟩ := (Step.timed_cases _ _).1 event hevent
    rw [hledger] at hunread
    obtain ⟨answer, rfl⟩ := hgets
    rw [Session.getRequest_of_http hsame.http]
    exact ⟨endpoint, hendpoint, hunread, answer, rfl⟩

/-- **What a probe keeps.** It stays under the login that it finds. -/
theorem probe_keeps (hs : s.Sound) (p : Probe) :
    (Step.probe p d s w).session.Sound ∧ s.SameLogin (Step.probe p d s w).session := by
  cases Step.probed (d := d) (w := w) hs p with
  | absent _ houtcome =>
    rw [houtcome]
    exact ⟨hs, .refl s⟩
  | present _ hsound hsame _ houtcome =>
    rw [houtcome]
    cases (Step.timed_cases _ _).2 with
    | empty _ hsession =>
      rw [hsession]
      exact ⟨hsound, hsame⟩
    | data _ _ _ hsession =>
      rw [hsession]
      exact ⟨hsound.withLedger _, hsame.withLedger _⟩

/-- **A probe without a time** enters nothing. -/
theorem probe_ledger_of_no_data (hs : s.Sound) (p : Probe)
    (h : ∀ elapsed, (Step.probe p d s w).result ≠ .ok (some elapsed)) :
    (Step.probe p d s w).session.ledger = s.ledger := by
  cases Step.probed (d := d) (w := w) hs p with
  | absent _ houtcome => rw [houtcome]
  | present _ _ _ hledger houtcome =>
    rw [houtcome] at h ⊢
    cases (Step.timed_cases _ _).2 with
    | empty _ hsession => rw [hsession, hledger]
    | data hresult => exact absurd hresult (h _)

/-- **A probe with a time** sent one request for its URL, which was unread, and has entered it. -/
theorem probe_of_data (hs : s.Sound) (p : Probe) {elapsed : Float}
    (h : (Step.probe p d s w).result = .ok (some elapsed)) :
    ∃ endpoint, s.endpoint? p.component = some endpoint ∧ p.url endpoint ∉ s.ledger.urls ∧
      (Step.probe p d s w).requests = [s.getRequest (p.url endpoint)] ∧
      (Step.probe p d s w).session.ledger = s.ledger.insert (p.url endpoint) := by
  cases Step.probed (d := d) (w := w) hs p with
  | absent _ houtcome =>
    rw [houtcome] at h
    cases h
  | @present endpoint s' hendpoint _ hsame hledger houtcome =>
    rw [houtcome] at h ⊢
    cases (Step.timed_cases _ _).2 with
    | empty hresult => exact absurd h (hresult elapsed)
    | data _ hunread hrequests hsession =>
      rw [hledger] at hunread
      refine ⟨endpoint, hendpoint, hunread, ?_, ?_⟩
      · rw [hrequests, Session.getRequest_of_http hsame.http]
      · rw [hsession]
        exact congrArg (fun ledger : Ledger => ledger.insert (p.url endpoint)) hledger

end Probe

end StackWatch
