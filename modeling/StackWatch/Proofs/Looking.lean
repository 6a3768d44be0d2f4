import StackWatch.Session.Operation

/-!
# What is sent

The requests of a trace, and the steps that do nothing but ask: they leave the session as it is, and
all that can be said of them is which events they leave behind. `Step.Looks E` says that of a step,
where `E` may depend on the session. It holds of a sequence when it holds of its parts, so that what
an attempt sends is read off its requests one at a time.
-/

namespace StackWatch

/-! ## Requests of a trace -/

/-- The request of an exchange. -/
def Event.request? : Event → Option Request
  | .exchange _ request _ => some request
  | .notice _ => none

/-- The requests of a trace, in order. -/
def requestsOf (trace : List Event) : List Request := trace.filterMap Event.request?

@[simp] theorem requestsOf_append (before after : List Event) :
    requestsOf (before ++ after) = requestsOf before ++ requestsOf after :=
  List.filterMap_append

@[simp] theorem requestsOf_notice (n : Notice) : requestsOf [.notice n] = [] := rfl

/-- A request of a trace is the request of one of its events. -/
theorem mem_requestsOf {trace : List Event} {request : Request} :
    request ∈ requestsOf trace ↔ ∃ purpose answer, .exchange purpose request answer ∈ trace := by
  rw [requestsOf, List.mem_filterMap]
  constructor
  · rintro ⟨event, hmem, hevent⟩
    cases event with
    | exchange purpose r answer =>
      obtain rfl : r = request := Option.some.inj hevent
      exact ⟨purpose, answer, hmem⟩
    | notice n => cases hevent
  · rintro ⟨purpose, answer, hmem⟩
    exact ⟨_, hmem, rfl⟩

/-- The requests that were sent on the way to an outcome. -/
def Outcome.requests {σ α : Type} (o : Outcome σ α) : List Request := requestsOf o.trace

/-- An outcome with what was traced before it. -/
def Outcome.after {σ α : Type} (o : Outcome σ α) (before : List Event) : Outcome σ α :=
  { o with trace := before ++ o.trace }

@[simp] theorem Outcome.result_after {σ α : Type} (o : Outcome σ α) (before : List Event) :
    (o.after before).result = o.result := rfl

@[simp] theorem Outcome.requests_after {σ α : Type} (o : Outcome σ α) (before : List Event) :
    (o.after before).requests = requestsOf before ++ o.requests := requestsOf_append before o.trace

theorem Outcome.after_after {σ α : Type} (o : Outcome σ α) (before before' : List Event) :
    (o.after before').after before = o.after (before ++ before') := by
  simp only [after, List.append_assoc]

/-! ## One request -/

/-- The request for a URL, as a session sends it. -/
def Session.getRequest (s : Session) (url : String) : Request :=
  ⟨.get, Url.wire url, s.http.token, s.http.novaVersion, s.http.ironicVersion, none⟩

theorem Session.getRequest_of_http {s s' : Session} (h : s'.http = s.http) (url : String) :
    s'.getRequest url = s.getRequest url := by
  rw [getRequest, getRequest, h]

/-- A request can be built for a URL that names a host, if the token may be sent. -/
theorem HttpClient.request?_of_requestable {client : HttpClient} {url : String}
    (hurl : Url.isRequestable url = true) (htoken : client.token.all isHeaderValue = true)
    (method : Method) (body : Option Json) :
    client.request? method url body = some
      ⟨method, Url.wire url, client.token, client.novaVersion, client.ironicVersion, body⟩ := by
  rw [request?, if_pos]
  rw [hurl, htoken, Bool.and_true]

/-- None can be built for a URL that does not. -/
theorem HttpClient.request?_of_not_requestable {client : HttpClient} {url : String}
    (hurl : ¬ Url.isRequestable url = true) (method : Method) (body : Option Json) :
    client.request? method url body = none := by
  rw [request?, if_neg]
  intro h
  exact hurl (Bool.and_eq_true_iff.1 h).1

/-- An exchange in which a session gets a URL. -/
def Session.Gets (s : Session) (purpose : Purpose) (url : String) (event : Event) : Prop :=
  ∃ answer, event = .exchange purpose (s.getRequest url) answer

namespace Step

variable {σ α β : Type} {d : Deployment σ} {s s' : Session} {w w' : σ}

/-- After a step that left no trace comes the rest. -/
theorem bind_quiet {m : Step σ α} {f : α → Step σ β} {a : α}
    (h : m d s w = ⟨.ok a, s', w', []⟩) : (m >>= f) d s w = f a d s' w' := by
  rw [bind_of_ok (by rw [h]), h]
  rfl

/-- What holds of a sequence of two steps: it is shown of a failure of the first, and of the second
after the first. -/
theorem bind_cases {m : Step σ α} {f : α → Step σ β} {P : Outcome σ β → Prop}
    (herror : ∀ e s' w' trace, m d s w = ⟨.error e, s', w', trace⟩ → P ⟨.error e, s', w', trace⟩)
    (hok : ∀ a s' w' trace, m d s w = ⟨.ok a, s', w', trace⟩ → P ((f a d s' w').after trace)) :
    P ((m >>= f) d s w) := by
  cases hm : m d s w with
  | mk result s' w' trace =>
    cases result with
    | error e =>
      rw [bind_of_error (by rw [hm]), hm]
      exact herror e s' w' trace hm
    | ok a =>
      rw [bind_of_ok (by rw [hm]), hm]
      exact hok a s' w' trace hm

/-- A step that failed is the whole. -/
theorem bind_failed {m : Step σ α} {f : α → Step σ β} {e : ApiError} {trace : List Event}
    (h : m d s w = ⟨.error e, s', w', trace⟩) : (m >>= f) d s w = ⟨.error e, s', w', trace⟩ := by
  rw [bind_of_error (by rw [h]), h]

/-- A request that can be built is sent, and comes to what its answer means. -/
theorem send_of_request {purpose : Purpose} {method : Method} {url : String} {body : Option Json}
    {request : Request} (h : s.http.request? method url body = some request) :
    send purpose method url body d s w =
      ⟨HttpClient.receive url (d request w).1, s, (d request w).2,
        [.exchange purpose request (d request w).1]⟩ := by
  simp only [send, HttpClient.send, h]
  rfl

/-- A request that cannot be built is not sent. -/
theorem send_of_no_request {purpose : Purpose} {method : Method} {url : String} {body : Option Json}
    (h : s.http.request? method url body = none) :
    send purpose method url body d s w = ⟨.error (.transport url .notBuilt), s, w, []⟩ := by
  simp only [send, HttpClient.send, h]
  rfl

/-- A request for a URL, if it can be built, is the session's. -/
theorem eq_getRequest {url : String} {request : Request}
    (h : s.http.request? .get url none = some request) : request = s.getRequest url := by
  unfold HttpClient.request? at h
  split at h
  · exact (Option.some.inj h).symm
  · cases h

/-- Asking for a URL leaves at most the one exchange. -/
theorem send_get_trace (purpose : Purpose) (url : String) :
    ∀ event ∈ (send purpose .get url none d s w).trace, s.Gets purpose url event := by
  intro event hevent
  cases hr : s.http.request? .get url none with
  | none =>
    rw [send_of_no_request hr] at hevent
    cases hevent
  | some request =>
    rw [send_of_request hr] at hevent
    rw [List.mem_singleton.1 hevent, eq_getRequest hr]
    exact ⟨_, rfl⟩

/-- Whoever got a response sent one request for it. -/
theorem send_get_requests {purpose : Purpose} {url : String} {response : Response}
    (h : (send purpose .get url none d s w).result = .ok response) :
    (send purpose .get url none d s w).requests = [s.getRequest url] := by
  cases hr : s.http.request? .get url none with
  | none =>
    rw [send_of_no_request hr] at h
    cases h
  | some request =>
    rw [send_of_request hr, eq_getRequest hr]
    rfl

/-- Asking for a URL sends the request for it, or nothing. -/
theorem send_get_isPrefix (purpose : Purpose) (url : String) :
    (send purpose .get url none d s w).requests.IsPrefix [s.getRequest url] := by
  cases hr : s.http.request? .get url none with
  | none =>
    rw [send_of_no_request hr]
    exact List.nil_prefix
  | some request =>
    rw [send_of_request hr, eq_getRequest hr]
    exact List.prefix_refl _

end Step

/-! ## Fetching -/

namespace Session

variable {σ : Type}

/-- What a session gets for a URL, and the state in which that leaves the deployment. -/
def got (s : Session) (d : Deployment σ) (url : String) (w : σ) : Except ApiError Response × σ :=
  ((s.http.send d .get url none w).1, (s.http.send d .get url none w).2.2)

/-- What a session reads off what it gets for a resource. -/
def gotBy {α : Type} (s : Session) (d : Deployment σ) (endpoint : String) (r : Resource)
    (read : Response → Except ApiError α) (w : σ) : Except ApiError α × σ :=
  ((s.got d (r.url endpoint) w).1.bind read, (s.got d (r.url endpoint) w).2)

/-- The array that a session gets of a resource. -/
def gotItems (s : Session) (d : Deployment σ) (endpoint : String) (r : Resource) (w : σ) :
    Except ApiError (List Json) × σ :=
  s.gotBy d endpoint r (·.array r.member) w

/-- The object that a session gets of a resource, or whatever stands in its place. -/
def gotObject (s : Session) (d : Deployment σ) (endpoint : String) (r : Resource) (w : σ) :
    Except ApiError Json × σ :=
  s.gotBy d endpoint r (·.field r.member) w

/-- What a session gets depends on what it sends along, and on nothing else of it. -/
theorem got_of_http {s s' : Session} (h : s'.http = s.http) (d : Deployment σ) :
    s'.got d = s.got d := by
  funext url w
  rw [got, got, h]

theorem gotBy_of_http {α : Type} {s s' : Session} (h : s'.http = s.http) (d : Deployment σ)
    (endpoint : String) (r : Resource) (read : Response → Except ApiError α) :
    s'.gotBy d endpoint r read = s.gotBy d endpoint r read := by
  funext w
  rw [gotBy, gotBy, got_of_http h]

end Session

namespace Step

variable {σ α β : Type} {d : Deployment σ} {s s' : Session} {w w' : σ}

/-- To read something off the value of a step changes nothing else. -/
theorem bind_ofExcept_apply (m : Step σ α) (read : α → Except ApiError β) :
    (m >>= fun a => ofExcept (read a)) d s w =
      ⟨(m d s w).result.bind read, (m d s w).session, (m d s w).state, (m d s w).trace⟩ := by
  cases hresult : (m d s w).result with
  | error e =>
    rw [bind_of_error hresult]
    rfl
  | ok a =>
    rw [bind_of_ok hresult]
    simp only [ofExcept, List.append_nil]
    rfl

/-- To wrap the value of a step changes nothing else. -/
theorem bind_pure_apply (m : Step σ α) (f : α → β) :
    (m >>= fun a => pure (f a)) d s w =
      ⟨(m d s w).result.map f, (m d s w).session, (m d s w).state, (m d s w).trace⟩ := by
  have hread := bind_ofExcept_apply (d := d) (s := s) (w := w) m fun a => .ok (f a)
  refine hread.trans ?_
  cases (m d s w).result <;> rfl

/-- A fetch comes to what is read off the response, and only looks. -/
theorem fetch_apply (client : Client) (r : Resource) (read : Response → Except ApiError α) :
    fetch client r read d s w =
      ⟨(s.gotBy d client.endpoint r read w).1, s, (s.gotBy d client.endpoint r read w).2,
        (request client r d s w).trace⟩ :=
  bind_ofExcept_apply (request client r) read

/-- Whoever read something off a response sent one request for it. -/
theorem requests_of_fetched {client : Client} {r : Resource}
    {read : Response → Except ApiError α} {a : α}
    (h : (s.got d (r.url client.endpoint) w).1.bind read = .ok a) :
    (request client r d s w).requests = [s.getRequest (r.url client.endpoint)] := by
  cases hgot : (s.got d (r.url client.endpoint) w).1 with
  | error e =>
    rw [hgot] at h
    cases h
  | ok response => exact send_get_requests hgot

/-! ## Steps that only look -/

/-- A step that leaves the session as it is, and no events but those of `E`. -/
def Looks (E : Session → Event → Prop) (m : Step σ α) : Prop :=
  ∀ d s w, (m d s w).session = s ∧ ∀ event ∈ (m d s w).trace, E s event

variable {E E' : Session → Event → Prop}

theorem looks_pure (a : α) : Looks E (pure a : Step σ α) := fun _ _ _ =>
  ⟨rfl, fun _ h => absurd h List.not_mem_nil⟩

theorem looks_ofExcept (result : Except ApiError α) : Looks E (ofExcept result : Step σ α) :=
  fun _ _ _ => ⟨rfl, fun _ h => absurd h List.not_mem_nil⟩

theorem looks_send (purpose : Purpose) (url : String) :
    Looks (fun s => s.Gets purpose url) (send purpose .get url none : Step σ Response) :=
  fun _ _ _ => ⟨rfl, send_get_trace purpose url⟩

theorem Looks.mono {m : Step σ α} (hm : Looks E m) (h : ∀ s event, E s event → E' s event) :
    Looks E' m := fun d s w =>
  ⟨(hm d s w).1, fun event hevent => h s event ((hm d s w).2 event hevent)⟩

/-- A sequence of two steps that only look is another. -/
theorem Looks.bind {m : Step σ α} {f : α → Step σ β} (hm : Looks E m) (hf : ∀ a, Looks E (f a)) :
    Looks E (m >>= f) := by
  intro d s w
  obtain ⟨hsession, htrace⟩ := hm d s w
  cases hr : (m d s w).result with
  | error e =>
    rw [bind_of_error hr]
    exact ⟨hsession, htrace⟩
  | ok a =>
    obtain ⟨hsession', htrace'⟩ := hf a d (m d s w).session (m d s w).state
    rw [bind_of_ok hr]
    refine ⟨hsession'.trans hsession, fun event hevent => ?_⟩
    rcases List.mem_append.1 hevent with h | h
    · exact htrace event h
    · have hE : E (m d s w).session event := htrace' event h
      rwa [hsession] at hE

/-- The requests of a sequence that succeeded are those of its parts. -/
theorem requests_bind_of_ok {m : Step σ α} {f : α → Step σ β} {a : α}
    (h : (m d s w).result = .ok a) :
    ((m >>= f) d s w).requests =
      (m d s w).requests ++ (f a d (m d s w).session (m d s w).state).requests := by
  rw [bind_of_ok h]
  exact requestsOf_append _ _

end Step

end StackWatch
