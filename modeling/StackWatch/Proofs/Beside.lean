import StackWatch.Proofs.Lockstep
import StackWatch.Proofs.Steady

/-!
# Sessions that have read different URLs

Two sessions under one login may have read different URLs (`Session.Beside`): as long as they agree
on the URLs that are asked for, what is asked of either comes to the same. The deployments that they
talk to may differ as well, in the projects that an answer lists: nothing reads those but the query
for the user's projects, and that for identity's own, which has another URL, or else does not see
their order (`Relisting`).
-/

namespace StackWatch

/-! ## Answers that list other projects -/

/-- Two answers that differ in nothing but the projects that they list. -/
inductive Answer.Relisted (items items' : List Json) : Answer → Answer → Prop where
  | listed {status : Nat} {subjectToken : Option String} {body body' : Json} {elapsed : Nat}
      (hitems : body.get? "projects" = some (.arr items))
      (hitems' : body'.get? "projects" = some (.arr items'))
      (hothers : ∀ member, member ≠ "projects" → body'.get? member = body.get? member) :
      Relisted items items' (.response status subjectToken (.json body) elapsed)
        (.response status subjectToken (.json body') elapsed)

/-- Two responses that differ in nothing but the projects that they list. -/
structure Response.Relisted (items items' : List Json) (r r' : Response) : Prop where
  url : r'.url = r.url
  elapsed : r'.elapsed = r.elapsed
  items : r.body.get? "projects" = some (.arr items)
  items' : r'.body.get? "projects" = some (.arr items')
  others : ∀ member, member ≠ "projects" → r'.body.get? member = r.body.get? member

namespace Response.Relisted

variable {items items' : List Json} {r r' : Response}

theorem array_projects (h : r.Relisted items items' r') :
    r.array "projects" = .ok items ∧ r'.array "projects" = .ok items' := by
  simp only [array, field, h.items, h.items']
  exact ⟨rfl, rfl⟩

theorem field_eq (h : r.Relisted items items' r') {member : String}
    (hmember : member ≠ "projects") : r'.field member = r.field member := by
  simp only [field, h.others member hmember, h.url]

theorem array_eq (h : r.Relisted items items' r') {member : String}
    (hmember : member ≠ "projects") : r'.array member = r.array member := by
  simp only [array, h.field_eq hmember, h.url]

end Response.Relisted

theorem Answer.Relisted.receive {items items' : List Json} {answer answer' : Answer}
    (h : answer.Relisted items items' answer') (url : String) :
    Tally (Response.Relisted items items') (HttpClient.receive url answer)
      (HttpClient.receive url answer') := by
  cases h with
  | @listed status subjectToken body body' elapsed hitems hitems' hothers =>
    simp only [HttpClient.receive]
    split
    · exact .error _
    · exact .ok ⟨rfl, rfl, hitems, hitems', hothers⟩

/-- What two deployments answer that list different projects to the user: the same, but at one URL,
where identity's own projects are not read, or the same items are in another order. -/
structure Relisting (config : Config) (catalog : Catalog) (items items' : List Json)
    (answer answer' : Request → Answer) : Prop where
  get : ∀ request, request.method = .get → answer' request = answer request ∨
    request.url = Url.wire config.projectsUrl ∧
    (answer request).Relisted items items' (answer' request)
  apart : (∀ url, Listing.projects.collect url items' = Listing.projects.collect url items) ∨
    ∀ endpoint, catalog.findUrl? .identity config.interface = some endpoint →
      Url.wire ((Resource.listing .projects).url endpoint) ≠ Url.wire config.projectsUrl

/-! ## Sessions -/

namespace Session

/-- Two sessions that send the same requests, tokens apart. -/
structure Akin (s s' : Session) : Prop where
  config : s'.config = s.config
  http : s'.http = s.http
  project : s'.project = s.project

namespace Akin

variable {s s' s'' : Session}

theorem refl (s : Session) : s.Akin s := ⟨rfl, rfl, rfl⟩

theorem symm (h : s.Akin s') : s'.Akin s := ⟨h.config.symm, h.http.symm, h.project.symm⟩

theorem trans (h : s.Akin s') (h' : s'.Akin s'') : s.Akin s'' :=
  ⟨h'.config.trans h.config, h'.http.trans h.http, h'.project.trans h.project⟩

theorem of_sameLogin (h : s.SameLogin s') : s.Akin s' := ⟨h.config, h.http, h.project⟩

theorem loginRequest (h : s.Akin s') : s'.loginRequest = s.loginRequest := by
  rw [Session.loginRequest, Session.loginRequest, grant, grant, h.config, h.http, h.project]

end Akin

/-- To be granted the same again changes none of that. -/
theorem Steady.akin_relogged {answer : Request → Answer} {login : Login} {s : Session}
    (h : s.Steady answer login) : s.Akin (s.relogged login) :=
  let ⟨_, hstays⟩ := h.relogged ""
  ⟨hstays.config, hstays.http, hstays.project⟩

/-- Two sessions under one login that have read the same of the URLs that are known. -/
structure Beside (answer answer' : Request → Answer) (config : Config) (login : Login)
    (known : String → Prop) (s s' : Session) : Prop where
  akin : s.Akin s'
  configured : s.config = config
  steady : s.Steady answer login
  steady' : s'.Steady answer' login
  agree : ∀ url, known url → (url ∈ s'.ledger.urls ↔ url ∈ s.ledger.urls)

namespace Beside

variable {answer answer' : Request → Answer} {config : Config} {login : Login}
  {known : String → Prop} {s s' : Session}

theorem endpoint?_left (h : s.Beside answer answer' config login known s') (c : Component) :
    s.endpoint? c = login.2.findUrl? c config.interface := by
  rw [h.steady.endpoint?, h.configured]

theorem endpoint?_right (h : s.Beside answer answer' config login known s') (c : Component) :
    s'.endpoint? c = login.2.findUrl? c config.interface := by
  rw [h.steady'.endpoint?, h.akin.config, h.configured]

theorem contains (h : s.Beside answer answer' config login known s') {url : String}
    (hurl : known url) : s'.ledger.contains url = s.ledger.contains url := by
  rw [Bool.eq_iff_iff, Ledger.contains_iff, Ledger.contains_iff]
  exact h.agree url hurl

/-- What changes no login and no ledger may be done on both sides. -/
theorem remember (h : s.Beside answer answer' config login known s') {t t' : Session} (ht : t.Sound)
    (hsame : s.SameLogin t) (hledger : t.ledger = s.ledger) (ht' : t'.Sound)
    (hsame' : s'.SameLogin t') (hledger' : t'.ledger = s'.ledger) :
    t.Beside answer answer' config login known t' where
  akin := ((Akin.of_sameLogin hsame).symm.trans h.akin).trans (.of_sameLogin hsame')
  configured := hsame.config.trans h.configured
  steady := h.steady.of_sameLogin ht hsame
  steady' := h.steady'.of_sameLogin ht' hsame'
  agree := by
    rw [hledger, hledger']
    exact h.agree

theorem withEntry (h : s.Beside answer answer' config login known s') (url : String) :
    Session.Beside answer answer' config login known { s with ledger := s.ledger.insert url }
      { s' with ledger := s'.ledger.insert url } where
  akin := ⟨h.akin.config, h.akin.http, h.akin.project⟩
  configured := h.configured
  steady :=
    h.steady.of_sameLogin (h.steady.holds.sound.withLedger _) ((SameLogin.refl s).withLedger _)
  steady' :=
    h.steady'.of_sameLogin (h.steady'.holds.sound.withLedger _) ((SameLogin.refl s').withLedger _)
  agree url' hurl' := by
    rw [Ledger.mem_urls_insert, Ledger.mem_urls_insert]
    exact or_congr_left (h.agree url' hurl')

theorem relogged (h : s.Beside answer answer' config login known s') :
    (s.relogged login).Beside answer answer' config login known (s'.relogged login) where
  akin := (h.steady.akin_relogged.symm.trans h.akin).trans h.steady'.akin_relogged
  configured := h.configured
  steady := (h.steady.relogged "").1
  steady' := (h.steady'.relogged "").1
  agree := h.agree

end Beside

end Session

/-! ## Steps -/

theorem Listing.eq_projects_of_member {l : Listing} (h : l.member = "projects") :
    l = .projects := by
  cases l <;> first | rfl | exact absurd h (by simp [Listing.member])

theorem Resource.member_ne_projects {r : Resource} (h : ∀ l, r ≠ .listing l) :
    r.member ≠ "projects" := by
  cases r with
  | listing l => exact absurd rfl (h l)
  | _ => simp [Resource.member]

namespace Step

variable {answer answer' : Request → Answer} {config : Config} {login : Login}
  {known : String → Prop} {items items' : List Json}

/-- Two sessions that have read different URLs, each with its deployment. -/
def LedgersApart (answer answer' : Request → Answer) (config : Config) (login : Login)
    (known : String → Prop) (s : Session) (_ : Unit) (s' : Session) (_ : Unit) : Prop :=
  s.Beside answer answer' config login known s'

/-- The endpoints of the login. -/
def IsSite (config : Config) (catalog : Catalog) (c : Component) (endpoint : String) : Prop :=
  catalog.findUrl? c config.interface = some endpoint

/-- Both sides find the same endpoint, which is a site, or neither finds one. -/
theorem apart_finds {c : Component} {value : Config → String → α}
    {remembering : Session → String → Session} {m : Step Unit α}
    (hm : Finds c value remembering m) {P : α → Prop}
    (hP : ∀ {endpoint}, IsSite config login.2 c endpoint → P (value config endpoint)) :
    Locked (.stateless answer) (.stateless answer') (LedgersApart answer answer' config login known)
      (Shared P) m m := by
  intro s w s' w' hR
  rw [hm.apply hR.steady.holds.sound, hm.apply hR.steady'.holds.sound, hR.endpoint?_left,
    hR.endpoint?_right, hR.akin.config, hR.configured]
  cases hendpoint : login.2.findUrl? c config.interface with
  | none => exact ⟨.error _, hR, rfl⟩
  | some endpoint =>
    have hleft := hm.sound hR.steady.holds.sound ((hR.endpoint?_left c).trans hendpoint)
    have hright := hm.sound hR.steady'.holds.sound ((hR.endpoint?_right c).trans hendpoint)
    exact ⟨.ok ⟨rfl, hP hendpoint⟩, hR.remember hleft (hm.same s endpoint) (hm.ledger s endpoint)
      hright (hm.same s' endpoint) (hm.ledger s' endpoint), rfl⟩

/-- Both are granted the same login again. -/
theorem apart_authorize :
    Locked (.stateless answer) (.stateless answer')
      (LedgersApart answer answer' config login known) Eq
      authorize authorize := by
  intro s w s' w' hR
  rw [hR.steady.authorize, hR.steady'.authorize, hR.akin.loginRequest]
  exact ⟨.ok rfl, hR.relogged, rfl⟩

variable (h : Relisting config login.2 items items' answer answer')
include h

/-- What is got is the same, but for the projects that are listed to the user. -/
theorem apart_send (c : Component) (url : String) :
    Locked (.stateless answer) (.stateless answer') (LedgersApart answer answer' config login known)
      (fun r r' => r' = r ∨ Url.wire url = Url.wire config.projectsUrl ∧ r.Relisted items items' r')
      (send (.polling c) .get url none) (send (.polling c) .get url none) := by
  intro s w s' w' hR
  have hsame : s'.http.request? .get url none = s.http.request? .get url none := by
    rw [hR.akin.http]
  cases hrequest : s.http.request? .get url none with
  | none =>
    rw [send_of_no_request hrequest, send_of_no_request (hsame.trans hrequest)]
    exact ⟨.error _, hR, rfl⟩
  | some request =>
    obtain ⟨-, hget, hurl, -⟩ := HttpClient.token_of_request? hrequest
    rw [send_of_request hrequest, send_of_request (hsame.trans hrequest)]
    refine ⟨?_, hR, rfl⟩
    change Tally _ (HttpClient.receive url (answer request))
        (HttpClient.receive url (answer' request))
    rcases h.get request hget with heq | ⟨hsite, hrelisted⟩
    · rw [heq]
      exact (Tally.refl _).mono fun _ _ heq => .inl heq.symm
    · exact (hrelisted.receive url).mono fun _ _ hr => .inr ⟨hurl.symm.trans hsite, hr⟩

/-- Something that is read off both sides alike, whatever projects they list. -/
theorem apart_fetch (client : Client) (r : Resource) {read : Response → Except ApiError α}
    (hread : ∀ response response', response.Relisted items items' response' →
      read response' = read response) :
    Locked (.stateless answer) (.stateless answer')
      (LedgersApart answer answer' config login known) Eq
      (fetch client r read) (fetch client r read) := by
  refine (apart_send h _ _).bind fun response response' hsame => locked_ofExcept ?_
  rcases hsame with rfl | ⟨-, hrelisted⟩
  · exact .refl _
  · rw [hread _ _ hrelisted]
    exact .refl _

/-- A collection that is not the one of the projects. -/
theorem apart_fetchItems (client : Client) (r : Resource) (hr : r.member ≠ "projects") :
    Locked (.stateless answer) (.stateless answer')
      (LedgersApart answer answer' config login known) Eq
      (fetchItems client r) (fetchItems client r) :=
  apart_fetch h client r fun _ _ hrelisted => hrelisted.array_eq hr

/-- Identity's own projects come to the same collection. -/
theorem apart_projects (client : Client) (hsite : IsSite config login.2 .identity client.endpoint) :
    Locked (.stateless answer) (.stateless answer')
      (LedgersApart answer answer' config login known) Eq
      (fetchItems client (.listing .projects) >>= fun items =>
        ofExcept (Listing.projects.collect
          ((Resource.listing .projects).url client.endpoint) items))
      (fetchItems client (.listing .projects) >>= fun items =>
        ofExcept (Listing.projects.collect ((Resource.listing .projects).url client.endpoint)
          items)) := by
  have hitems : Locked (.stateless answer) (.stateless answer')
      (LedgersApart answer answer' config login known)
      (fun list list' => ∀ url, Listing.projects.collect url list' =
        Listing.projects.collect url list)
      (fetchItems client (.listing .projects)) (fetchItems client (.listing .projects)) := by
    refine (apart_send h _ _).bind fun response response' hsame => locked_ofExcept ?_
    rcases hsame with rfl | ⟨hurl, hrelisted⟩
    · exact (Tally.refl _).mono fun _ _ heq _ => by rw [heq]
    · obtain ⟨harray, harray'⟩ := hrelisted.array_projects
      change Tally _ (response.array "projects") (response'.array "projects")
      rw [harray, harray']
      rcases h.apart with hsame | hapart
      · exact .ok hsame
      · exact absurd hurl (hapart _ hsite)
  exact hitems.bind fun list list' hsame => locked_ofExcept (by rw [hsame]; exact .refl _)

/-- **Sessions that have read different URLs** go in lockstep where they agree. -/
theorem lockstep_apart :
    Lockstep (.stateless answer) (.stateless answer')
      (LedgersApart answer answer' config login known) (IsSite config login.2) known where
  endpointOf c := apart_finds (finds_endpointOf c) id
  clientOf c := apart_finds (finds_clientOf c) id
  wasRead hurl _ _ _ _ hR := ⟨.ok (hR.contains hurl).symm, hR, rfl⟩
  enter _ _ _ _ _ hR := ⟨.ok rfl, hR.withEntry _, rfl⟩
  authorize := apart_authorize
  timing c url _ := (apart_send h c url).mono fun r r' hr => by
    rcases hr with rfl | ⟨-, hrelisted⟩
    · rfl
    · exact hrelisted.elapsed
  collected client l hsite := by
    by_cases hl : l.member = "projects"
    · obtain rfl := Listing.eq_projects_of_member hl
      exact apart_projects h client hsite
    · exact (apart_fetchItems h client (.listing l) hl).bind_same fun _ => locked_ofExcept (.refl _)
  items client r hr _ := apart_fetchItems h client r (Resource.member_ne_projects hr)
  object client r hr _ := apart_fetch h client r fun _ _ hrelisted =>
    hrelisted.field_eq (Resource.member_ne_projects hr)

end Step

end StackWatch
