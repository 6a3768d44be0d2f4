import StackWatch.Proofs.Settling

/-!
# Tokens that expire

A `Site` is a deployment that shows a page for every URL to whoever has a live token, denies every
other token, and grants every login with a token that is live and with the catalog of its grant. An
`Adversary` may revoke the tokens of a site before any request, except from the login that a query
makes for itself to the end of that query: then there is a truce.

Under such an adversary a session learns what it would learn if no token were ever revoked, question
by question, as long as the catalog that it has is the one that a login would bring. After its
project was set, that may be another catalog, to which the session goes over as soon as its token is
revoked. Outside a truce the besieged site is the second side of a mirror that may deny (`storm`),
in a truce of one that may not (`lull`). So a query in either run settles what the quiet run saw at
its first attempt, and the two results differ at most where an error has turned into no data.
-/

namespace StackWatch

/-! ## Sites and adversaries -/

/-- A deployment whose answers depend on the URL alone, as long as the token
that is shown is live. -/
structure Site (σ : Type) where
  deployment : Deployment σ
  /-- what a live token is shown -/
  page : String → Answer
  /-- what a login of a user, for a scope, may reach -/
  catalog : Grant → Catalog
  /-- the tokens that are live -/
  live : σ → String → Prop
  /-- what becomes of the site when somebody revokes its tokens, of which nothing is assumed -/
  revoke : σ → σ
  shows : ∀ {request w token}, request.method = .get → request.token = some token → live w token →
    (deployment request w).1 = page request.url ∧ live (deployment request w).2 token
  denies : ∀ {request w token}, request.method = .get →
    request.token = some token → ¬ live w token →
    (deployment request w).1.IsDenied
  grants : ∀ {request w} {grant : Grant}, request.method = .post →
    request.body = some grant.toJson → ∃ token, token.toList.all isReadable = true ∧
      (∀ url, Login.ofAnswer url (deployment request w).1 = .ok (token, catalog grant)) ∧
      live (deployment request w).2 token

/-- Whoever decides, before each request, whether the tokens of a site are revoked. -/
structure Adversary (σ τ : Type) where
  strike : Request → σ → τ → Bool × τ

/-- The state of a site under an adversary. -/
structure Siege (σ τ : Type) where
  site : σ
  mind : τ
  /-- nothing is revoked until the end of the query -/
  truce : Bool

/-- The siege when the next query begins. -/
def Siege.resume {σ τ : Type} (w : Siege σ τ) : Siege σ τ := { w with truce := false }

/-- The site when it comes to answer a request: the adversary may strike first. -/
def Site.struck {σ τ : Type} (site : Site σ) (adversary : Adversary σ τ) (request : Request)
    (w : Siege σ τ) : σ :=
  if (adversary.strike request w.site w.mind).1 && !w.truce then site.revoke w.site else w.site

/-- The site under an adversary. A login begins a truce. -/
def Site.besieged {σ τ : Type} (site : Site σ) (adversary : Adversary σ τ) :
    Deployment (Siege σ τ) :=
  fun request w =>
    let (answer, state) := site.deployment request (site.struck adversary request w)
    let mind := (adversary.strike request w.site w.mind).2
    (answer, ⟨state, mind, w.truce || request.method == .post⟩)

/-- A query, with the kind of data that comes back. -/
abbrev Question := (shape : Shape) × Query shape

/-- The session and the state of the deployment after some questions. Whatever happens between two
of them happens to the state. -/
def survey {σ : Type} (d : Deployment σ) (between : σ → σ) :
    List Question → Session → σ → Session × σ
  | [], s, w => (s, w)
  | ⟨_, q⟩ :: rest, s, w =>
    let o := q.perform d s w
    survey d between rest o.session (between o.state)

/-- A session that has logged in at a site and has the catalog of its own grant, the one that a
login would bring now. This leaves out the sessions whose project was set since their last login,
unless that project is granted the catalog that they have. -/
structure Site.Authorized {σ : Type} (site : Site σ) (s : Session) (w : σ) : Prop where
  reachable : s.Reachable
  auth : s.auth = .authenticated
  token : ∀ token, s.http.token = some token →
    token.toList.all isReadable = true ∧ site.live w token
  catalog : s.resolver.catalog = site.catalog s.grant

/-- What may become of a result: data stays the same data, and an error may turn into no data. -/
def Unharmed {α : Type} (result result' : Except ApiError (Option α)) : Prop :=
  match result with
  | .ok value => result' = .ok value
  | .error e => result' = .error e ∨ result' = .ok none

/-! ## A site, quiet and besieged -/

namespace Site

variable {σ τ : Type} (site : Site σ) (adversary : Adversary σ τ)

/-- A quiet site is its own mirror. -/
theorem quiet : Mirror site.page site.deployment site.live site.deployment site.live False where
  shows := site.shows
  shows' hget htoken hlive :=
    ⟨(site.shows hget htoken hlive).2, .inl (site.shows hget htoken hlive).1⟩

theorem grants_quiet : Grants site.catalog site.deployment site.live :=
  fun _ _ _ => site.grants

theorem struck_of_truce (request : Request) {w : Siege σ τ} (h : w.truce = true) :
    site.struck adversary request w = w.site := by
  unfold struck
  simp [h]

/-- Outside a truce the besieged site shows the pages or denies the token. -/
theorem storm : Mirror site.page site.deployment site.live (site.besieged adversary)
    (fun w _ => w.truce = false) True where
  shows := site.shows
  shows' {request w token} hget htoken htruce := by
    -- the adversary may have struck or not: all that counts is whether the token is live by then
    have hcases : (site.deployment request (site.struck adversary request w)).1 =
          site.page request.url ∨
        True ∧ (site.deployment request (site.struck adversary request w)).1.IsDenied := by
      by_cases hlive : site.live (site.struck adversary request w) token
      · exact .inl (site.shows hget htoken hlive).1
      · exact .inr ⟨trivial, site.denies hget htoken hlive⟩
    refine ⟨?_, hcases⟩
    change (w.truce || request.method == .post) = false
    rw [htruce, hget]
    rfl

/-- In a truce it shows the pages to a token that is live. -/
theorem lull : Mirror site.page site.deployment site.live (site.besieged adversary)
    (fun w token => w.truce = true ∧ site.live w.site token) False where
  shows := site.shows
  shows' {request w token} hget htoken hlive := by
    obtain ⟨htruce, hlive⟩ := hlive
    rw [← site.struck_of_truce adversary request htruce] at hlive
    obtain ⟨hpage, hkept⟩ := site.shows hget htoken hlive
    have htruce' : (w.truce || request.method == .post) = true := by rw [htruce, Bool.true_or]
    exact ⟨⟨htruce', hkept⟩, .inl hpage⟩

/-- Every login begins a truce, with a token that is live. -/
theorem grants_lull : Grants site.catalog (site.besieged adversary)
    (fun w token => w.truce = true ∧ site.live w.site token) := by
  intro request w grant hpost hbody
  obtain ⟨token, hread, hlogin, hlive⟩ :=
    site.grants (w := site.struck adversary request w) hpost hbody
  have htruce : (w.truce || request.method == .post) = true := by
    rw [hpost]
    exact Bool.or_true _
  exact ⟨token, hread, hlogin, htruce, hlive⟩

/-! ## Every query -/

/-- Between two runs that settle one result, an error may have turned into no data. -/
theorem unharmed_of_settled {α : Type} {first result result' : Except ApiError (Option α)}
    {mayDeny : Prop} (hresult : result = settled first)
    (hresult' : result' = settled first ∨ mayDeny ∧ (∃ e, first = .error e) ∧ result' = .ok none) :
    Unharmed result result' := by
  rw [hresult]
  cases first with
  | ok value =>
    rcases hresult' with hsettled | ⟨-, ⟨e, he⟩, -⟩
    · exact hsettled
    · cases he
  | error e =>
    by_cases hhttp : e.isHttp = true
    · have hsettled : settled (.error e : Except ApiError (Option α)) = .ok none := if_pos hhttp
      rw [hsettled] at hresult' ⊢
      rcases hresult' with hnone | ⟨-, -, hlost⟩
      · exact hnone
      · exact hlost
    · have hsettled : settled (.error e : Except ApiError (Option α)) = .error e := if_neg hhttp
      rw [hsettled] at hresult' ⊢
      exact hresult'.imp_right fun hlost => hlost.2.2

/-- The sessions of a quiet run and of another between two queries. In the quiet
run the token is live. -/
structure Abreast (s : Session) (w : σ) (s' : Session) : Prop where
  entitled : ∃ token, s.Entitled site.catalog token ∧ site.live w token
  entitled' : ∃ token, s'.Entitled site.catalog token
  alike : s.Alike s'

variable {site} {s s' : Session} {w : σ} {w' : Siege σ τ}

/-- An authorized session is abreast of itself. -/
theorem Authorized.abreast (h : site.Authorized s w) : site.Abreast s w s := by
  obtain ⟨held, hheld⟩ := h.reachable.holds
  obtain ⟨login, rfl⟩ := Option.isSome_iff_exists.1 (hheld.auth.1 h.auth)
  obtain ⟨hread, hlive⟩ := h.token login.1 hheld.token
  have hcatalog : login.2 = site.catalog s.grant := hheld.catalog.symm.trans h.catalog
  have hentitled : s.Entitled site.catalog login.1 := ⟨hcatalog ▸ hheld, hread⟩
  exact ⟨⟨login.1, hentitled, hlive⟩, ⟨login.1, hentitled⟩, ⟨rfl, rfl, rfl⟩⟩

/-- **One query in two runs.** -/
theorem Abreast.perform (h : site.Abreast s w s') (htruce : w'.truce = false) {shape : Shape}
    (q : Query shape) :
    let o := q.perform site.deployment s w
    let o' := q.perform (site.besieged adversary) s' w'
    Unharmed o.result o'.result ∧ site.Abreast o.session o.state o'.session := by
  intro o o'
  obtain ⟨token, hentitled, hlive⟩ := h.entitled
  obtain ⟨token', hentitled'⟩ := h.entitled'
  -- both runs settle the same attempt, the first one of the quiet run
  have hquiet : Mirror.Settles _ _ _ s (q.attempt site.deployment s w) o :=
    Mirror.perform_settles site.quiet site.quiet site.grants_quiet hentitled
      hentitled ⟨rfl, rfl, rfl⟩
      hlive hlive q
  have hstormy : Mirror.Settles _ _ _ s (q.attempt site.deployment s w) o' :=
    Mirror.perform_settles (site.storm adversary) (site.lull adversary) (site.grants_lull adversary)
      hentitled hentitled' h.alike hlive htruce q
  have hresult : o.result = settled (q.attempt site.deployment s w).result :=
    hquiet.result.resolve_right fun hlost => hlost.1
  refine ⟨unharmed_of_settled hresult hstormy.result, ?_, ?_, ?_, ?_, ?_⟩
  · obtain ⟨token, hentitled, hlive⟩ := hquiet.entitled
    exact ⟨token, hentitled, hlive.elim id id⟩
  · obtain ⟨token, hentitled, -⟩ := hstormy.entitled
    exact ⟨token, hentitled⟩
  · rw [hquiet.config, hstormy.config]
  · rw [hquiet.project, hstormy.project]
  · rw [hquiet.ledger, hstormy.ledger]

/-- **Several queries**, by induction on them. -/
theorem Abreast.survey (h : site.Abreast s w s') (htruce : w'.truce = false)
    (questions : List Question) :
    let quiet := survey site.deployment id questions s w
    let stormy := survey (site.besieged adversary) Siege.resume questions s' w'
    site.Abreast quiet.1 quiet.2 stormy.1 ∧ stormy.2.truce = false := by
  induction questions generalizing s s' w w' with
  | nil => exact ⟨h, htruce⟩
  | cons question rest ih =>
    obtain ⟨-, hafter⟩ := h.perform adversary htruce question.2
    exact ih hafter rfl

/-- A login at a site, if it can be asked for, makes a session an authorized one. -/
theorem authorized_of_authorize (site : Site σ) (hs : s.Reachable)
    (hurl : Url.isRequestable s.config.tokenUrl = true) (w : σ) :
    let o := Operation.authorize.perform site.deployment s w
    site.Authorized o.session o.state := by
  obtain ⟨held, hheld⟩ := hs.holds
  obtain ⟨token, -, -, hentitled, hlive⟩ :=
    Step.authorize_of_grants site.grants_quiet hheld.sound hurl w
  intro o
  have hreachable : o.session.Reachable := .perform hs .authorize site.deployment w
  have ho : o = _ := Step.bind_pure_apply Step.authorize fun _ => Reply.done
  rw [ho] at hreachable ⊢
  refine ⟨hreachable, hentitled.holds.auth.2 rfl, fun token' htoken' => ?_, hentitled.holds.catalog⟩
  obtain rfl : token = token' := Option.some.inj (hentitled.holds.token.symm.trans htoken')
  exact ⟨hentitled.readable, hlive⟩

/-- **Expiry is invisible.** Of an authorized session at a site, any questions and one more: the run
under an adversary answers it as the quiet run does, but that an error may have turned into no data,
and leaves the same ledger. -/
theorem unharmed (site : Site σ) (adversary : Adversary σ τ) {s : Session} {w : σ}
    (h : site.Authorized s w) (mind : τ) (questions : List Question) {shape : Shape}
    (q : Query shape) :
    let quiet := StackWatch.survey site.deployment id questions s w
    let stormy :=
      StackWatch.survey (site.besieged adversary) Siege.resume questions s ⟨w, mind, false⟩
    let o := q.perform site.deployment quiet.1 quiet.2
    let o' := q.perform (site.besieged adversary) stormy.1 stormy.2
    Unharmed o.result o'.result ∧ o'.session.ledger = o.session.ledger := by
  intro quiet stormy o o'
  obtain ⟨habreast, htruce⟩ : site.Abreast quiet.1 quiet.2 stormy.1 ∧ stormy.2.truce = false :=
    h.abreast.survey adversary rfl questions
  obtain ⟨hresult, hafter⟩ := habreast.perform adversary htruce q
  exact ⟨hresult, hafter.alike.ledger⟩

/-! ### Small sites -/

/-- The scope that the body of a login asks for. -/
def scopeOf (body : Option Json) : Scope :=
  let scope := (body.bind (·.get? "auth")).bind (·.get? "scope")
  .ofProject (((scope.bind (·.get? "project")).bind (·.get? "id")).bind Json.str?)

theorem scopeOf_toJson (grant : Grant) : scopeOf (some grant.toJson) = grant.scope := by
  obtain ⟨username, password, domainId, scope⟩ := grant
  cases scope <;> rfl

/-- The token of a login, by its number. -/
def sampleToken (n : Nat) : String := String.ofList (List.replicate n 't')

/-- A server with a flavor, and the flavor. -/
def samplePage (url : String) : Answer :=
  .response 200 none
    (.json (.obj (if url = "http://nova/servers/detail?project_id=p" then
      [("servers", .arr [.obj [("id", .str "s"), ("flavor", .obj [("id", .str "f")])]])]
    else [("flavor", .obj [("name", .str "small")])]))) 0

/-- A catalog with or without compute. -/
def sampleCatalog (served : Bool) : Catalog := if served then .sample else .empty

/-- A site that serves compute to some scopes. It counts its logins, and the token of the last one
is live until it is revoked. -/
def serving (serves : Scope → Bool) : Site (Nat × Bool) where
  deployment request w :=
    match request.method with
    | .post =>
      (.response 201 (some (sampleToken (w.1 + 1))) (.json (.obj [("token",
        .obj [("catalog", (sampleCatalog (serves (scopeOf request.body))).toJson)])])) 0,
        (w.1 + 1, true))
    | .get =>
      if w.2 = true ∧ request.token = some (sampleToken w.1) then (samplePage request.url, w)
      else (.response 401 none (.json .null) 0, w)
  page := samplePage
  catalog grant := sampleCatalog (serves grant.scope)
  live w token := w.2 = true ∧ token = sampleToken w.1
  revoke w := (w.1, false)
  shows := by
    rintro request w token hget htoken ⟨hlive, rfl⟩
    simp [hget, htoken, hlive]
  denies := by
    intro request w token hget htoken hdead
    have hnot : ¬ (w.2 = true ∧ request.token = some (sampleToken w.1)) := by
      rintro ⟨hlive, hshown⟩
      exact hdead ⟨hlive, Option.some.inj (htoken.symm.trans hshown)⟩
    simp only [hget, if_neg hnot]
    exact ⟨_, _, _, rfl⟩
  grants := by
    intro request w grant hpost hbody
    simp only [hpost, hbody, scopeOf_toJson]
    refine ⟨sampleToken (w.1 + 1), ?_, fun url => ?_, trivial, rfl⟩
    · simp [sampleToken, isReadable]
    · cases serves grant.scope <;> rfl

/-- Whoever strikes between the servers and the flavor does no harm: both are asked for again. -/
theorem servers_unharmed :
    let site := serving fun _ => true
    let login := Operation.authorize.perform site.deployment .sample (0, false)
    let adversary : Adversary (Nat × Bool) Nat := ⟨fun _ _ n => (n == 1, n + 1)⟩
    let o := (Query.servers "p").perform site.deployment login.session login.state
    let o' := (Query.servers "p").perform (site.besieged adversary) login.session
      ⟨login.state, 0, false⟩
    Unharmed o.result o'.result ∧ o'.session.ledger = o.session.ledger ∧
      o'.requests.map (·.method) = [.get, .get, .post, .get, .get] ∧
      o'.session.ledger.urls = ["http://nova/servers/detail?project_id=p"] := by
  intro site login adversary o o'
  have hauthorized : site.Authorized login.session login.state :=
    authorized_of_authorize site (.new Session.new_sample) (by decide +kernel) (0, false)
  obtain ⟨hresult, hledger⟩ := unharmed site adversary hauthorized 0 [] (.servers "p")
  refine ⟨hresult, hledger, ?_, ?_⟩
  · decide +kernel
  · decide +kernel

/-- A session without a project logs in at a site that serves compute to nobody else, and
then a project is set. It has its servers from its first catalog as long as its token is
live, and none of them, without any sign of failure, once the token is revoked: the login
after that is for the project. -/
theorem servers_lost_after_setProject :
    let site := serving fun scope => scope = .unscoped
    let login := Operation.authorize.perform site.deployment .sample (0, false)
    let s := (Operation.setProject (some "p")).perform site.deployment login.session login.state
    let adversary : Adversary (Nat × Bool) Unit := ⟨fun _ _ _ => (true, ())⟩
    let o := (Query.servers "p").perform site.deployment s.session s.state
    let o' := (Query.servers "p").perform (site.besieged adversary) s.session ⟨s.state, (), false⟩
    s.session.Reachable ∧ s.session.auth = .authenticated ∧
      (∀ token, s.session.http.token = some token →
        token.toList.all isReadable = true ∧ site.live s.state token) ∧
      ¬ Unharmed o.result o'.result ∧
      o.session.ledger.urls = ["http://nova/servers/detail?project_id=p"] ∧
      o'.session.ledger.urls = [] := by
  intro site login s adversary o o'
  refine ⟨.perform (.perform (.new Session.new_sample) .authorize _ _) _ _ _, ?_, ?_, ?_, ?_, ?_⟩
  · decide +kernel
  · intro token htoken
    have hheld : s.session.http.token = some (sampleToken 1) := by decide +kernel
    obtain rfl : sampleToken 1 = token := Option.some.inj (hheld.symm.trans htoken)
    have hlogins : s.state = (1, true) := by decide +kernel
    rw [hlogins]
    exact ⟨by decide, rfl, rfl⟩
  · intro hunharmed
    have hfound : o.result.toOption.join.isSome = true := by decide +kernel
    have hlost : o'.result.toOption.join.isSome = false := by decide +kernel
    unfold Unharmed at hunharmed
    split at hunharmed
    · next hvalue =>
      rw [hvalue] at hfound
      rw [hunharmed] at hlost
      exact Bool.false_ne_true (hlost.symm.trans hfound)
    · next hfault =>
      rw [hfault] at hfound
      cases hfound
  · decide +kernel
  · decide +kernel

end Site

end StackWatch
