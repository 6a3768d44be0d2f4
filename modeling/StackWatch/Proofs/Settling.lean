import StackWatch.Proofs.Entries
import StackWatch.Proofs.Mirror

/-!
# A query beside an attempt

Where every login is granted, a query comes to what its first attempt comes to, or to no data where
that is a failing status. This module says so of two sessions at once: a query on the second side of
a mirror settles an attempt on the first (`perform_settles`), even where the second may deny its
first attempt. A denied attempt has entered nothing, so that the one after the login starts from
where the other side started.
-/

namespace StackWatch

/-! ## Logins that are granted -/

/-- What a header shows can be sent in one. -/
theorem isHeaderValue_of_isReadable {token : String} (h : token.toList.all isReadable = true) :
    HttpClient.isHeaderValue token = true := by
  unfold HttpClient.isHeaderValue
  rw [List.all_eq_true] at h ⊢
  intro c hc
  have hread := h c hc
  unfold isReadable at hread
  unfold HttpClient.isSendable
  simp only [Bool.or_eq_true, Bool.and_eq_true, decide_eq_true_eq, bne_iff_ne] at hread ⊢
  rcases hread with ⟨hlow, hhigh⟩ | htab
  · exact .inl ⟨hlow, by omega⟩
  · exact .inr htab

/-- A deployment that grants every login, with a token that can be read and is live. -/
def Grants {σ : Type} (catalog : Grant → Catalog) (d : Deployment σ) (live : σ → String → Prop) :
    Prop :=
  ∀ request w (grant : Grant), request.method = .post → request.body = some grant.toJson →
    ∃ token, token.toList.all isReadable = true ∧
      (∀ url, Login.ofAnswer url (d request w).1 = .ok (token, catalog grant)) ∧
      live (d request w).2 token

/-- A session that holds a login with a token that can be read and with the
catalog of its own grant. -/
structure Session.Entitled (catalog : Grant → Catalog) (s : Session) (token : String) : Prop where
  holds : s.Holds (some (token, catalog s.grant))
  readable : token.toList.all isReadable = true

/-- Sessions that may differ in their tokens and in what they remember. -/
structure Session.Alike (s s' : Session) : Prop where
  config : s'.config = s.config
  project : s'.project = s.project
  ledger : s'.ledger = s.ledger

namespace Session

variable {catalog : Grant → Catalog} {s s' s'' : Session} {token token' : String}

theorem Alike.trans (h : s.Alike s') (h' : s'.Alike s'') : s.Alike s'' :=
  ⟨h'.config.trans h.config, h'.project.trans h.project, h'.ledger.trans h.ledger⟩

theorem grant_eq (hconfig : s'.config = s.config) (hproject : s'.project = s.project) :
    s'.grant = s.grant := by
  rw [grant, grant, hconfig, hproject]

/-- What stays under a login stays entitled. -/
theorem Entitled.of_sameLogin (h : s.Entitled catalog token) (hsound : s'.Sound)
    (hsame : s.SameLogin s') : s'.Entitled catalog token where
  holds := by
    rw [grant_eq hsame.config hsame.project]
    exact h.holds.of_sameLogin hsound hsame
  readable := h.readable

/-- Sessions that are alike and entitled are aligned. -/
theorem Entitled.aligned {σ σ' : Type} {page : String → Answer} {d : Deployment σ}
    {live : σ → String → Prop} {d' : Deployment σ'} {live' : σ' → String → Prop} {mayDeny : Prop}
    (m : Mirror page d live d' live' mayDeny) (h : s.Entitled catalog token)
    (h' : s'.Entitled catalog token') (halike : s.Alike s') {w : σ} {w' : σ'}
    (hlive : live w token) (hlive' : live' w' token') : m.Aligned s w s' w' where
  sound := h.holds.sound
  sound' := h'.holds.sound
  config := halike.config
  catalog := by
    have hcatalog := h.holds.catalog
    have hcatalog' := h'.holds.catalog
    rw [grant_eq halike.config halike.project] at hcatalog'
    exact hcatalog'.trans hcatalog.symm
  ledger := halike.ledger
  token := ⟨token, h.holds.token, isHeaderValue_of_isReadable h.readable, hlive⟩
  token' := ⟨token', h'.holds.token, isHeaderValue_of_isReadable h'.readable, hlive'⟩

end Session

/-- A login of an entitled session succeeds where every login is granted, and
changes nothing else. -/
theorem Step.authorize_of_grants {σ : Type} {catalog : Grant → Catalog} {d : Deployment σ}
    {live : σ → String → Prop} (hgrants : Grants catalog d live) {s : Session} (hs : s.Sound)
    (hurl : Url.isRequestable s.config.tokenUrl = true) (w : σ) :
    ∃ token, (authorize d s w).result = .ok () ∧ s.Alike (authorize d s w).session ∧
      (authorize d s w).session.Entitled catalog token ∧ live (authorize d s w).state token := by
  obtain ⟨token, hread, hlogin, hlive⟩ := hgrants s.loginRequest w s.grant rfl rfl
  have hrun : authorize d s w =
      ⟨.ok (), s.forget.install token (catalog s.grant), (d s.loginRequest w).2,
        [.exchange .authorization s.loginRequest (d s.loginRequest w).1]⟩ := by
    rw [authorize_apply, if_pos hurl]
    dsimp only
    rw [hlogin]
  rw [hrun]
  exact ⟨token, rfl, ⟨rfl, rfl, rfl⟩,
    ⟨Session.holds_install hs hurl (token, catalog s.grant), hread⟩, hlive⟩

/-! ## One query -/

/-- What a query comes to that a page answers: data, or no data where the page is a failing status.
A new login would show the same page. -/
def settled {α : Type} : Except ApiError (Option α) → Except ApiError (Option α)
  | .ok value => .ok value
  | .error e => if e.isHttp then .ok none else .error e

section Course

variable {σ α : Type} {title : String} {first second whole : Outcome σ (Option α)}
  {login : Outcome σ Unit}

/-- A query whose first attempt is not refused settles it. -/
theorem Course.of_unrefused (h : Course title first login second whole)
    (hunrefused : ∀ e, first.result = .error e → e.isRefusal = false) :
    whole.result = settled first.result ∧ whole.session = first.session ∧
    whole.state = first.state := by
  cases h with
  | served hfirst hwhole =>
    rw [hwhole, hfirst]
    exact ⟨rfl, rfl, rfl⟩
  | failed hfirst _ hhttp hwhole =>
    rw [hwhole, hfirst]
    exact ⟨(if_pos hhttp).symm, rfl, rfl⟩
  | broken hfirst hhttp hwhole =>
    rw [hwhole, hfirst]
    exact ⟨(if_neg (Bool.eq_false_iff.1 hhttp)).symm, rfl, rfl⟩
  | locked hfirst hrefusal | again hfirst hrefusal | lost hfirst hrefusal =>
    cases hrefusal.symm.trans (hunrefused _ hfirst)

/-- A query whose first attempt is refused comes to the data of its second
attempt, if it can log in. -/
theorem Course.of_refused (h : Course title first login second whole) {e : ApiError}
    (hfirst : first.result = .error e) (hrefusal : e.isRefusal = true)
    (hlogin : login.result = .ok ()) :
    whole.result = .ok second.result.toOption.join ∧ whole.session = second.session ∧
      whole.state = second.state := by
  cases h with
  | served hfirst' => cases hfirst.symm.trans hfirst'
  | failed hfirst' hrefusal' =>
    obtain rfl := Except.error.inj (hfirst.symm.trans hfirst')
    cases hrefusal.symm.trans hrefusal'
  | broken hfirst' hhttp =>
    obtain rfl := Except.error.inj (hfirst.symm.trans hfirst')
    cases (ApiError.isHttp_of_isRefusal hrefusal).symm.trans hhttp
  | locked _ _ hlogin' => cases hlogin.symm.trans hlogin'
  | again _ _ _ hsecond hwhole =>
    rw [hwhole, hsecond]
    exact ⟨hsecond, rfl, rfl⟩
  | lost _ _ _ hsecond hwhole =>
    rw [hwhole, hsecond]
    exact ⟨rfl, rfl, rfl⟩

end Course

namespace Mirror

variable {σ σ' : Type} {page : String → Answer} {d : Deployment σ} {d' : Deployment σ'}
  {live : σ → String → Prop} {live' calm : σ' → String → Prop} {mayDeny : Prop}
  {catalog : Grant → Catalog} {shape : Shape}

/-- What an attempt leaves. -/
theorem attempt_entitled {s : Session} {token : String} (h : s.Entitled catalog token)
    (q : Query shape) {w : σ} : (q.attempt d s w).session.Entitled catalog token :=
  h.of_sameLogin (q.attempt_keeps h.holds.sound).1 (q.attempt_keeps h.holds.sound).2

/-- What a query comes to beside an attempt at it on the other side: it settles that attempt, unless
it was denied and then lost. -/
structure Settles (catalog : Grant → Catalog) (mayDeny : Prop) (live : σ' → String → Prop)
    (s : Session) (first : Outcome σ (Option shape.Value))
    (whole : Outcome σ' (Option shape.Value)) : Prop where
  result : whole.result = settled first.result ∨
    mayDeny ∧ (∃ e, first.result = .error e) ∧ whole.result = .ok none
  ledger : whole.session.ledger = first.session.ledger
  config : whole.session.config = s.config
  project : whole.session.project = s.project
  entitled : ∃ token, whole.session.Entitled catalog token ∧ live whole.state token

/-- What is aligned with the first attempt of the other side settles it. -/
theorem Settles.of_aligned {mayDeny' : Prop} {m : Mirror page d live d' live' mayDeny'}
    {first : Outcome σ (Option shape.Value)} {o whole : Outcome σ' (Option shape.Value)}
    {s : Session} {token : String}
    (haligned : m.Aligned first.session first.state o.session o.state)
    (hlive : ∀ w token, live' w token → calm w token) (hentitled : o.session.Entitled catalog token)
    (hconfig : o.session.config = s.config) (hproject : o.session.project = s.project)
    (hsession : whole.session = o.session) (hstate : whole.state = o.state)
    (hresult : whole.result = settled first.result ∨
      mayDeny ∧ (∃ e, first.result = .error e) ∧ whole.result = .ok none) :
    Settles catalog mayDeny calm s first whole where
  result := hresult
  ledger := by rw [hsession, haligned.ledger]
  config := by rw [hsession, hconfig]
  project := by rw [hsession, hproject]
  entitled := by
    obtain ⟨token', htoken', -, hlive'⟩ := haligned.token'
    obtain rfl : token' = token := Option.some.inj (htoken'.symm.trans hentitled.holds.token)
    exact ⟨token', hsession ▸ hentitled, hstate ▸ hlive _ _ hlive'⟩

/-- **A second attempt**, after a login that nobody denies, comes to what the first attempt of
the other side came to. -/
theorem retry_aligned (m : Mirror page d live d' calm False) (hgrants : Grants catalog d' calm)
    {s s' : Session} {token token' : String} {w : σ} (h : s.Entitled catalog token)
    (h' : s'.Entitled catalog token') (halike : s.Alike s') (hlive : live w token) (q : Query shape)
    (w' : σ') :
    let first := q.attempt d s w
    let login := Step.authorize d' s' w'
    let second := q.attempt d' login.session login.state
    login.result = .ok () ∧ second.result = first.result ∧
      m.Aligned first.session first.state second.session second.state ∧
      second.session.config = s.config ∧ second.session.project = s.project ∧
      ∃ token, second.session.Entitled catalog token := by
  intro first login second
  obtain ⟨token'', hresult, halike', hentitled, hcalm⟩ :=
    Step.authorize_of_grants hgrants h'.holds.sound (h'.holds.requestable rfl) w'
  have halike'' : s.Alike login.session := halike.trans halike'
  -- the two sides differ in their tokens only, and here neither is denied
  rcases m.follows_attempt q (h.aligned m hentitled halike'' hlive hcalm) with
    ⟨hsecond, haligned⟩ | ⟨hfalse, -⟩
  · have hsame := (q.attempt_keeps (d := d') (w := login.state) hentitled.holds.sound).2
    exact ⟨hresult, hsecond, haligned, hsame.config.trans halike''.config,
      hsame.project.trans halike''.project, token'', attempt_entitled hentitled q⟩
  · exact hfalse.elim

/-- **One query.** Its first attempt follows the other side under one mirror. If it is
refused, its second attempt follows the other side, from where that started, under another in
which nothing is denied. -/
theorem perform_settles (m : Mirror page d live d' live' mayDeny)
    (m' : Mirror page d live d' calm False) (hgrants : Grants catalog d' calm)
    {s s' : Session} {token token' : String} {w : σ} {w' : σ'} (h : s.Entitled catalog token)
    (h' : s'.Entitled catalog token') (halike : s.Alike s') (hlive : live w token)
    (hlive' : live' w' token') (q : Query shape) :
    Settles catalog mayDeny (fun w token => live' w token ∨ calm w token) s (q.attempt d s w)
      (q.perform d' s' w') := by
  have hfollows := m.follows_attempt q (h.aligned m h' halike hlive hlive')
  have hentitled : (q.attempt d' s' w').session.Entitled catalog token' := attempt_entitled h' q
  have hsame := (q.attempt_keeps (d := d') (w := w') h'.holds.sound).2
  have hconfig := hsame.config.trans halike.config
  have hproject := hsame.project.trans halike.project
  by_cases hrefused : ∃ e, (q.attempt d' s' w').result = .error e ∧ e.isRefusal = true
  · -- after a refusal, the second attempt is the one that follows
    obtain ⟨e, hfirst, hrefusal⟩ := hrefused
    have hledger : (q.attempt d' s' w').session.ledger = s'.ledger :=
      q.attempt_ledger_of_no_data h'.holds.sound fun _ hok => nomatch hfirst.symm.trans hok
    obtain ⟨hlogin, hsecond, haligned, hconfig, hproject, _, hentitled⟩ :=
      retry_aligned m' hgrants h
      hentitled ⟨hconfig, hproject, hledger.trans halike.ledger⟩ hlive q (q.attempt d' s' w').state
    obtain ⟨hresult, hsession, hstate⟩ := (q.course d' s' w').of_refused hfirst hrefusal hlogin
    refine .of_aligned haligned (fun _ _ => .inr) hentitled hconfig hproject hsession hstate ?_
    rw [hresult, hsecond]
    cases hown : (q.attempt d s w).result with
    | ok value => exact .inl rfl
    | error e' =>
      rcases hfollows with ⟨hequal, -⟩ | ⟨hmay, -⟩
      · -- the page itself is the refusal, so the other side settles for no data as well
        obtain rfl : e = e' := Except.error.inj ((hfirst.symm.trans hequal).trans hown)
        exact .inl (if_pos (ApiError.isHttp_of_isRefusal hrefusal)).symm
      · exact .inr ⟨hmay, ⟨_, rfl⟩, rfl⟩
  · -- without one, the first attempt is
    have hunrefused : ∀ e, (q.attempt d' s' w').result = .error e → e.isRefusal = false :=
      fun e he => Bool.eq_false_iff.2 fun hrefusal => hrefused ⟨e, he, hrefusal⟩
    rcases hfollows with ⟨hequal, haligned⟩ | ⟨-, url, hdenied⟩
    · obtain ⟨hresult, hsession, hstate⟩ := (q.course d' s' w').of_unrefused hunrefused
      exact .of_aligned haligned (fun _ _ => .inl) hentitled hconfig hproject hsession hstate
        (.inl (hresult.trans (congrArg settled hequal)))
    · cases hunrefused _ hdenied

end Mirror

end StackWatch
