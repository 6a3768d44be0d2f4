import Mathlib.Data.List.Find
import StackWatch.Proofs.Coherence

/-!
# The policy of new logins

An attempt that is refused is made once more under a new login, and nothing else makes a query log
in. `Policy` says which requests a query sends and what becomes of it, given what its two attempts
and the login between them come to by themselves. Every query keeps to it, in every session that a
run can reach. A refused attempt is always followed by a request for a token: whoever was refused
had a keystone URL under which to ask (`requestable_of_refused`).
-/

namespace StackWatch

/-! ## Where a login can be asked for -/

namespace Url

/-- Which scheme a URL has is settled before its ninth character. -/
theorem scheme?_append {cs : List Char} (h : ∀ scheme ∈ schemes, scheme.length ≤ cs.length)
    (more : List Char) : scheme? (cs ++ more) = scheme? cs := by
  have hstarts : ∀ scheme ∈ schemes, scheme.isPrefixOf ((cs ++ more).map Char.toLower) =
      scheme.isPrefixOf (cs.map Char.toLower) := by
    intro scheme hscheme
    have hlength : scheme.length ≤ (cs.map Char.toLower).length := by
      rw [List.length_map]
      exact h scheme hscheme
    rw [List.map_append, Bool.eq_iff_iff, List.isPrefixOf_iff_prefix, List.isPrefixOf_iff_prefix]
    constructor
    · intro hlong
      exact List.prefix_of_prefix_length_le hlong (List.prefix_append _ _) hlength
    · intro hshort
      exact hshort.trans (List.prefix_append _ _)
  exact List.find?_congr hstarts

theorem afterScheme?_append {cs : List Char} (h : ∀ scheme ∈ schemes, scheme.length ≤ cs.length)
    (more : List Char) : afterScheme? (cs ++ more) = (afterScheme? cs).map (· ++ more) := by
  rw [afterScheme?, afterScheme?, scheme?_append h]
  cases hscheme : scheme? cs with
  | none => rfl
  | some scheme =>
    have hlength := h scheme (List.mem_of_find?_eq_some hscheme)
    exact congrArg some (List.drop_append_of_le_length hlength)

/-- Whether a URL names a host is settled by the character after its scheme. -/
theorem isRequestable_append {base : String}
    (h : ∀ scheme ∈ schemes, scheme.length < base.toList.length) (more more' : String) :
    isRequestable (base ++ more) = isRequestable (base ++ more') := by
  have hle : ∀ scheme ∈ schemes, scheme.length ≤ base.toList.length :=
    fun scheme hscheme => Nat.le_of_lt (h scheme hscheme)
  rw [isRequestable, isRequestable, String.toList_append, String.toList_append,
    afterScheme?_append hle, afterScheme?_append hle, afterScheme?]
  cases hscheme : scheme? base.toList with
  | none => rfl
  | some scheme =>
    have hlength := h scheme (List.mem_of_find?_eq_some hscheme)
    obtain ⟨c, rest, hdrop⟩ : ∃ c rest, base.toList.drop scheme.length = c :: rest :=
      List.exists_cons_of_length_pos (by rw [List.length_drop]; omega)
    rw [Option.map_some, hdrop]
    rfl

end Url

/-- Keystone lists projects wherever it issues tokens. -/
theorem Config.requestable_of_projectsUrl {c : Config}
    (h : Url.isRequestable c.projectsUrl = true) : Url.isRequestable c.tokenUrl = true := by
  have htoken : c.tokenUrl = c.keystoneUrl ++ "/v3/auth/" ++ "tokens" := by
    rw [String.append_assoc]
    rfl
  have hprojects : c.projectsUrl = c.keystoneUrl ++ "/v3/auth/" ++ "projects" := by
    rw [String.append_assoc]
    rfl
  rw [htoken, Url.isRequestable_append _ "tokens" "projects", ← hprojects]
  · exact h
  · intro scheme hscheme
    have hshort : scheme.length < "/v3/auth/".toList.length := by
      revert scheme
      decide
    rw [String.toList_append, List.length_append]
    omega

/-! ## Refusals -/

/-- Whether a result is a refusal, by status 401 or 403. -/
def IsRefused {α : Type} (result : Except ApiError α) : Prop :=
  ∃ status url, result = .error (.http status url) ∧ (status = 401 ∨ status = 403)

namespace ApiError

theorem isRefusal_iff {e : ApiError} :
    e.isRefusal = true ↔ ∃ status url, e = .http status url ∧ (status = 401 ∨ status = 403) := by
  cases e with
  | http status url => simp [isRefusal]
  | _ => simp [isRefusal]

theorem isHttp_iff {e : ApiError} : e.isHttp = true ↔ ∃ status url, e = .http status url := by
  cases e <;> simp [isHttp]

end ApiError

namespace Step

variable {σ α : Type} {d : Deployment σ} {s s' : Session} {w : σ} {held : Option Login}

/-- A login that can be asked for sends one request. -/
theorem authorize_requests (h : Url.isRequestable s.config.tokenUrl = true) :
    (authorize d s w).requests = [s.loginRequest] := by
  rw [Outcome.requests, authorize_trace, if_pos h]
  rfl

/-- The failing status of a login is one of keystone's answer to it. -/
theorem url_of_authorize_http {status : Nat} {url : String}
    (h : (authorize d s w).result = .error (.http status url)) : url = s.config.tokenUrl := by
  rw [authorize_apply] at h
  split at h
  · dsimp only at h
    split at h
    · rename_i e hanswer
      obtain rfl := Except.error.inj h
      unfold Login.ofAnswer HttpClient.receive credentials at hanswer
      grind
    · cases h
  · cases h

/-- Whoever was refused has a keystone under which a token can be asked for. -/
theorem requestable_of_refused (h : s.Holds held) {shape : Shape} (q : Query shape)
    (hrefused : IsRefused (q.attempt d s w).result) :
    Url.isRequestable s.config.tokenUrl = true := by
  obtain ⟨status, url, hresult, -⟩ := hrefused
  cases hq : q.component? with
  | none =>
    cases q <;> try cases hq
    apply Config.requestable_of_projectsUrl
    -- otherwise nothing is sent, and the failure is one of transport
    rcases Bool.eq_false_or_eq_true (Url.isRequestable s.config.projectsUrl) with hurl | hurl
    · exact hurl
    · have hrequest : s.http.request? .get s.config.projectsUrl none = none := by
        exact HttpClient.request?_of_not_requestable (Bool.eq_false_iff.1 hurl) .get none
      change (authProjects d s w).result = _ at hresult
      rw [authProjects, bind_quiet (m := get) rfl,
        bind_failed (send_of_no_request hrequest)] at hresult
      cases hresult
  | some c =>
    cases attempted (d := d) (w := w) h.sound q hq with
    | absent _ _ houtcome =>
      rw [houtcome] at hresult
      cases hresult
    | present _ hendpoint _ =>
      obtain ⟨token, catalog, rfl, -⟩ := h.endpoint?_eq_some hendpoint
      exact h.requestable rfl

end Step

theorem Session.SameLogin.loginRequest {s s' : Session} (h : s.SameLogin s') :
    s'.loginRequest = s.loginRequest := by
  rw [Session.loginRequest, Session.loginRequest, Session.grant, Session.grant, h.config, h.http,
    h.project]

/-! ## The policy -/

/-- The result that the policy makes of those of two attempts and of the login between them. -/
def policyResult {α : Type} (first : Except ApiError (Option α)) (login : Except ApiError Unit)
    (second : Except ApiError (Option α)) : Except ApiError (Option α) :=
  match first with
  | .ok value => .ok value
  | .error (.http status _) =>
    if status = 401 ∨ status = 403 then
      match login, second with
      | .error e, _ => .error e
      | .ok (), .ok value => .ok value
      | .ok (), .error _ => .ok none
    else .ok none
  | .error e => .error e

/-- The requests that the policy makes of two attempts, with that of a login between them: the first
attempt, the login after a refusal, and the second attempt after a login that succeeded. -/
def policyRequests {σ α : Type} (first : Outcome σ (Option α)) (request : Request)
    (login : Except ApiError Unit) (second : Outcome σ (Option α)) : List Request :=
  match first.result with
  | .error (.http status _) =>
    if status = 401 ∨ status = 403 then
      match login with
      | .error _ => first.requests ++ [request]
      | .ok () => first.requests ++ request :: second.requests
    else first.requests
  | _ => first.requests

/-- A query that keeps to the policy. -/
structure Policy {σ α : Type} (s : Session) (first : Outcome σ (Option α)) (login : Outcome σ Unit)
    (second whole : Outcome σ (Option α)) : Prop where
  /-- no attempt logs in by itself -/
  first_gets : ∀ request ∈ first.requests, request.method = .get
  second_gets : ∀ request ∈ second.requests, request.method = .get
  requests : whole.requests = policyRequests first s.loginRequest login.result second
  result : whole.result = policyResult first.result login.result second.result
  /-- a failing status that comes out is one of keystone's answer to the login -/
  http : ∀ status url, whole.result = .error (.http status url) → url = s.config.tokenUrl

namespace Course

variable {σ α : Type} {title : String} {first second whole : Outcome σ (Option α)}
  {login : Outcome σ Unit}

/-- The result of a course is the one that the policy makes of its parts. -/
theorem result_eq (h : Course title first login second whole) :
    whole.result = policyResult first.result login.result second.result := by
  cases h with
  | served hfirst hwhole => rw [hwhole, hfirst]; rfl
  | failed hfirst hrefusal hhttp hwhole =>
    obtain ⟨status, url, rfl⟩ := ApiError.isHttp_iff.1 hhttp
    have hstatus : ¬ (status = 401 ∨ status = 403) := fun hstatus =>
      Bool.eq_false_iff.1 hrefusal (ApiError.isRefusal_iff.2 ⟨status, url, rfl, hstatus⟩)
    rw [hwhole, hfirst]
    exact (if_neg hstatus).symm
  | @broken e hfirst hhttp hwhole =>
    rw [hwhole, hfirst]
    cases e with
    | http status url => cases hhttp
    | _ => rfl
  | locked hfirst hrefusal hlogin hwhole =>
    obtain ⟨status, url, rfl, hstatus⟩ := ApiError.isRefusal_iff.1 hrefusal
    rw [hwhole, hfirst, hlogin]
    exact (if_pos hstatus).symm
  | again hfirst hrefusal hlogin hsecond hwhole =>
    obtain ⟨status, url, rfl, hstatus⟩ := ApiError.isRefusal_iff.1 hrefusal
    rw [hwhole, hfirst, hlogin, hsecond]
    exact hsecond.trans (if_pos hstatus).symm
  | lost hfirst hrefusal hlogin hsecond hwhole =>
    obtain ⟨status, url, rfl, hstatus⟩ := ApiError.isRefusal_iff.1 hrefusal
    rw [hwhole, hfirst, hlogin, hsecond]
    exact (if_pos hstatus).symm

/-- So are its requests, if a login after a refusal sends one. -/
theorem requests_eq (h : Course title first login second whole) {request : Request}
    (hone : IsRefused first.result → login.requests = [request]) :
    whole.requests = policyRequests first request login.result second := by
  unfold policyRequests
  cases h with
  | served hfirst hwhole => rw [hwhole, hfirst]
  | failed hfirst hrefusal hhttp hwhole =>
    obtain ⟨status, url, rfl⟩ := ApiError.isHttp_iff.1 hhttp
    have hstatus : ¬ (status = 401 ∨ status = 403) := fun hstatus =>
      Bool.eq_false_iff.1 hrefusal (ApiError.isRefusal_iff.2 ⟨status, url, rfl, hstatus⟩)
    simp only [hwhole, hfirst, if_neg hstatus, Outcome.requests, requestsOf_append,
      requestsOf_notice, List.append_nil]
  | @broken e hfirst hhttp hwhole =>
    rw [hwhole, hfirst]
    cases e with
    | http status url => cases hhttp
    | _ => rfl
  | locked hfirst hrefusal hlogin hwhole =>
    obtain ⟨status, url, rfl, hstatus⟩ := ApiError.isRefusal_iff.1 hrefusal
    have hlogged : requestsOf login.trace = [request] := hone ⟨status, url, hfirst, hstatus⟩
    simp only [hwhole, hfirst, hlogin, if_pos hstatus, Outcome.requests, requestsOf_append, hlogged]
  | again hfirst hrefusal hlogin hsecond hwhole =>
    obtain ⟨status, url, rfl, hstatus⟩ := ApiError.isRefusal_iff.1 hrefusal
    have hlogged : requestsOf login.trace = [request] := hone ⟨status, url, hfirst, hstatus⟩
    simp only [hwhole, hfirst, hlogin, if_pos hstatus, Outcome.requests_after, requestsOf_append,
      hlogged, List.append_assoc]
    rfl
  | lost hfirst hrefusal hlogin hsecond hwhole =>
    obtain ⟨status, url, rfl, hstatus⟩ := ApiError.isRefusal_iff.1 hrefusal
    have hlogged : requestsOf login.trace = [request] := hone ⟨status, url, hfirst, hstatus⟩
    simp only [hwhole, hfirst, hlogin, if_pos hstatus, Outcome.requests, requestsOf_append, hlogged,
      requestsOf_notice, List.append_nil, List.append_assoc, List.singleton_append]

/-- Only a login lets a failing status out. -/
theorem login_of_http (h : Course title first login second whole) {status : Nat} {url : String}
    (hresult : whole.result = .error (.http status url)) :
    login.result = .error (.http status url) := by
  cases h with
  | served hfirst hwhole =>
    rw [hwhole, hfirst] at hresult
    cases hresult
  | failed _ _ _ hwhole | lost _ _ _ _ hwhole =>
    rw [hwhole] at hresult
    cases hresult
  | broken hfirst hhttp hwhole =>
    rw [hwhole, hfirst] at hresult
    obtain rfl := Except.error.inj hresult
    cases hhttp
  | locked _ _ hlogin hwhole =>
    rw [hwhole] at hresult
    rw [hlogin, Except.error.inj hresult]
  | again _ _ _ hsecond hwhole =>
    rw [hwhole] at hresult
    exact absurd (hsecond.symm.trans hresult) nofun

end Course

namespace Query

open Step

/-- **The policy of new logins.** In every session that a run can reach and against any deployment,
every query keeps to the policy, and no probe asks for a token. -/
theorem perform_policy {s : Session} (hs : s.Reachable) {σ : Type} (d : Deployment σ) (w : σ) :
    (∀ {shape : Shape} (q : Query shape),
      let first := q.attempt d s w
      let login := authorize d first.session first.state
      let second := q.attempt d login.session login.state
      Policy s first login second (q.perform d s w)) ∧
    ∀ p : Probe, ∀ request ∈ (probe p d s w).requests, request.method = .get := by
  obtain ⟨held, hheld⟩ := hs.holds
  refine ⟨fun q => ?_, fun p => probe_gets hheld.sound p⟩
  intro first login second
  have hcourse : Course q.title first login second (q.perform d s w) := q.course d s w
  obtain ⟨hsound, hsame⟩ := q.attempt_keeps (d := d) (w := w) hheld.sound
  have hlogin : login.session.Holds _ :=
    (tracks_login (σ := σ) (.ask q)).holds (hheld.of_sameLogin hsound hsame)
  refine
    { first_gets := attempt_gets hheld.sound q
      second_gets := attempt_gets hlogin.sound q
      requests := hcourse.requests_eq fun hrefused => ?_
      result := hcourse.result_eq
      http := fun status url hresult => ?_ }
  · have hurl : Url.isRequestable first.session.config.tokenUrl = true := by
      rw [hsame.config]
      exact requestable_of_refused hheld q hrefused
    rw [← hsame.loginRequest]
    exact authorize_requests hurl
  · rw [← hsame.config]
    exact url_of_authorize_http (hcourse.login_of_http hresult)

/-- Where everything is refused, a query asks twice: for its data, and for a token. -/
theorem authProjects_refused :
    let d : Deployment Unit := .stateless fun _ => .response 401 none (.json .null) 0
    (authProjects.perform d .sample ()).requests.map (·.method) = [.get, .post] ∧
      (authProjects.perform d .sample ()).result = .error (.http 401 Config.sample.tokenUrl) := by
  intro d
  have hpolicy := (perform_policy (.new Session.new_sample) d ()).1 authProjects
  have hfirst : (authProjects.attempt d .sample ()).result =
      .error (.http 401 Config.sample.projectsUrl) := rfl
  have hsession : (authProjects.attempt d .sample ()).session = .sample := rfl
  have hlogin : (authorize d .sample ()).result = .error (.http 401 Config.sample.tokenUrl) := by
    rw [authorize_apply]
    rfl
  rw [hpolicy.requests, hpolicy.result, hsession]
  constructor
  · simp only [policyRequests, hfirst, hlogin]
    rfl
  · simp only [policyResult, hfirst, hlogin]
    rfl

end Query

end StackWatch
