import StackWatch.Proofs.Login

/-!
# At most one new login

The outcome of a query is put together from at most three parts: a first attempt, a login if that
was refused, and a second attempt if the login succeeded. `Course` lists the ways in which this can
go, and `withReauth_course` is that every query goes one of them. The mark that a session gets
before the login is never seen, since every login begins by forgetting it (`mark_authorize`).
-/

namespace StackWatch

/-- The ways in which a query can go, by the outcomes of a first attempt, of a login after it, and
of a second attempt after that. -/
inductive Course {σ α : Type} (title : String) (first : Outcome σ (Option α))
    (login : Outcome σ Unit) (second whole : Outcome σ (Option α)) : Prop where
  | served {value : Option α} (hfirst : first.result = .ok value) (hwhole : whole = first)
  /-- a failing status that is no refusal -/
  | failed {e : ApiError} (hfirst : first.result = .error e) (hrefusal : e.isRefusal = false)
      (hhttp : e.isHttp = true)
      (hwhole : whole = ⟨.ok none, first.session, first.state,
        first.trace ++ [.notice (.queryFailed title e)]⟩)
  /-- any other failure -/
  | broken {e : ApiError} (hfirst : first.result = .error e) (hhttp : e.isHttp = false)
      (hwhole : whole = first)
  /-- a refusal, and no login -/
  | locked {e e' : ApiError} (hfirst : first.result = .error e) (hrefusal : e.isRefusal = true)
      (hlogin : login.result = .error e')
      (hwhole : whole = ⟨.error e', login.session, login.state, first.trace ++ login.trace⟩)
  /-- a refusal, and a second attempt that succeeds -/
  | again {e : ApiError} {value : Option α} (hfirst : first.result = .error e)
      (hrefusal : e.isRefusal = true) (hlogin : login.result = .ok ())
      (hsecond : second.result = .ok value)
      (hwhole : whole = second.after (first.trace ++ login.trace))
  /-- a refusal, and a second attempt that fails -/
  | lost {e e' : ApiError} (hfirst : first.result = .error e) (hrefusal : e.isRefusal = true)
      (hlogin : login.result = .ok ()) (hsecond : second.result = .error e')
      (hwhole : whole = ⟨.ok none, second.session, second.state,
        first.trace ++ login.trace ++ second.trace ++ [.notice (.retryFailed title e')]⟩)

/-- Every request of a course is one of its parts. A second attempt is made only after a failure. -/
theorem Course.mem_requests {σ α : Type} {title : String}
    {first second whole : Outcome σ (Option α)} {login : Outcome σ Unit}
    (h : Course title first login second whole) {request : Request}
    (hrequest : request ∈ whole.requests) :
    request ∈ first.requests ∨ request ∈ login.requests ∨
      (∃ e, first.result = .error e) ∧ request ∈ second.requests := by
  unfold Outcome.requests at *
  cases h with
  | served _ hwhole | broken _ _ hwhole =>
    rw [hwhole] at hrequest
    exact .inl hrequest
  | failed _ _ _ hwhole =>
    rw [hwhole, requestsOf_append, requestsOf_notice, List.append_nil] at hrequest
    exact .inl hrequest
  | locked _ _ _ hwhole =>
    rw [hwhole, requestsOf_append, List.mem_append] at hrequest
    exact hrequest.imp_right .inl
  | again hfirst _ _ _ hwhole =>
    rw [hwhole, Outcome.after, requestsOf_append, requestsOf_append, List.mem_append,
      List.mem_append] at hrequest
    rcases hrequest with (hrequest | hrequest) | hrequest
    · exact .inl hrequest
    · exact .inr (.inl hrequest)
    · exact .inr (.inr ⟨⟨_, hfirst⟩, hrequest⟩)
  | lost hfirst _ _ _ hwhole =>
    rw [hwhole, requestsOf_append, requestsOf_append, requestsOf_append, requestsOf_notice,
      List.append_nil, List.mem_append, List.mem_append] at hrequest
    rcases hrequest with (hrequest | hrequest) | hrequest
    · exact .inl hrequest
    · exact .inr (.inl hrequest)
    · exact .inr (.inr ⟨⟨_, hfirst⟩, hrequest⟩)

namespace Step

variable {σ α β : Type} {d : Deployment σ} {s : Session} {w : σ}

/-- To mark the session before a login changes nothing, since the login forgets the mark. -/
theorem mark_authorize (f : Unit → Step σ β) :
    (modify ({ · with auth := .unauthenticated }) >>= fun _ => authorize >>= f : Step σ β) =
      authorize >>= f := by
  funext d s w
  have hauthorize : authorize d { s with auth := .unauthenticated } w = authorize d s w := by
    rw [authorize_apply, authorize_apply]
    rfl
  rw [bind_quiet (m := modify _) rfl]
  change Step.bind authorize f d _ w = Step.bind authorize f d s w
  simp only [Step.bind, hauthorize]

/-- After a step that is caught comes the rest, whatever the step came to. -/
theorem bind_catching (m : Step σ α) (f : Except ApiError α → Step σ β) :
    (m.catching >>= f) d s w =
      (f (m d s w).result d (m d s w).session (m d s w).state).after (m d s w).trace := rfl

/-- **A query from its parts.** -/
theorem withReauth_course (title : String) {attempt : Step σ (Option α)}
    {first second : Outcome σ (Option α)} {login : Outcome σ Unit} (hfirst : attempt d s w = first)
    (hlogin : authorize d first.session first.state = login)
    (hsecond : attempt d login.session login.state = second) :
    Course title first login second (withReauth title attempt d s w) := by
  rw [withReauth, bind_catching, hfirst]
  cases hresult : first.result with
  | ok value =>
    refine .served hresult ?_
    dsimp only
    rw [pure_apply, ← hresult, Outcome.after, List.append_nil]
  | error e =>
    dsimp only
    by_cases hrefusal : e.isRefusal = true
    · rw [if_pos hrefusal, mark_authorize]
      cases hresult' : login.result with
      | error e' =>
        rw [bind_of_error (by rw [hlogin, hresult']), hlogin]
        exact .locked hresult hrefusal hresult' rfl
      | ok _ =>
        rw [bind_of_ok (by rw [hlogin, hresult']), hlogin, bind_catching, hsecond]
        cases hresult'' : second.result with
        | ok value =>
          refine .again hresult hrefusal hresult' hresult'' ?_
          dsimp only
          rw [pure_apply, ← hresult'']
          simp only [Outcome.after, List.append_nil, List.append_assoc]
        | error e' =>
          refine .lost hresult hrefusal hresult' hresult'' ?_
          simp only [List.append_assoc]
          rfl
    · rw [if_neg hrefusal]
      by_cases hhttp : e.isHttp = true
      · rw [if_pos hhttp]
        exact .failed hresult (Bool.eq_false_iff.2 hrefusal) hhttp rfl
      · rw [if_neg hhttp]
        refine .broken hresult (Bool.eq_false_iff.2 hhttp) ?_
        rw [fail, ← hresult, Outcome.after, List.append_nil]

/-- A query keeps track of the login if its attempts do. -/
theorem Tracks.withReauth {P : Config → Option Login → Event → Prop} (title : String)
    {attempt : Step σ (Option α)} (hattempt : Tracks P attempt)
    (hauthorize : Tracks P (authorize : Step σ Unit))
    (hnotice : ∀ n config held, P config held (.notice n)) :
    Tracks P (withReauth title attempt) := by
  refine hattempt.catching.bind fun result => ?_
  cases result with
  | ok value => exact tracks_pure value
  | error e =>
    dsimp only
    split
    · rw [mark_authorize]
      refine hauthorize.bind fun _ => hattempt.catching.bind fun result => ?_
      cases result with
      | ok value => exact tracks_pure value
      | error e' => exact (tracks_note _ (hnotice _)).bind fun _ => tracks_pure none
    · split
      · exact (tracks_note _ (hnotice _)).bind fun _ => tracks_pure none
      · exact tracks_fail e

end Step

/-- A query goes one of the ways of a course. -/
theorem Query.course {σ : Type} {shape : Shape} (q : Query shape) (d : Deployment σ) (s : Session)
    (w : σ) :
    let first := q.attempt d s w
    let login := Step.authorize d first.session first.state
    let second := q.attempt d login.session login.state
    Course q.title first login second (q.perform d s w) :=
  Step.withReauth_course q.title rfl rfl rfl

/-- A query whose first attempt succeeds is that attempt. -/
theorem Query.perform_of_served {σ : Type} {shape : Shape} {q : Query shape}
    {d : Deployment σ} {s : Session} {w : σ} {value : Option shape.Value}
    (h : (q.attempt d s w).result = .ok value) : q.perform d s w = q.attempt d s w := by
  cases q.course d s w with
  | served _ hwhole => exact hwhole
  | failed hfails | broken hfails | locked hfails | again hfails | lost hfails =>
    cases h.symm.trans hfails

/-- A query whose first attempt fails without a status is that attempt. -/
theorem Query.perform_of_broken {σ : Type} {shape : Shape} {q : Query shape}
    {d : Deployment σ} {s : Session} {w : σ} {e : ApiError}
    (h : (q.attempt d s w).result = .error e) (hhttp : e.isHttp = false) :
    q.perform d s w = q.attempt d s w := by
  have hstatus : ∀ {e' : ApiError}, (q.attempt d s w).result = .error e' →
      e'.isHttp = true → False :=
    fun h' htrue => by
      obtain rfl := Except.error.inj (h.symm.trans h')
      exact Bool.false_ne_true (hhttp.symm.trans htrue)
  cases q.course d s w with
  | served hok => cases h.symm.trans hok
  | broken _ _ hwhole => exact hwhole
  | failed hfails _ htrue => exact (hstatus hfails htrue).elim
  | locked hfails hrefusal | again hfails hrefusal | lost hfails hrefusal =>
    exact (hstatus hfails (ApiError.isHttp_of_isRefusal hrefusal)).elim

end StackWatch
