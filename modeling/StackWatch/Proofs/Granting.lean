import StackWatch.Proofs.Login

/-!
# A login brings everything or nothing

Between forgetting the last login and installing the next one a login can fail at six places. This
module says what each answer to the one request comes to: either it grants a login (`Login.Grants`),
or it fails by the first thing about it that is wrong (`Login.Fails`), and no answer does both. A
session that logs in holds all of what was granted, or nothing of any login
(`Step.authorize_all_or_nothing`), whatever it held before.

That the catalog is the one of the answer comes down to how a record is read: a field holds what the
last value given for it is read as, and its default if none is given (`Schema.Shows.fills`).
-/

namespace StackWatch

/-! ## The fields of a record -/

/-- What is given for a field of a record: the members of its name, or the item at its place. -/
def Json.given (name : String) (place : Nat) : Json → List Json
  | .obj members => (members.filter fun m => m.1 = name).map (·.2)
  | .arr items => items[place]?.toList
  | _ => []

/-- A field that held `old` holds `new` after what was given for it: nothing,
or a value to be read. -/
def Reader.Fills {α : Type} (read : Reader α) (given : Option Json) (old new : α) : Prop :=
  match given with
  | none => new = old
  | some value => read value = .ok new

theorem Reader.Fills.trans {α : Type} {read : Reader α}
    {first later : Option Json} {old mid new : α} (hlater : read.Fills later mid new)
    (hfirst : read.Fills first old mid) : read.Fills (later.or first) old new := by
  cases later with
  | none =>
    obtain rfl : new = mid := hlater
    exact hfirst
  | some value => exact hlater

/-- A field that does not touch what `get` shows of a record. -/
def Field.Spares {ρ α : Type} (get : ρ → α) (field : Field ρ) : Prop :=
  ∀ value record record', field.store value record = .ok record' → get record' = get record

/-- A field of a schema and how a record shows it: the field stores what it reads, and no
other field touches that. -/
structure Schema.Shows {ρ α : Type} (schema : Schema ρ) (before : List (Field ρ)) (own : Field ρ)
    (after : List (Field ρ)) (read : Reader α) (get : ρ → α) : Prop where
  fields : schema.fields = before ++ own :: after
  /-- no other field has the name -/
  alone : ∀ field ∈ before ++ after, field.name ≠ own.name
  stores : ∀ {value record record'}, own.store value record = .ok record' →
    read value = .ok (get record')
  others : ∀ field ∈ before ++ after, field.Spares get

namespace Schema

variable {ρ α : Type} {schema : Schema ρ} {before after : List (Field ρ)} {own : Field ρ}
  {read : Reader α} {get : ρ → α}

/-- A field that is found by its name is one of the schema's. -/
theorem field?_eq_some {name : String} {field : Field ρ} (h : schema.field? name = some field) :
    field ∈ schema.fields ∧ field.name = name := by
  refine ⟨List.mem_of_find?_eq_some h, ?_⟩
  simpa using List.find?_some h

/-- Fields that do not touch something leave it as it is, however many of them are given. By
induction on the fields. -/
theorem storeItems_keeps {fields : List (Field ρ)} (hfields : ∀ field ∈ fields, field.Spares get) :
    ∀ {index record items record' left},
      schema.storeItems index record fields items = .ok (record', left) →
      get record' = get record := by
  induction fields with
  | nil =>
    intro index record items record' left h
    obtain ⟨rfl, -⟩ := Prod.mk.inj (Except.ok.inj h)
    rfl
  | cons field rest ih =>
    intro index record items record' left h
    have hrest := fun field hfield => hfields field (List.mem_cons_of_mem _ hfield)
    unfold storeItems at h
    cases items with
    | nil =>
      dsimp only at h
      split at h
      · cases h
      · exact ih hrest h
    | cons item items =>
      dsimp only at h
      split at h
      · cases h
      · rename_i record₁ hstore
        exact (ih hrest h).trans (hfields field (List.mem_cons_self ..) _ _ _ hstore)

/-- By position, the field holds the item at its place. By induction on the fields before it. -/
theorem storeItems_fills (hbefore : ∀ field ∈ before, field.Spares get)
    (hstores : ∀ {value record record'}, own.store value record = .ok record' →
      read value = .ok (get record')) (hafter : ∀ field ∈ after, field.Spares get) :
    ∀ {index record items record' left},
      schema.storeItems index record (before ++ own :: after) items = .ok (record', left) →
        read.Fills items[before.length]? (get record) (get record') := by
  induction before with
  | nil =>
    intro index record items record' left h
    rw [List.nil_append] at h
    unfold storeItems at h
    cases items with
    | nil =>
      dsimp only at h
      split at h
      · cases h
      · exact storeItems_keeps hafter h
    | cons item items =>
      dsimp only at h
      split at h
      · cases h
      · rename_i record₁ hstore
        have hkept : get record' = get record₁ := storeItems_keeps hafter h
        change read item = .ok (get record')
        rw [hkept]
        exact hstores hstore
  | cons field rest ih =>
    intro index record items record' left h
    have hrest := fun field hfield => hbefore field (List.mem_cons_of_mem _ hfield)
    rw [List.cons_append] at h
    unfold storeItems at h
    cases items with
    | nil =>
      dsimp only at h
      split at h
      · cases h
      · simpa using ih hrest h
    | cons item items =>
      dsimp only at h
      split at h
      · cases h
      · rename_i record₁ hstore
        have hkept : get record₁ = get record := hbefore field (List.mem_cons_self ..) _ _ _ hstore
        rw [List.length_cons, List.getElem?_cons_succ, ← hkept]
        exact ih hrest h

namespace Shows

variable (h : schema.Shows before own after read get)
include h

theorem eq_or_other {field : Field ρ} (hfield : field ∈ schema.fields) :
    field = own ∨ field ∈ before ++ after := by
  rw [h.fields, List.mem_append, List.mem_cons] at hfield
  rw [List.mem_append]
  rcases hfield with hbefore | hown | hafter
  · exact .inr (.inl hbefore)
  · exact .inl hown
  · exact .inr (.inr hafter)

/-- By name, the field holds the last member of its name. By induction on the members. -/
theorem storeMembers_fills {members : List (String × Json)} : ∀ {record record' : ρ},
    schema.storeMembers record members = .ok record' →
      read.Fills ((Json.obj members).given own.name before.length).getLast? (get record)
        (get record') := by
  induction members with
  | nil =>
    intro record record' hread
    obtain rfl := Except.ok.inj hread
    exact rfl
  | cons member rest ih =>
    intro record record' hread
    obtain ⟨key, value⟩ := member
    unfold storeMembers at hread
    by_cases hkey : key = own.name
    · -- the field of this name is the one that is looked at
      obtain ⟨field, hfield⟩ : ∃ field, schema.field? key = some field := by
        refine Option.isSome_iff_exists.1 (List.find?_isSome.2 ⟨own, ?_, by simp [hkey]⟩)
        rw [h.fields]
        exact List.mem_append_right _ (List.mem_cons_self ..)
      obtain ⟨hmem, hname⟩ := field?_eq_some hfield
      have heq : field = own := (h.eq_or_other hmem).resolve_right fun hother =>
        h.alone field hother (hname.trans hkey)
      rw [hfield, heq] at hread
      dsimp only at hread
      split at hread
      · cases hread
      · rename_i record₁ hstore
        have hfirst : read.Fills (some value) (get record) (get record₁) := h.stores hstore
        simpa [Json.given, hkey, List.getLast?_cons] using (ih hread).trans hfirst
    · have hgiven : (Json.obj ((key, value) :: rest)).given own.name before.length =
          (Json.obj rest).given own.name before.length := by
        simp [Json.given, hkey]
      rw [hgiven]
      split at hread
      · exact ih hread
      · rename_i field hfield
        split at hread
        · cases hread
        · rename_i record₁ hstore
          obtain ⟨hmem, hname⟩ := field?_eq_some hfield
          have hother : field ∈ before ++ after :=
            (h.eq_or_other hmem).resolve_left fun heq => hkey (hname ▸ congrArg Field.name heq)
          rw [← h.others field hother _ _ _ hstore]
          exact ih hread

/-- **What a field holds** after a record was read: what the last value that is given for it is read
as, and its default if there is none. -/
theorem fills {value : Json} {record : ρ} (hread : schema.read value = .ok record) :
    read.Fills (value.given own.name before.length).getLast? (get schema.blank) (get record) := by
  unfold Schema.read at hread
  split at hread
  · rename_i members
    split at hread
    · cases hread
    · rename_i record₁ hmembers
      unfold complete at hread
      split at hread
      · cases hread
      · obtain rfl := Except.ok.inj hread
        exact h.storeMembers_fills hmembers
  · rename_i items
    have hitems : ((Json.arr items).given own.name before.length).getLast? =
        items[before.length]? := by
      rw [Json.given]
      cases items[before.length]? <;> rfl
    rw [hitems]
    split at hread
    · cases hread
    · rename_i record₁ hstored
      obtain rfl := Except.ok.inj hread
      rw [h.fields] at hstored
      exact storeItems_fills (fun field hfield => h.others field (List.mem_append_left _ hfield))
        h.stores
        (fun field hfield => h.others field (List.mem_append_right _ hfield)) hstored
    · cases hread
  · cases hread

end Shows

end Schema

/-- A field that is read and put in place shows what it was read as. -/
theorem Field.stores_of {ρ α : Type} {name : String} {required : Bool}
    {read : Reader α} {set : α → ρ → ρ} (get : ρ → α) (hset : ∀ a record, get (set a record) = a)
    {value : Json} {record record' : ρ}
    (h : (Field.of name required read set).store value record = .ok record') :
    read value = .ok (get record') := by
  change (read value).map _ = _ at h
  cases hread : read value with
  | error e =>
    rw [hread] at h
    cases h
  | ok a =>
    rw [hread] at h
    obtain rfl := Except.ok.inj h
    rw [hset]

/-- A field that is read and put in place spares what it does not put anything into. -/
theorem Field.spares_of {ρ α β : Type} {name : String} {required : Bool} {read : Reader α}
    {set : α → ρ → ρ} {get : ρ → β} (hset : ∀ a record, get (set a record) = get record) :
    (Field.of name required read set).Spares get := by
  intro value record record' h
  change (read value).map _ = _ at h
  cases hread : read value with
  | error e =>
    rw [hread] at h
    cases h
  | ok a =>
    rw [hread] at h
    obtain rfl := Except.ok.inj h
    exact hset a record

/-! ## The catalog of an answer -/

namespace TokenDocument

theorem shows_catalog :
    schema.Shows [] (.of "catalog" false Catalog.read fun catalog t => { t with catalog })
    [.of "expires_at" false (.optional .string) fun expiresAt t => { t with expiresAt }]
    Catalog.read TokenDocument.catalog where
  fields := rfl
  alone field hfield := by
    rw [List.mem_singleton.1 hfield]
    decide
  stores := Field.stores_of TokenDocument.catalog fun _ _ => rfl
  others field hfield := by
    rw [List.mem_singleton.1 hfield]
    exact Field.spares_of fun _ _ => rfl

theorem shows_token : answerSchema.Shows [] (.of "token" false schema.read fun token _ => token) []
    schema.read id where
  fields := rfl
  alone := nofun
  stores := Field.stores_of id fun _ _ => rfl
  others := nofun

/-- The catalog that an answer gives: that of the description of the token, if there is one. -/
def catalog? (answer : Json) : Option Json :=
  (answer.given "token" 0).getLast?.bind fun token => (token.given "catalog" 0).getLast?

/-- **The catalog of an answer** is what the one given is read as, and empty if none is given. -/
theorem fills_catalog {answer : Json} {document : TokenDocument} (h : read answer = .ok document) :
    Catalog.read.Fills (catalog? answer) .empty document.catalog := by
  have htoken := shows_token.fills h
  change schema.read.Fills (answer.given "token" 0).getLast? blank document at htoken
  unfold catalog?
  cases hgiven : (answer.given "token" 0).getLast? with
  | none =>
    rw [hgiven] at htoken
    obtain rfl : document = blank := htoken
    exact rfl
  | some token =>
    rw [hgiven] at htoken
    exact shows_catalog.fills htoken

end TokenDocument

/-! ## What an answer comes to -/

namespace Login

/-- A request that is answered with a status that is no failure, with a token that can be read, and
with a description of it, brings that token and the catalog of the description. -/
inductive Grants : Option Answer → String → Catalog → Prop
  | intro {status : Nat} {token : String} {value : Json} {elapsed : Nat} {document : TokenDocument}
    (hstatus : isFailure status = false) (hread : TokenDocument.read value = .ok document)
    (hcatalog : Catalog.read.Fills (TokenDocument.catalog? value) .empty document.catalog) :
    Grants (some (.response status (some token) (.json value) elapsed)) token document.catalog

/-- Why a request for a token fails, by the first of the things that can be wrong: it cannot be
built, it is not answered, its status is a failure, its body is cut off, its body is not JSON, it
has no token that can be read, its body does not map onto the description of a token. -/
inductive Fails (url : String) : Option Answer → ApiError → Prop
  | notBuilt : Fails url none (.transport url .notBuilt)
  | notAnswered : Fails url (some .dropped) (.transport url (.notAnswered (Url.encoded url)))
  | status {status : Nat} {token : Option String} {body : Body} {elapsed : Nat}
    (hstatus : isFailure status = true) :
    Fails url (some (.response status token body elapsed)) (.http status url)
  | truncated {status : Nat} {token : Option String} {elapsed : Nat}
      (hstatus : isFailure status = false) :
    Fails url (some (.response status token .truncated elapsed)) (.transport url .bodyTruncated)
  | malformed {status : Nat} {token : Option String} {elapsed : Nat}
      (hstatus : isFailure status = false) :
    Fails url (some (.response status token .malformed elapsed)) (.decode url .invalidJson)
  | noToken {status : Nat} {value : Json} {elapsed : Nat} (hstatus : isFailure status = false) :
    Fails url (some (.response status none (.json value) elapsed)) .missingSubjectToken
  | notMapped {status : Nat} {token : String} {value : Json} {elapsed : Nat} {fault : Mismatch}
    (hstatus : isFailure status = false) (hread : TokenDocument.read value = .error fault) :
    Fails url (some (.response status (some token) (.json value) elapsed))
      (.decode url (.mismatch fault))

variable {url : String} {answer : Answer}

/-- An answer that brings a login grants it. -/
theorem grants_of_ok {login : Login} (h : Login.ofAnswer url answer = .ok login) :
    Grants (some answer) login.1 login.2 := by
  unfold ofAnswer at h
  cases answer with
  | dropped => cases h
  | response status token body elapsed =>
    cases hstatus : isFailure status with
    | true => simp [HttpClient.receive, hstatus] at h
    | false =>
      simp only [HttpClient.receive, hstatus, Bool.false_eq_true, if_false] at h
      cases body with
      | json value =>
        unfold Step.credentials at h
        cases token with
        | none => cases h
        | some token =>
          cases hread : TokenDocument.read value with
          | error fault => simp [hread] at h
          | ok document =>
            simp only [hread] at h
            obtain rfl := Except.ok.inj h
            exact .intro hstatus hread (TokenDocument.fills_catalog hread)
      | _ => cases h

/-- An answer that brings none fails by the first thing that is wrong with it. -/
theorem fails_of_error {e : ApiError} (h : Login.ofAnswer url answer = .error e) :
    Fails url (some answer) e := by
  unfold ofAnswer at h
  cases answer with
  | dropped =>
    obtain rfl := Except.error.inj h
    exact .notAnswered
  | response status token body elapsed =>
    cases hstatus : isFailure status with
    | true =>
      simp only [HttpClient.receive, hstatus, if_true] at h
      obtain rfl := Except.error.inj h
      exact .status hstatus
    | false =>
      simp only [HttpClient.receive, hstatus, Bool.false_eq_true, if_false] at h
      cases body with
      | truncated =>
        obtain rfl := Except.error.inj h
        exact .truncated hstatus
      | malformed =>
        obtain rfl := Except.error.inj h
        exact .malformed hstatus
      | json value =>
        unfold Step.credentials at h
        cases token with
        | none =>
          obtain rfl := Except.error.inj h
          exact .noToken hstatus
        | some token =>
          cases hread : TokenDocument.read value with
          | error fault =>
            simp only [hread] at h
            obtain rfl := Except.error.inj h
            exact .notMapped hstatus hread
          | ok document => simp [hread] at h

/-- What is granted has not failed. -/
theorem Grants.not_fails {answer : Option Answer} {token : String}
    {catalog : Catalog} {e : ApiError} (h : Grants answer token catalog) :
    ¬ Fails url answer e := by
  cases h with
  | intro hstatus hread =>
    intro hfails
    cases hfails with
    | status hfailure => cases hstatus.symm.trans hfailure
    | notMapped _ hfault => cases hread.symm.trans hfault

end Login

/-! ## A login -/

namespace Session

/-- The answer to a login, if it can be asked for. -/
def loginAnswer? {σ : Type} (s : Session) (d : Deployment σ) (w : σ) : Option Answer :=
  if Url.isRequestable s.config.tokenUrl = true then some (d s.loginRequest w).1 else none

/-- A session that has just been granted a login, and has looked up nothing since. -/
structure LoggedIn (s : Session) (token : String) (catalog : Catalog) : Prop where
  token : s.http.token = some token
  catalog : s.resolver.catalog = catalog
  found : s.resolver.found = .empty
  clients : s.clients = .empty
  auth : s.auth = .authenticated

/-- A session that holds nothing of any login. -/
structure LoggedOut (s : Session) : Prop where
  token : s.http.token = none
  catalog : s.resolver.catalog = .empty
  found : s.resolver.found = .empty
  clients : s.clients = .empty
  auth : s.auth = .unauthenticated

/-- What a login has nothing to do with is the same in two sessions. -/
structure SameBesides (s s' : Session) : Prop where
  config : s'.config = s.config
  project : s'.project = s.project
  ledger : s'.ledger = s.ledger
  interface : s'.resolver.interface = s.resolver.interface
  novaVersion : s'.http.novaVersion = s.http.novaVersion
  ironicVersion : s'.http.ironicVersion = s.http.ironicVersion

variable {s : Session}

theorem loggedIn_install (token : String) (catalog : Catalog) :
    (s.forget.install token catalog).LoggedIn token catalog :=
  ⟨rfl, rfl, rfl, rfl, rfl⟩

theorem loggedOut_forget : s.forget.LoggedOut := ⟨rfl, rfl, rfl, rfl, rfl⟩

theorem sameBesides_forget : s.SameBesides s.forget := ⟨rfl, rfl, rfl, rfl, rfl, rfl⟩

theorem sameBesides_install (token : String) (catalog : Catalog) :
    s.SameBesides (s.forget.install token catalog) := ⟨rfl, rfl, rfl, rfl, rfl, rfl⟩

end Session

/-- The scope that a request for a token asks for. -/
def Request.scope? (request : Request) : Option Json :=
  (request.body.bind (·.get? "auth")).bind (·.get? "scope")

/-- A request for a token asks for the scope of the session's project. -/
theorem Session.scope?_loginRequest (s : Session) :
    s.loginRequest.scope? = some (Scope.ofProject s.project).toJson := rfl

namespace Step

variable {σ : Type} (d : Deployment σ) (s : Session) (w : σ)

/-- **A login brings everything or nothing.** Either it is granted, and the session holds the token
and the catalog of the answer and has derived nothing from them; or it fails by the first thing that
went wrong, and the session holds nothing of any login. Either way the one request carries no token
and asks for the scope of the session's project, and whatever else the session has stays. -/
theorem authorize_all_or_nothing :
    ((∃ token catalog, Login.Grants (s.loginAnswer? d w) token catalog ∧
        (authorize d s w).result = .ok () ∧ (authorize d s w).session.LoggedIn token catalog ∧
        (authorize d s w).session.authorizations = s.authorizations + 1) ∨
      ∃ e, Login.Fails s.config.tokenUrl (s.loginAnswer? d w) e ∧
        (authorize d s w).result = .error e ∧ (authorize d s w).session.LoggedOut ∧
        (authorize d s w).session.authorizations = s.authorizations) ∧
      (authorize d s w).requests = (s.loginAnswer? d w).toList.map (fun _ => s.loginRequest) ∧
      s.loginRequest.token = none ∧
      s.loginRequest.scope? = some (Scope.ofProject s.project).toJson ∧
      s.SameBesides (authorize d s w).session := by
  have hrequests : (authorize d s w).requests =
      (s.loginAnswer? d w).toList.map (fun _ => s.loginRequest) := by
    rw [Outcome.requests, authorize_trace, Session.loginAnswer?]
    split <;> rfl
  suffices h : ((∃ token catalog, Login.Grants (s.loginAnswer? d w) token catalog ∧
        (authorize d s w).result = .ok () ∧ (authorize d s w).session =
          s.forget.install token catalog) ∨
      ∃ e, Login.Fails s.config.tokenUrl (s.loginAnswer? d w) e ∧
        (authorize d s w).result = .error e ∧ (authorize d s w).session = s.forget) by
    rcases h with ⟨token, catalog, hgrants, hresult, hsession⟩ | ⟨e, hfails, hresult, hsession⟩
    · rw [hsession]
      exact ⟨.inl ⟨token, catalog, hgrants, hresult, s.loggedIn_install token catalog, rfl⟩,
        hrequests, rfl, s.scope?_loginRequest, s.sameBesides_install token catalog⟩
    · rw [hsession]
      exact ⟨.inr ⟨e, hfails, hresult, s.loggedOut_forget, rfl⟩, hrequests, rfl,
        s.scope?_loginRequest, s.sameBesides_forget⟩
  rw [authorize_apply, Session.loginAnswer?]
  by_cases hurl : Url.isRequestable s.config.tokenUrl = true
  · rw [if_pos hurl, if_pos hurl]
    dsimp only
    cases hanswer : Login.ofAnswer s.config.tokenUrl (d s.loginRequest w).1 with
    | error e => exact .inr ⟨e, Login.fails_of_error hanswer, rfl, rfl⟩
    | ok login => exact .inl ⟨login.1, login.2, Login.grants_of_ok hanswer, rfl, rfl⟩
  · rw [if_neg hurl, if_neg hurl]
    exact .inr ⟨_, .notBuilt, rfl, rfl⟩

end Step

end StackWatch
