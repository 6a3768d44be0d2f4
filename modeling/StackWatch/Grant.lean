import StackWatch.Catalog

/-!
# Logging in

A session asks keystone for a token with a password grant: who logs in, and for which scope, one
project or none. `Grant.toJson` is the body of that request. What comes back, apart from the token
itself, is a `TokenDocument`: the catalog, and when the token expires.
-/

namespace StackWatch

/-- What a token is good for. -/
inductive Scope where
  | project (id : String)
  | unscoped
  deriving DecidableEq, Inhabited

namespace Scope

/-- The scope of a project, or no scope. -/
def ofProject : Option String → Scope
  | some id => .project id
  | none => .unscoped

/-- A scope as it is asked for. -/
def toJson : Scope → Json
  | .project id => .obj [("project", .obj [("id", .str id)])]
  | .unscoped => .str "unscoped"

end Scope

/-- A login by password. -/
structure Grant where
  username : String
  password : String
  /-- domain of the user -/
  domainId : String
  scope : Scope
  deriving DecidableEq, Inhabited

namespace Grant

/-- The body of the request for a token. -/
def toJson (g : Grant) : Json :=
  .obj [("auth", .obj [
    ("identity", .obj [
      ("methods", .arr [.str "password"]),
      ("password", .obj [("user", .obj [
        ("name", .str g.username), ("password", .str g.password),
        ("domain", .obj [("id", .str g.domainId)])])])]),
    ("scope", g.scope.toJson)])]

end Grant

/-- The parts of a token's description that are used. -/
structure TokenDocument where
  /-- the services that the token may reach -/
  catalog : Catalog
  expiresAt : Option String
  deriving DecidableEq, Inhabited

namespace TokenDocument

/-- The description of a token that says nothing. -/
def blank : TokenDocument := ⟨.empty, none⟩

/-- The fields of the description. -/
def schema : Schema TokenDocument where
  name := "TokenBody"
  blank := blank
  fields :=
    [.of "catalog" false Catalog.read fun catalog t => { t with catalog },
     .of "expires_at" false (.optional .string) fun expiresAt t => { t with expiresAt }]

/-- The fields of the answer, which holds the description as its only member. -/
def answerSchema : Schema TokenDocument where
  name := "TokenResponse"
  blank := blank
  fields := [.of "token" false schema.read fun token _ => token]

/-- Reads the answer to a login. -/
def read : Reader TokenDocument := answerSchema.read

end TokenDocument

end StackWatch
