import StackWatch.Error

/-!
# Resolving components to endpoints

A `Resolver` holds the catalog that came with the current token and remembers every endpoint it
has looked up in it. Installing another catalog, or dropping it, forgets them. A lookup that
fails is not remembered.
-/

namespace StackWatch

/-- A catalog with the endpoints already looked up in it. -/
structure Resolver where
  catalog : Catalog
  /-- the interface whose endpoints are used -/
  interface : Interface
  /-- endpoints found so far -/
  found : Memo String

namespace Resolver

/-- A resolver without a catalog. -/
def new (interface : Interface) : Resolver := ⟨.empty, interface, .empty⟩

/-- Drops the catalog. -/
def clear (r : Resolver) : Resolver := { r with catalog := .empty, found := .empty }

/-- Installs a catalog. -/
def replace (r : Resolver) (catalog : Catalog) : Resolver := { r with catalog, found := .empty }

/-- How many endpoints are remembered. -/
def cachedCount (r : Resolver) : Nat := r.found.size

/-- The endpoint of a component, and the resolver that remembers it. -/
def resolve (r : Resolver) (c : Component) : Except ApiError String × Resolver :=
  match r.found c with
  | some url => (.ok url, r)
  | none =>
    match r.catalog.findUrl? c r.interface with
    | some url => (.ok url, { r with found := r.found.insert c url })
    | none => (.error (.componentNotFound c), r)

/-! ## Hits and misses -/

/-- A remembered endpoint is answered without change. -/
theorem resolve_hit {r : Resolver} {c : Component} {url : String} (h : r.found c = some url) :
    r.resolve c = (.ok url, r) := by simp [resolve, h]

/-- An endpoint that is in the catalog is answered and remembered. -/
theorem resolve_miss {r : Resolver} {c : Component} {url : String} (h : r.found c = none)
    (hurl : r.catalog.findUrl? c r.interface = some url) :
    r.resolve c = (.ok url, { r with found := r.found.insert c url }) := by simp [resolve, h, hurl]

/-- An endpoint that is not in the catalog is an error, and nothing changes. -/
theorem resolve_absent {r : Resolver} {c : Component} (h : r.found c = none)
    (hurl : r.catalog.findUrl? c r.interface = none) :
    r.resolve c = (.error (.componentNotFound c), r) := by simp [resolve, h, hurl]

/-- Resolving keeps the catalog and the interface. -/
theorem resolve_catalog (r : Resolver) (c : Component) :
    (r.resolve c).2.catalog = r.catalog ∧ (r.resolve c).2.interface = r.interface := by
  unfold resolve
  split
  · exact ⟨rfl, rfl⟩
  · split <;> exact ⟨rfl, rfl⟩

end Resolver

end StackWatch
