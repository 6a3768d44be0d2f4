import Mathlib.Data.List.Dedup
import StackWatch.Resolver

/-!
# A resolver goes by the first match

A resolver remembers what it has looked up, so what it answers might depend on what was done with it
before. It does not: after any uses of it, a lookup comes to the first match in the catalog that was
installed last (`Resolver.faithful`). The first match is said by what stands before it
(`Catalog.OffersFirst`): no endpoint of the interface, neither in an earlier entry of the type nor
earlier in the same entry.

What carries the proof is `Resolver.Recalls`: the endpoints that a resolver remembers are those of
the components that were found since its catalog was set, each as the catalog has it.
-/

namespace StackWatch

/-! ## The first match -/

namespace Catalog

/-- A catalog has an endpoint of a component under an interface. -/
def Offers (catalog : Catalog) (c : Component) (interface : Interface) : Prop :=
  ∃ entry ∈ catalog.entries, entry.type = c.name ∧
    ∃ endpoint ∈ entry.endpoints, endpoint.interface = interface

/-- The first endpoint of a component under an interface has a URL. Before it stand endpoints of
other interfaces only, in earlier entries of the component's type and in its own entry. -/
inductive OffersFirst (catalog : Catalog) (c : Component) (interface : Interface)
    (url : String) : Prop
  | intro {before after : List CatalogEntry} {entry : CatalogEntry}
    {first rest : List CatalogEndpoint} {endpoint : CatalogEndpoint}
    (hentries : catalog.entries = before ++ entry :: after) (htype : entry.type = c.name)
    (hendpoints : entry.endpoints = first ++ endpoint :: rest)
    (hinterface : endpoint.interface = interface) (hurl : endpoint.url = url)
    (hbefore : ∀ earlier ∈ before, earlier.type = c.name →
      ∀ other ∈ earlier.endpoints, other.interface ≠ interface)
    (hfirst : ∀ other ∈ first, other.interface ≠ interface)

variable {catalog : Catalog} {c : Component} {interface : Interface} {url : String}

/-- The endpoints of a component, entry by entry. -/
theorem endpointsOf_eq_flatMap (catalog : Catalog) (c : Component) :
    catalog.endpointsOf c =
      catalog.entries.flatMap fun entry => if entry.type = c.name then entry.endpoints else [] := by
  unfold endpointsOf
  induction catalog.entries with
  | nil => rfl
  | cons entry rest ih =>
    by_cases htype : entry.type = c.name
    · simp [htype, ih]
    · simp [htype, ih]

theorem findUrl?_eq_some_iff :
    catalog.findUrl? c interface = some url ↔ catalog.OffersFirst c interface url := by
  rw [findUrl?, endpointsOf_eq_flatMap, List.find?_flatMap]
  constructor
  · intro h
    obtain ⟨endpoint, hfind, hurl⟩ := Option.map_eq_some_iff.1 h
    obtain ⟨before, entry, after, hentries, hentry, hbefore⟩ := List.findSome?_eq_some_iff.1 hfind
    by_cases htype : entry.type = c.name
    · rw [if_pos htype] at hentry
      obtain ⟨hinterface, first, rest, hendpoints, hfirst⟩ := List.find?_eq_some_iff_append.1 hentry
      refine .intro hentries htype hendpoints (by simpa using hinterface) hurl ?_ ?_
      · intro earlier hearlier htype' other hother
        have hnone := hbefore earlier hearlier
        rw [if_pos htype'] at hnone
        simpa using List.find?_eq_none.1 hnone other hother
      · intro other hother
        simpa using hfirst other hother
    · rw [if_neg htype] at hentry
      cases hentry
  · rintro ⟨hentries, htype, hendpoints, hinterface, hurl, hbefore, hfirst⟩
    refine Option.map_eq_some_iff.2 ⟨_, ?_, hurl⟩
    refine List.findSome?_eq_some_iff.2 ⟨_, _, _, hentries, ?_, ?_⟩
    · rw [if_pos htype]
      refine List.find?_eq_some_iff_append.2 ⟨by simpa using hinterface, _, _, hendpoints, ?_⟩
      intro other hother
      simpa using hfirst other hother
    · intro earlier hearlier
      by_cases htype' : earlier.type = c.name
      · rw [if_pos htype']
        refine List.find?_eq_none.2 fun other hother => ?_
        simpa using hbefore earlier hearlier htype' other hother
      · rw [if_neg htype']
        rfl

theorem findUrl?_eq_none_iff :
    catalog.findUrl? c interface = none ↔ ¬ catalog.Offers c interface := by
  rw [findUrl?, Option.map_eq_none_iff, List.find?_eq_none, endpointsOf]
  constructor
  · rintro h ⟨entry, hentry, htype, endpoint, hendpoint, hinterface⟩
    refine h endpoint (List.mem_flatMap.2 ⟨entry, ?_, hendpoint⟩) (by simpa using hinterface)
    exact List.mem_filter.2 ⟨hentry, by simpa using htype⟩
  · intro h endpoint hendpoint hinterface
    obtain ⟨entry, hmem, hendpoint⟩ := List.mem_flatMap.1 hendpoint
    obtain ⟨hentry, htype⟩ := List.mem_filter.1 hmem
    exact h ⟨entry, hentry, by simpa using htype, endpoint, hendpoint, by simpa using hinterface⟩

end Catalog

/-! ## How many components have a value -/

namespace Memo

variable {α : Type} {m : Memo α}

/-- A table has as many values as a list of the components that have one has different members. -/
theorem size_eq_length_dedup {cs : List Component} (h : ∀ c, (m c).isSome = true ↔ c ∈ cs) :
    m.size = cs.dedup.length := by
  have hall : Component.all.Nodup := by decide
  have hperm : (Component.all.filter fun c => (m c).isSome).Perm cs.dedup := by
    refine (List.perm_ext_iff_of_nodup (hall.filter _) cs.nodup_dedup).2 fun c => ?_
    rw [List.mem_filter, List.mem_dedup, h c]
    simp [c.mem_all]
  exact hperm.length_eq

end Memo

/-! ## Uses of a resolver -/

namespace Resolver

/-- What can be done with a resolver. -/
inductive Use where
  | replace (catalog : Catalog)
  | clear
  | resolve (c : Component)

/-- The catalog that a use sets, if it sets one. -/
def Use.catalog? : Use → Option Catalog
  | replace catalog => some catalog
  | clear => some .empty
  | resolve _ => none

/-- What was done with a resolver, each use with the answer if it was a lookup. The last use stands
first. -/
abbrev History : Type := List (Use × Option (Except ApiError String))

/-- One use of a resolver: the answer, and the resolver after it. -/
def use (r : Resolver) : Use → Option (Except ApiError String) × Resolver
  | .replace catalog => (none, r.replace catalog)
  | .clear => (none, r.clear)
  | .resolve c => (some (r.resolve c).1, (r.resolve c).2)

/-- Any uses of a new resolver, the last of which stands first: their history, and
the resolver after them. -/
def used (interface : Interface) : List Use → History × Resolver
  | [] => ([], .new interface)
  | u :: earlier =>
    let before := used interface earlier
    ((u, (before.2.use u).1) :: before.1, (before.2.use u).2)

namespace History

/-- The catalog that was set last. -/
def installed (history : History) : Catalog := (history.findSome? (·.1.catalog?)).getD .empty

/-- The component of an entry if it is a lookup that found it. -/
def found? : Use × Option (Except ApiError String) → Option Component
  | (.resolve c, some (.ok _)) => some c
  | _ => none

/-- The components that were found since a catalog was set, each as often as it was asked for. -/
def foundSince (history : History) : List Component :=
  (history.takeWhile (·.1.catalog?.isNone)).filterMap found?

end History

/-! ## What is remembered -/

/-- A resolver remembers what was found since its catalog was set, as the catalog has it. -/
structure Recalls (interface : Interface) (history : History) (r : Resolver) : Prop where
  configured : r.interface = interface
  catalog : r.catalog = history.installed
  found : ∀ c url, r.found c = some url → r.catalog.findUrl? c interface = some url
  remembered : ∀ c, (r.found c).isSome = true ↔ c ∈ history.foundSince

variable {interface : Interface} {history : History} {r : Resolver}

/-- Whatever is remembered, a lookup comes to what the catalog has. -/
theorem Recalls.resolve_eq (h : r.Recalls interface history) (c : Component) :
    (r.resolve c).1 = match r.catalog.findUrl? c interface with
      | some url => .ok url
      | none => .error (.componentNotFound c) := by
  cases hfound : r.found c with
  | some url => rw [resolve_hit hfound, h.found c url hfound]
  | none =>
    cases hurl : r.catalog.findUrl? c r.interface with
    | some url =>
      rw [resolve_miss hfound hurl, ← h.configured, hurl]
    | none =>
      rw [resolve_absent hfound hurl, ← h.configured, hurl]

/-- A lookup that fails leaves the resolver as it was. -/
theorem resolve_of_error {c : Component} {e : ApiError} (h : (r.resolve c).1 = .error e) :
    (r.resolve c).2 = r := by
  unfold resolve at h ⊢
  split
  · rfl
  · split
    · simp_all
    · rfl

/-- A new resolver remembers nothing, and nothing has been done with it. -/
theorem recalls_new (interface : Interface) : (new interface).Recalls interface [] where
  configured := rfl
  catalog := rfl
  found := nofun
  remembered c := by simp [new, History.foundSince]

/-- Setting the catalog forgets what was found in the one before. -/
theorem Recalls.replace (h : r.Recalls interface history) {u : Use} {catalog : Catalog}
    (hu : u.catalog? = some catalog) :
    (r.replace catalog).Recalls interface ((u, none) :: history) where
  configured := h.configured
  catalog := by simp [Resolver.replace, History.installed, hu]
  found := nofun
  remembered c := by simp [Resolver.replace, History.foundSince, hu]

/-- A lookup adds its component to what was found, if it finds it. -/
theorem Recalls.resolve (h : r.Recalls interface history) (c : Component) :
    (r.resolve c).2.Recalls interface ((.resolve c, some (r.resolve c).1) :: history) := by
  have hinstalled : History.installed ((Use.resolve c, some (r.resolve c).1) :: history) =
      history.installed := rfl
  cases hfound : r.found c with
  | some url =>
    -- the component was found before, so it is remembered already
    rw [resolve_hit hfound] at hinstalled ⊢
    have hmem : c ∈ history.foundSince := (h.remembered c).1 (by rw [hfound]; rfl)
    refine ⟨h.configured, h.catalog.trans hinstalled.symm, h.found, fun c' => ?_⟩
    rw [h.remembered c']
    change c' ∈ history.foundSince ↔ c' ∈ c :: history.foundSince
    rw [List.mem_cons]
    exact ⟨.inr, fun hc' => hc'.elim (fun heq => heq ▸ hmem) id⟩
  | none =>
    cases hurl : r.catalog.findUrl? c r.interface with
    | some url =>
      rw [resolve_miss hfound hurl] at hinstalled ⊢
      refine ⟨h.configured, h.catalog.trans hinstalled.symm,
        fun c' url' hfound' => ?_, fun c' => ?_⟩
      · change r.catalog.findUrl? c' interface = some url'
        change r.found.insert c url c' = some url' at hfound'
        by_cases hc : c' = c
        · subst hc
          rw [Memo.insert_self] at hfound'
          rw [← h.configured, hurl, ← hfound']
        · rw [Memo.insert_of_ne _ _ hc] at hfound'
          exact h.found c' url' hfound'
      · change (r.found.insert c url c').isSome = true ↔ c' ∈ c :: history.foundSince
        by_cases hc : c' = c
        · simp [hc]
        · rw [Memo.insert_of_ne _ _ hc, h.remembered c']
          simp [hc]
    | none =>
      rw [resolve_absent hfound hurl] at hinstalled ⊢
      exact ⟨h.configured, h.catalog.trans hinstalled.symm, h.found, h.remembered⟩

/-- One use of a resolver keeps what it remembers in line. -/
theorem Recalls.use (h : r.Recalls interface history) (u : Use) :
    (r.use u).2.Recalls interface ((u, (r.use u).1) :: history) := by
  cases u with
  | replace catalog => exact h.replace rfl
  | clear => exact h.replace rfl
  | resolve c => exact h.resolve c

/-- So do any uses, by induction on them. -/
theorem recalls_used (interface : Interface) (uses : List Use) :
    (used interface uses).2.Recalls interface (used interface uses).1 := by
  induction uses with
  | nil => exact recalls_new interface
  | cons u earlier ih => exact ih.use u

/-- What a resolver tells after a history. -/
structure Faithful (interface : Interface) (history : History) (r : Resolver) : Prop where
  catalog : r.catalog = history.installed
  /-- a lookup finds the first match in the catalog that was set last -/
  found_iff : ∀ c url, (r.resolve c).1 = .ok url ↔ history.installed.OffersFirst c interface url
  /-- and it fails exactly where there is none, in one way only -/
  failed_iff : ∀ c e, (r.resolve c).1 = .error e ↔
    e = .componentNotFound c ∧ ¬ history.installed.Offers c interface
  /-- no lookup touches the catalog -/
  kept : ∀ c, (r.resolve c).2.catalog = r.catalog
  /-- and one that fails leaves no trace -/
  unmemoized : ∀ c e, (r.resolve c).1 = .error e → (r.resolve c).2 = r
  /-- as many endpoints are remembered as components were found -/
  cachedCount : r.cachedCount = history.foundSince.dedup.length

/-- **A resolver goes by the first match.** Whatever was done with it before, each lookup comes to
the first endpoint of the component in the catalog that was set last, or fails because there is
none; and it counts the components that were found since. -/
theorem faithful (interface : Interface) (uses : List Use) :
    (used interface uses).2.Faithful interface (used interface uses).1 := by
  have h := recalls_used interface uses
  refine
    { catalog := h.catalog
      found_iff := fun c url => ?_
      failed_iff := fun c e => ?_
      kept := fun c => (resolve_catalog _ c).1
      unmemoized := fun c e => resolve_of_error
      cachedCount := Memo.size_eq_length_dedup h.remembered }
  · rw [h.resolve_eq, h.catalog, ← Catalog.findUrl?_eq_some_iff]
    cases (used interface uses).1.installed.findUrl? c interface with
    | none => simp
    | some first => simp
  · rw [h.resolve_eq, h.catalog, ← Catalog.findUrl?_eq_none_iff]
    cases (used interface uses).1.installed.findUrl? c interface with
    | none => simp [eq_comm]
    | some first => simp

end Resolver

end StackWatch
