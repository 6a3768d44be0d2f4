import Mathlib.Data.List.Forall2
import Mathlib.Data.List.Sort
import StackWatch.Json.Parser
import StackWatch.Metrics.Projection
import StackWatch.Proofs.Namespace
import StackWatch.Proofs.Numerals

/-!
# The leaves of an object and its metrics

A leaf of an object is a value that is no object itself, at the end of a path of members
(`Json.IsLeaf`). The order of the members makes an order of the paths, in which the leaves are
listed (`Json.leafPaths`). A leaf counts if its path names a listed field and its value is a number
(`Spec.Reports`), and of the leaves that count for a field the one with the last path is the metric.
`Spec.project_characterized` says that this is all that the metrics of an object depend on.

The members of an object are in the order of their keys in every value that was read from a text
(`Json.ordered_of_parse?`), which is what `Json.Ordered` asks for.
-/

namespace StackWatch

namespace Json

/-- The value at the end of a path of members. -/
def at? (value : Json) : List String → Option Json
  | [] => some value
  | key :: path => (value.get? key).bind fun inner => inner.at? path

/-- A value at the end of a path into an object is a leaf, unless it is an object itself. -/
structure IsLeaf (object : Json) (path : List String) (value : Json) : Prop where
  inside : path ≠ []
  stands : object.at? path = some value
  noObject : value.isObject = false

/-- The name of a path: the names on the way in the common form, with points between them. -/
def pathName (path : List String) : String := String.intercalate "." (path.map snakeCase)

mutual

/-- The members of every object stand in the order of their keys. The items of
arrays are not looked at. -/
def Ordered : Json → Prop
  | .obj members => members.Pairwise (fun a b => a.1 < b.1) ∧ OrderedMembers members
  | _ => True

/-- The values of some members are ordered. -/
def OrderedMembers : List (String × Json) → Prop
  | [] => True
  | (_, value) :: rest => value.Ordered ∧ OrderedMembers rest

end

/-- What a value counts as: a number as the float that is nearest to it, and a text as the
number that it spells. -/
inductive CountsAs : Json → Float → Prop where
  | int (n : Int) : CountsAs (.int n) (Float.ofInt n)
  | float (x : Float) : CountsAs (.float x) x
  | true : CountsAs (.bool true) 1.0
  | false : CountsAs (.bool false) 0.0
  | emptyText : CountsAs (.str "") 0.0
  | numeral {s : String} {x : Float} (h : Decimal.Spells s x) : CountsAs (.str s) x

theorem number?_eq_some_iff {value : Json} {x : Float} :
    number? value = some x ↔ value.CountsAs x := by
  constructor
  · intro h
    cases value with
    | int n =>
      cases h
      exact .int n
    | float y =>
      cases h
      exact .float _
    | bool b =>
      cases h
      cases b with
      | true => exact .true
      | false => exact .false
    | str s =>
      rw [number?] at h
      split at h
      · next hs =>
        subst hs
        cases h
        exact .emptyText
      · exact .numeral (Decimal.parse?_eq_some_iff.1 h)
    | null | arr _ | obj _ => cases h
  · intro h
    cases h with
    | int | float | true | false | emptyText => rfl
    | @numeral s _ h =>
      have hread := Decimal.parse?_eq_some_iff.2 h
      have hs : s ≠ "" := by
        rintro rfl
        cases hread
      rw [number?, if_neg hs, hread]

/-! ## The order of the members -/

theorem orderedMembers_iff {members : List (String × Json)} :
    OrderedMembers members ↔ ∀ m ∈ members, m.2.Ordered := by
  induction members with
  | nil => simp [OrderedMembers]
  | cons m rest ih => simp [OrderedMembers, ih]

/-- An object that is made of ordered values is ordered. -/
theorem ordered_object {members : List (String × Json)} (h : OrderedMembers members) :
    (object members).Ordered := by
  refine ⟨(KeyMap.ofList members).ordered, orderedMembers_iff.2 ?_⟩
  intro m hm
  exact orderedMembers_iff.1 h m (KeyMap.mem_ofList hm)

theorem Numeral.ordered_of_value? {n : Numeral} {value : Json} (h : n.value? = some value) :
    value.Ordered := by
  have hfloat : n.float?.map Json.float = some value → value.Ordered := by
    intro h
    obtain ⟨x, -, rfl⟩ := Option.map_eq_some_iff.1 h
    trivial
  unfold value? at h
  dsimp only at h
  split at h
  · split at h
    · cases h
      trivial
    · split at h
      · cases h
        trivial
      · exact hfloat h
  · exact hfloat h

/-- Whatever is read from a text is ordered, since its objects are put in order. By induction on the
steps of the reader, for values and members at once. -/
theorem ordered_of_read (fuel : Nat) :
    (∀ depth cs value rest, valueAt fuel depth cs = some (value, rest) → value.Ordered) ∧
      ∀ depth cs members rest, membersAt fuel depth cs = some (members, rest) →
      OrderedMembers members := by
  induction fuel with
  | zero =>
    constructor
    · intro depth cs value rest h
      cases h
    · intro depth cs members rest h
      cases h
  | succ fuel ih =>
    obtain ⟨hvalue, hmembers⟩ := ih
    constructor
    · intro depth cs value rest h
      unfold valueAt at h
      split at h
      · cases h
        trivial
      · cases h
        trivial
      · cases h
        trivial
      · obtain ⟨_, -, heq⟩ := Option.map_eq_some_iff.1 h
        cases heq
        trivial
      · split at h
        · cases h
        · split at h
          · cases h
            trivial
          · obtain ⟨_, -, heq⟩ := Option.map_eq_some_iff.1 h
            cases heq
            trivial
      · split at h
        · cases h
        · split at h
          · cases h
            exact ⟨.nil, trivial⟩
          · obtain ⟨⟨members, rest'⟩, hread, heq⟩ := Option.map_eq_some_iff.1 h
            cases heq
            exact ordered_object (hmembers _ _ _ _ hread)
      · split at h
        · obtain ⟨value', hnumeral, heq⟩ := Option.map_eq_some_iff.1 h
          cases heq
          exact Numeral.ordered_of_value? hnumeral
        · cases h
    · intro depth cs members rest h
      unfold membersAt at h
      split at h
      · split at h
        · cases h
        · split at h
          · split at h
            · cases h
            · next hfirst =>
              have hordered := hvalue _ _ _ _ hfirst
              split at h
              · obtain ⟨⟨members', rest'⟩, hread, heq⟩ := Option.map_eq_some_iff.1 h
                cases heq
                exact ⟨hordered, hmembers _ _ _ _ hread⟩
              · cases h
                exact ⟨hordered, trivial⟩
              · cases h
          · cases h
      · cases h

/-- Every value that is read from a text is ordered. -/
theorem ordered_of_parse? {s : String} {value : Json} (h : parse? s = some value) :
    value.Ordered := by
  rw [parse?, parseWithin?] at h
  split at h
  · next hread =>
    split at h
    · cases h
      exact (ordered_of_read _).1 _ _ _ _ hread
    · cases h
  · cases h

/-! ## Leaves in the order of their paths -/

mutual

/-- A value that is no object with its empty path, or the leaves of an object
with theirs, depth first. -/
def pathsAt : Json → List (List String × Json)
  | .obj members => pathsOf members
  | value => [([], value)]

/-- The leaves of some members with their paths, depth first. -/
def pathsOf : List (String × Json) → List (List String × Json)
  | [] => []
  | (name, value) :: rest =>
    (pathsAt value).map (fun leaf => (name :: leaf.1, leaf.2)) ++ pathsOf rest

end

/-- The leaves of an object with their paths, depth first. Another value has no leaves. -/
def leafPaths : Json → List (List String × Json)
  | .obj members => pathsOf members
  | _ => []

theorem at?_obj (members : List (String × Json)) (key : String) (path : List String) :
    (Json.obj members).at? (key :: path) = (findEntry key members).bind (·.at? path) := rfl

theorem exists_of_mem_pathsOf {members : List (String × Json)} {path : List String} {value : Json}
    (h : (path, value) ∈ pathsOf members) : ∃ m ∈ members, ∃ rest, path = m.1 :: rest := by
  induction members with
  | nil => cases h
  | cons m more ih =>
    obtain ⟨name, inner⟩ := m
    rw [pathsOf, List.mem_append, List.mem_map] at h
    rcases h with ⟨leaf, -, heq⟩ | h
    · cases heq
      exact ⟨_, List.mem_cons_self, _, rfl⟩
    · obtain ⟨m, hm, rest, hpath⟩ := ih h
      exact ⟨m, List.mem_cons_of_mem _ hm, rest, hpath⟩

mutual

/-- Exactly the values at the end of a path that are no objects are listed. -/
theorem mem_pathsAt {path : List String} {leaf : Json} : ∀ {value : Json}, value.Ordered →
    ((path, leaf) ∈ pathsAt value ↔ value.at? path = some leaf ∧ leaf.isObject = false)
  | .obj members, h => by
    rw [pathsAt, mem_pathsOf h.1 h.2]
    cases path with
    | nil =>
      constructor
      · rintro ⟨key, rest, hpath, -⟩
        cases hpath
      · rintro ⟨hself, hleaf⟩
        cases hself
        cases hleaf
    | cons key rest =>
      rw [at?_obj]
      constructor
      · rintro ⟨key', rest', hpath, hleaf⟩
        cases hpath
        exact hleaf
      · intro hleaf
        exact ⟨key, rest, rfl, hleaf⟩
  | .null, _ | .bool _, _ | .int _, _ | .float _, _ | .str _, _ | .arr _, _ => by
    cases path with
    | nil =>
      constructor
      · intro h
        cases List.mem_singleton.1 h
        exact ⟨rfl, rfl⟩
      · rintro ⟨hself, -⟩
        cases hself
        exact List.mem_singleton_self _
    | cons key rest =>
      constructor
      · intro h
        cases List.mem_singleton.1 h
      · rintro ⟨hself, -⟩
        cases hself

theorem mem_pathsOf {path : List String} {leaf : Json} : ∀ {members : List (String × Json)},
    members.Pairwise (fun a b => a.1 < b.1) → OrderedMembers members →
      ((path, leaf) ∈ pathsOf members ↔ ∃ key rest, path = key :: rest ∧
        (findEntry key members).bind (·.at? rest) = some leaf ∧ leaf.isObject = false)
  | [], _, _ => by
    constructor
    · intro h
      cases h
    · rintro ⟨key, rest, -, h, -⟩
      cases h
  | (name, value) :: more, hkeys, hvalues => by
    obtain ⟨hfirst, hmore⟩ := List.pairwise_cons.1 hkeys
    rw [pathsOf, List.mem_append, List.mem_map, mem_pathsOf hmore hvalues.2]
    constructor
    · rintro (⟨⟨rest, leaf'⟩, hleaf, heq⟩ | ⟨key, rest, rfl, hleaf⟩)
      · cases heq
        refine ⟨name, rest, rfl, ?_⟩
        rw [findEntry, if_pos rfl]
        exact (mem_pathsAt hvalues.1).1 hleaf
      · have hne : key ≠ name := by
          rintro rfl
          rw [KeyMap.findEntry_eq_none_of_lt hfirst] at hleaf
          cases hleaf.1
        refine ⟨key, rest, rfl, ?_⟩
        rwa [findEntry, if_neg hne]
    · rintro ⟨key, rest, rfl, hleaf⟩
      by_cases heq : key = name
      · subst heq
        rw [findEntry, if_pos rfl] at hleaf
        exact .inl ⟨(rest, leaf), (mem_pathsAt hvalues.1).2 hleaf, rfl⟩
      · rw [findEntry, if_neg heq] at hleaf
        exact .inr ⟨key, rest, rfl, hleaf⟩

end

mutual

/-- The leaves are listed in the order of their paths. -/
theorem sorted_pathsAt :
    ∀ {value : Json}, value.Ordered → (pathsAt value).Pairwise (fun a b => a.1 < b.1)
  | .obj _, h => sorted_pathsOf h.1 h.2
  | .null, _ | .bool _, _ | .int _, _ | .float _, _ | .str _, _ | .arr _, _ =>
    List.pairwise_singleton _ _

theorem sorted_pathsOf :
    ∀ {members : List (String × Json)}, members.Pairwise (fun a b => a.1 < b.1) →
    OrderedMembers members → (pathsOf members).Pairwise (fun a b => a.1 < b.1)
  | [], _, _ => .nil
  | (_, _) :: _, hkeys, hvalues => by
    obtain ⟨hfirst, hmore⟩ := List.pairwise_cons.1 hkeys
    rw [pathsOf, List.pairwise_append, List.pairwise_map]
    refine ⟨?_, sorted_pathsOf hmore hvalues.2, ?_⟩
    · exact (sorted_pathsAt hvalues.1).imp fun h => List.cons_lt_cons_iff.2 (.inr ⟨rfl, h⟩)
    · intro leaf hleaf leaf' hleaf'
      obtain ⟨inner, -, rfl⟩ := List.mem_map.1 hleaf
      obtain ⟨m, hm, rest, hpath⟩ := exists_of_mem_pathsOf hleaf'
      rw [hpath]
      exact List.cons_lt_cons_iff.2 (.inl (hfirst m hm))

end

theorem mem_leafPaths {object : Json} (h : object.Ordered) {path : List String} {value : Json} :
    (path, value) ∈ object.leafPaths ↔ object.IsLeaf path value := by
  constructor
  · intro hmem
    cases object with
    | obj members =>
      have hlisted : (path, value) ∈ pathsAt (.obj members) := hmem
      obtain ⟨hstands, hleaf⟩ := (mem_pathsAt h).1 hlisted
      obtain ⟨m, -, rest, hpath⟩ := exists_of_mem_pathsOf hmem
      exact ⟨by simp [hpath], hstands, hleaf⟩
    | _ => cases hmem
  · rintro ⟨hinside, hstands, hleaf⟩
    cases object with
    | obj members =>
      have hlisted : (path, value) ∈ pathsAt (.obj members) := (mem_pathsAt h).2 ⟨hstands, hleaf⟩
      exact hlisted
    | _ =>
      cases path with
      | nil => exact absurd rfl hinside
      | cons key rest => cases hstands

theorem sorted_leafPaths {object : Json} (h : object.Ordered) :
    object.leafPaths.Pairwise (fun a b => a.1 < b.1) := by
  cases object with
  | obj members => exact sorted_pathsOf h.1 h.2
  | _ => exact .nil

/-! ## Names of leaves -/

theorem pathName_cons_cons (first second : String) (rest : List String) :
    pathName (first :: second :: rest) = snakeCase first ++ "." ++ pathName (second :: rest) := by
  simp only [pathName, List.map_cons, String.intercalate_cons_cons]

mutual

theorem leavesAt_eq (before name : String) : ∀ value : Json,
    leavesAt (before ++ snakeCase name) value =
      (pathsAt value).map fun leaf => (before ++ pathName (name :: leaf.1), leaf.2)
  | .obj members => by
    rw [leavesAt, pathsAt, leavesOf_eq (before ++ snakeCase name ++ ".") members]
    apply List.map_congr_left
    rintro ⟨path, leaf⟩ hleaf
    obtain ⟨m, -, rest, rfl⟩ := exists_of_mem_pathsOf hleaf
    rw [pathName_cons_cons, String.append_assoc, String.append_assoc, String.append_assoc]
  | .null | .bool _ | .int _ | .float _ | .str _ | .arr _ => by
    simp [leavesAt, pathsAt, pathName]

theorem leavesOf_eq (before : String) : ∀ members : List (String × Json),
    leavesOf before members = (pathsOf members).map fun leaf => (before ++ pathName leaf.1, leaf.2)
  | [] => rfl
  | (name, value) :: rest => by
    rw [leavesOf, pathsOf, List.map_append, List.map_map, leavesAt_eq before name value,
      leavesOf_eq before rest]
    rfl

end

/-- The leaves that are read are those that are listed, each under the name of its path. -/
theorem leaves_eq (object : Json) :
    leaves object = object.leafPaths.map fun leaf => (pathName leaf.1, leaf.2) := by
  cases object with
  | obj members =>
    rw [leaves, leafPaths, leavesOf_eq]
    simp only [String.empty_append]
  | _ => rfl

end Json

/-! ## The last entry of a sorted list -/

section LastEntry

variable {α β : Type} {key : String} {named? : β → Option (String × α)} {items : List β}
  {R : β → β → Prop}

theorem lastEntry_filterMap_eq_none_iff :
    KeyMap.lastEntry key (items.filterMap named?) = none ↔
      ∀ item ∈ items, ∀ x, named? item ≠ some (key, x) := by
  rw [KeyMap.lastEntry, Option.map_eq_none_iff, List.getLast?_eq_none_iff, List.filter_eq_nil_iff]
  constructor
  · intro h item hitem x hx
    have hno := h (key, x) (List.mem_filterMap.2 ⟨item, hitem, hx⟩)
    exact hno (by simp)
  · rintro h ⟨k, x⟩ hmem heq
    obtain ⟨item, hitem, hx⟩ := List.mem_filterMap.1 hmem
    have hkey : k = key := by simpa using heq
    exact h item hitem x (hkey ▸ hx)

/-- The last entry with a key is that of the last item that has one. By induction on the items: an
item counts if none behind it does. -/
theorem exists_of_lastEntry_filterMap (hsorted : items.Pairwise R) {x : α}
    (h : KeyMap.lastEntry key (items.filterMap named?) = some x) :
    ∃ item ∈ items, named? item = some (key, x) ∧
      ∀ item' ∈ items, ∀ x', named? item' = some (key, x') → item' = item ∨ R item' item := by
  induction items with
  | nil => cases h
  | cons item rest ih =>
    obtain ⟨hfirst, hrest⟩ := List.pairwise_cons.1 hsorted
    cases hlater : KeyMap.lastEntry key (rest.filterMap named?) with
    | some y =>
      have hxy : x = y := by
        cases hitem : named? item with
        | none =>
          rw [List.filterMap_cons_none hitem, hlater] at h
          exact (Option.some.inj h).symm
        | some e =>
          rw [List.filterMap_cons_some hitem, KeyMap.lastEntry_cons, hlater] at h
          exact (Option.some.inj h).symm
      obtain ⟨last, hmem, hlast, hmax⟩ := ih hrest (hxy ▸ hlater)
      refine ⟨last, List.mem_cons_of_mem item hmem, hlast, ?_⟩
      intro item' hitem' x' hx'
      rcases List.mem_cons.1 hitem' with rfl | hitem'
      · exact .inr (hfirst last hmem)
      · exact hmax item' hitem' x' hx'
    | none =>
      have hnone := lastEntry_filterMap_eq_none_iff.1 hlater
      have hitem : named? item = some (key, x) := by
        cases hitem : named? item with
        | none =>
          rw [List.filterMap_cons_none hitem, hlater] at h
          cases h
        | some e =>
          rw [List.filterMap_cons_some hitem, KeyMap.lastEntry_cons, hlater, Option.none_or] at h
          split at h
          · next heq =>
            cases h
            rw [heq]
          · cases h
      refine ⟨item, List.mem_cons_self, hitem, ?_⟩
      intro item' hitem' x' hx'
      rcases List.mem_cons.1 hitem' with rfl | hitem'
      · exact .inl rfl
      · exact absurd hx' (hnone item' hitem' x')

end LastEntry

/-! ## The metrics of an object -/

namespace Spec

/-- A leaf counts for a field: the name of its path, renamed, is the field, which is listed, and its
value, transformed, is a number. -/
inductive Reports (spec : Spec) (lens : Lens) (object : Json) (path : List String) (field : String)
    (x : Float) : Prop where
  | leaf {value : Json} (hleaf : object.IsLeaf path value)
      (hfield : lens.rename (Json.pathName path) = field)
      (hlisted : field ∈ spec.fields)
      (hvalue : (lens.transform (Json.pathName path) value).CountsAs x)

/-- The map has for each listed field the number of the last leaf that counts for
it, and nothing else. -/
structure Projects (spec : Spec) (lens : Lens) (object : Json) (m : KeyMap Float) : Prop where
  keys : ∀ name, (m.get? name).isSome = true → ∃ field ∈ spec.fields, name = spec.metricName field
  last : ∀ field x, m.get? (spec.metricName field) = some x ↔
    ∃ path, spec.Reports lens object path field x ∧
    ∀ path' x', spec.Reports lens object path' field x' → path' = path ∨ path' < path
  absent : ∀ field, m.get? (spec.metricName field) = none ↔
    ∀ path x, ¬ spec.Reports lens object path field x

/-- The leaves that count, in order, each with its field and its number. -/
def Lists (spec : Spec) (lens : Lens) (object : Json) (counted : List (String × Float)) : Prop :=
  ∃ paths : List (List String), paths.Pairwise (· < ·) ∧
    (∀ path, path ∈ paths ↔ ∃ field x, spec.Reports lens object path field x) ∧
    List.Forall₂ (fun path leaf => spec.Reports lens object path leaf.1 leaf.2) paths counted

variable {spec : Spec} {lens : Lens} {object : Json}

theorem metricName_injective {field field' : String}
    (h : spec.metricName field = spec.metricName field') : field = field' := by
  have hchars := congrArg String.toList h
  simp only [metricName, String.toList_append, List.append_cancel_left_eq] at hchars
  exact String.toList_injective hchars

/-- What a listed leaf counts for, and as which number. -/
def reading? (spec : Spec) (lens : Lens) (leaf : List String × Json) : Option (String × Float) :=
  let field := lens.rename (Json.pathName leaf.1)
  if spec.fields.contains field then
    (number? (lens.transform (Json.pathName leaf.1) leaf.2)).map fun x => (field, x)
  else none

theorem entry?_eq (leaf : List String × Json) :
    spec.entry? lens (Json.pathName leaf.1, leaf.2) =
      (spec.reading? lens leaf).map fun e => (spec.metricName e.1, e.2) := by
  unfold entry? reading?
  dsimp only
  split
  · rw [Option.map_map]
    rfl
  · rfl

theorem project_eq (spec : Spec) (lens : Lens) (object : Json) :
    spec.project lens object = KeyMap.ofList
      ((object.leafPaths.filterMap (spec.reading? lens)).map
        fun e => (spec.metricName e.1, e.2)) := by
  rw [project, Json.leaves_eq, List.filterMap_map, List.map_filterMap]
  exact congrArg KeyMap.ofList (List.filterMap_congr fun leaf _ => entry?_eq leaf)

theorem reading?_eq_some_iff {leaf : List String × Json} {field : String} {x : Float} :
    spec.reading? lens leaf = some (field, x) ↔
      lens.rename (Json.pathName leaf.1) = field ∧ field ∈ spec.fields ∧
      (lens.transform (Json.pathName leaf.1) leaf.2).CountsAs x := by
  rw [reading?, ← Json.number?_eq_some_iff]
  constructor
  · intro h
    split at h
    · next hlisted =>
      obtain ⟨y, hy, heq⟩ := Option.map_eq_some_iff.1 h
      cases heq
      exact ⟨rfl, by simpa using hlisted, hy⟩
    · cases h
  · rintro ⟨rfl, hlisted, hx⟩
    rw [if_pos (by simpa using hlisted), hx]
    rfl

/-- The leaves that count are among those that are listed. -/
theorem reports_iff (hobject : object.Ordered) {path : List String} {field : String} {x : Float} :
    spec.Reports lens object path field x ↔
      ∃ value, (path, value) ∈ object.leafPaths ∧ spec.reading? lens (path, value) =
        some (field, x) := by
  constructor
  · rintro ⟨hleaf, hfield, hlisted, hvalue⟩
    exact ⟨_, (Json.mem_leafPaths hobject).2 hleaf,
      reading?_eq_some_iff.2 ⟨hfield, hlisted, hvalue⟩⟩
  · rintro ⟨value, hmem, hreading⟩
    obtain ⟨hfield, hlisted, hvalue⟩ := reading?_eq_some_iff.1 hreading
    exact .leaf ((Json.mem_leafPaths hobject).1 hmem) hfield hlisted hvalue

/-- A leaf counts for one field, as one number. -/
theorem Reports.unique {path : List String} {field field' : String} {x x' : Float}
    (h : spec.Reports lens object path field x) (h' : spec.Reports lens object path field' x') :
    field = field' ∧ x = x' := by
  obtain ⟨⟨-, hstands, -⟩, hfield, -, hvalue⟩ := h
  obtain ⟨⟨-, hstands', -⟩, hfield', -, hvalue'⟩ := h'
  obtain rfl := Option.some.inj (hstands.symm.trans hstands')
  have hx : some x = some x' :=
    (Json.number?_eq_some_iff.2 hvalue).symm.trans (Json.number?_eq_some_iff.2 hvalue')
  exact ⟨hfield.symm.trans hfield', Option.some.inj hx⟩

/-- Those of some leaves that count, beside what they count as. -/
theorem forall₂_reading? (leaves : List (List String × Json)) :
    List.Forall₂ (fun leaf e => leaf ∈ leaves ∧ spec.reading? lens leaf = some e)
      (leaves.filter fun leaf => (spec.reading? lens leaf).isSome)
      (leaves.filterMap (spec.reading? lens)) := by
  induction leaves with
  | nil => exact .nil
  | cons leaf rest ih =>
    have hrest := ih.imp fun later e h => And.intro (List.mem_cons_of_mem leaf h.1) h.2
    cases h : spec.reading? lens leaf with
    | none =>
      rw [List.filterMap_cons_none h, List.filter_cons_of_neg (by simp [h])]
      exact hrest
    | some e =>
      rw [List.filterMap_cons_some h, List.filter_cons_of_pos (by simp [h])]
      exact .cons ⟨List.mem_cons_self, h⟩ hrest

/-- What the listed leaves count as is the list of the leaves that count. -/
theorem lists_leafPaths (hobject : object.Ordered) :
    spec.Lists lens object (object.leafPaths.filterMap (spec.reading? lens)) := by
  have hsorted :=
    (Json.sorted_leafPaths hobject).filter fun leaf => (spec.reading? lens leaf).isSome
  refine ⟨(object.leafPaths.filter fun leaf => (spec.reading? lens leaf).isSome).map Prod.fst,
    List.pairwise_map.2 hsorted, ?_, ?_⟩
  · intro path
    rw [List.mem_map]
    constructor
    · rintro ⟨⟨path, value⟩, hmem, rfl⟩
      obtain ⟨hlisted, hsome⟩ := List.mem_filter.1 hmem
      obtain ⟨⟨field, x⟩, hreading⟩ := Option.isSome_iff_exists.1 hsome
      exact ⟨field, x, (reports_iff hobject).2 ⟨value, hlisted, hreading⟩⟩
    · rintro ⟨field, x, hreports⟩
      obtain ⟨value, hlisted, hreading⟩ := (reports_iff hobject).1 hreports
      exact ⟨(path, value), List.mem_filter.2 ⟨hlisted, by rw [hreading]; rfl⟩, rfl⟩
  · rw [List.forall₂_map_left_iff]
    apply (forall₂_reading? object.leafPaths).imp
    rintro ⟨path, value⟩ ⟨field, x⟩ ⟨hlisted, hreading⟩
    exact (reports_iff hobject).2 ⟨value, hlisted, hreading⟩

/-- There is one list of the leaves that count. -/
theorem Lists.unique {counted counted' : List (String × Float)} (h : spec.Lists lens object counted)
    (h' : spec.Lists lens object counted') : counted = counted' := by
  obtain ⟨paths, hsorted, hmem, hcounted⟩ := h
  obtain ⟨paths', hsorted', hmem', hcounted'⟩ := h'
  obtain rfl : paths = paths' :=
    hsorted.eq_of_mem_iff hsorted' fun path => (hmem path).trans (hmem' path).symm
  have hunique : Relator.RightUnique fun (path : List String) (leaf : String × Float) =>
      spec.Reports lens object path leaf.1 leaf.2 := by
    intro path leaf leaf' hleaf hleaf'
    obtain ⟨hfield, hx⟩ := hleaf.unique hleaf'
    exact Prod.ext hfield hx
  exact List.right_unique_forall₂' hunique hcounted hcounted'

/-- The metrics of an object are made of the list of the leaves that count. -/
theorem project_of_lists (hobject : object.Ordered) {counted : List (String × Float)}
    (h : spec.Lists lens object counted) :
    spec.project lens object = KeyMap.ofList (counted.map fun e => (spec.metricName e.1, e.2)) := by
  rw [project_eq, (lists_leafPaths hobject).unique h]

theorem reading?_of_named {leaf : List String × Json} {field : String} {x : Float}
    (h : ((spec.reading? lens leaf).map fun e => (spec.metricName e.1, e.2)) =
      some (spec.metricName field, x)) :
    spec.reading? lens leaf = some (field, x) := by
  obtain ⟨⟨field', x'⟩, hreading, heq⟩ := Option.map_eq_some_iff.1 h
  obtain ⟨hname, hx⟩ := Prod.mk.inj heq
  rw [hreading]
  exact congrArg some (Prod.ext (metricName_injective hname) hx)

/-- What stands under the name of a field is the number of the last leaf that counts for it. -/
theorem projects_project (hobject : object.Ordered) :
    spec.Projects lens object (spec.project lens object) := by
  have hget : ∀ name, (spec.project lens object).get? name =
      KeyMap.lastEntry name (object.leafPaths.filterMap
      fun leaf => (spec.reading? lens leaf).map fun e => (spec.metricName e.1, e.2)) := by
    intro name
    rw [project_eq, KeyMap.get?_ofList, List.map_filterMap]
  have habsent : ∀ field, (spec.project lens object).get? (spec.metricName field) = none ↔
      ∀ path x, ¬ spec.Reports lens object path field x := by
    intro field
    rw [hget, lastEntry_filterMap_eq_none_iff]
    constructor
    · intro h path x hreports
      obtain ⟨value, hlisted, hreading⟩ := (reports_iff hobject).1 hreports
      exact h _ hlisted x (by rw [hreading]; rfl)
    · rintro h ⟨path, value⟩ hlisted x hx
      exact h path x ((reports_iff hobject).2 ⟨value, hlisted, reading?_of_named hx⟩)
  have hfirst : ∀ field x, (spec.project lens object).get? (spec.metricName field) = some x →
      ∃ path, spec.Reports lens object path field x ∧
        ∀ path' x', spec.Reports lens object path' field x' → path' = path ∨ path' < path := by
    intro field x hx
    rw [hget] at hx
    obtain ⟨⟨path, value⟩, hlisted, hreading, hmax⟩ :=
      exists_of_lastEntry_filterMap (Json.sorted_leafPaths hobject) hx
    refine ⟨path, (reports_iff hobject).2 ⟨value, hlisted, reading?_of_named hreading⟩, ?_⟩
    intro path' x' hreports
    obtain ⟨value', hlisted', hreading'⟩ := (reports_iff hobject).1 hreports
    exact (hmax _ hlisted' x' (by rw [hreading']; rfl)).imp_left (congrArg Prod.fst)
  exact
    { keys := by
        intro name hsome
        obtain ⟨x, hx⟩ := Option.isSome_iff_exists.1 hsome
        rw [hget] at hx
        obtain ⟨leaf, -, hentry, -⟩ :=
          exists_of_lastEntry_filterMap (Json.sorted_leafPaths hobject) hx
        obtain ⟨⟨field, y⟩, hreading, heq⟩ := Option.map_eq_some_iff.1 hentry
        exact ⟨field, (reading?_eq_some_iff.1 hreading).2.1, (Prod.mk.inj heq).1.symm⟩
      last := by
        intro field x
        refine ⟨hfirst field x, ?_⟩
        rintro ⟨path, hreports, hmax⟩
        cases hget' : (spec.project lens object).get? (spec.metricName field) with
        | none => exact absurd hreports ((habsent field).1 hget' path x)
        | some y =>
          -- the last of the leaves that count for the field is one only
          obtain ⟨path', hreports', hmax'⟩ := hfirst field y hget'
          have hpath : path' = path := by
            rcases hmax path' y hreports' with heq | hlt
            · exact heq
            · rcases hmax' path x hreports with heq | hlt'
              · exact heq.symm
              · exact absurd hlt' (List.lt_asymm hlt)
          subst hpath
          exact congrArg some (hreports'.unique hreports).2
      absent := habsent }

/-- **The metrics of an object, characterized.** For each listed field there is the number of the
last leaf that counts for it, in the order of the paths, and there is nothing else. So an object's
metrics show no more of it than the list of its leaves that count. -/
theorem project_characterized (hobject : object.Ordered) (spec : Spec) (lens : Lens) :
    spec.Projects lens object (spec.project lens object) ∧
      (∃ counted, spec.Lists lens object counted) ∧
      ∀ {object' : Json} {counted : List (String × Float)}, object'.Ordered →
      spec.Lists lens object counted →
        spec.Lists lens object' counted → spec.project lens object' = spec.project lens object := by
  refine ⟨projects_project hobject, ⟨_, lists_leafPaths hobject⟩, ?_⟩
  intro object' counted hobject' h h'
  rw [project_of_lists hobject h, project_of_lists hobject' h']

end Spec

/-- Limits under several spellings, of which some are no numbers. -/
def sampleSpellings : Json :=
  .obj [("absolute", .obj [("maxTotalCores", .int 20), ("maxTotalInstances", .int (-1))]),
    ("absolute.maxTotalCores", .str "7.5e0"), ("absolute.max_total_cores", .null),
    ("rate", .arr [.int 3])]

/-- Of three leaves for one field the last number counts. -/
theorem sampleSpellings_projected :
    sampleSpellings.Ordered ∧
      Spec.computeLimits.Projects .plain sampleSpellings
        (Spec.computeLimits.project .plain sampleSpellings) ∧
      (Spec.computeLimits.project .plain sampleSpellings).entries =
        [("openstack.nova.limits.absolute.max_total_cores", 7.5),
         ("openstack.nova.limits.absolute.max_total_instances", -1.0)] := by
  have hordered : sampleSpellings.Ordered :=
    ⟨by decide, ⟨by decide, trivial, trivial, trivial⟩, trivial, trivial, trivial, trivial⟩
  refine ⟨hordered, (Spec.project_characterized hordered .computeLimits .plain).1, ?_⟩
  decide +kernel

end StackWatch
