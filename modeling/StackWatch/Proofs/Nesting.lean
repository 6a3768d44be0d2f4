import Mathlib.Data.List.Forall2
import Mathlib.Data.List.TakeWhile
import StackWatch.Proofs.Namespace
import StackWatch.Proofs.Numerals

/-!
# What nested objects can bring into the metrics of an object

The fields of servers and flavors are single names, so one would expect an object to have them from
its own members alone. That is so for what an object says of itself (`Spec.project_eq_surface`), but
the namespace in front of a name is dropped together with the path before it: a member `x:ram` of a
nested object is read as `ram`. `Spec.isForgedBy` is this case exactly, and without it what nested
objects hold is not seen (`nested_unseen`). With it, whoever may write the metadata of a server sets
its power state (`Spec.project_forged`, `power_state_forged`).
-/

namespace StackWatch

/-! ## Names below an object -/

mutual

/-- The names under which a value of that name, or what it is made of, stands as a leaf. -/
def leafNamesAt (name : String) : Json → List String
  | .obj members => leafNames members
  | _ => [name]

/-- The names of the leaves below some members. -/
def leafNames : List (String × Json) → List String
  | [] => []
  | (name, value) :: rest => leafNamesAt name value ++ leafNames rest

end

/-- The names of the leaves of a nested object; another value has none. -/
def innerNames : Json → List String
  | .obj members => leafNames members
  | _ => []

/-- The names of the leaves of all objects among some members. -/
def nestedNames (members : List (String × Json)) : List String :=
  members.flatMap fun m => innerNames m.2

/-- Two objects have the same members, but for what stands in the objects among them. -/
def SameAtTop : List (String × Json) → List (String × Json) → Prop :=
  List.Forall₂ fun m m' => m.1 = m'.1 ∧ (m.2 = m'.2 ∨ m.2.isObject = true ∧ m'.2.isObject = true)

namespace Spec

/-- Whether a name inside a nested object is taken for a field of the object around it: it has a
namespace, and without it is a field. -/
def isForgedBy (spec : Spec) (name : String) : Bool :=
  name.toList.contains ':' && spec.fields.contains (stripNamespace (snakeCase name))

/-- What a member of an object brings into its metrics by itself: one that is an object nothing. -/
def ownEntries (spec : Spec) (lens : Lens) (m : String × Json) : List (String × Float) :=
  if m.2.isObject then [] else (spec.entry? lens (snakeCase m.1, m.2)).toList

/-- What the members of an object bring into its metrics by themselves. -/
def surface (spec : Spec) (lens : Lens) (members : List (String × Json)) : List (String × Float) :=
  members.flatMap (spec.ownEntries lens)

end Spec

/-! ## Namespaces in a path -/

section AfterLast

variable {separator : Char} {xs ys : List Char}

/-- What follows the last separator does not depend on what stands before some separator. -/
theorem afterLast_append_of_mem (h : separator ∈ ys) :
    afterLast separator (xs ++ ys) = afterLast separator ys := by
  have hstops : ¬ ∀ c ∈ ys.reverse, (c != separator) = true := by
    intro hall
    simpa using hall separator (List.mem_reverse.2 h)
  rw [afterLast, afterLast, List.reverse_append, List.takeWhile_append, if_neg]
  intro hlength
  have hwhole := (List.takeWhile_prefix (· != separator)).eq_of_length hlength
  apply hstops
  intro c hc
  rw [← hwhole] at hc
  exact List.mem_takeWhile_imp (p := (· != separator)) hc

/-- What stands behind all separators is kept. -/
theorem afterLast_append_of_not_mem (h : separator ∉ ys) :
    afterLast separator (xs ++ ys) = afterLast separator xs ++ ys := by
  have hpasses : ∀ c ∈ ys.reverse, (c != separator) = true := by
    intro c hc
    have hne : c ≠ separator := fun heq => h (heq ▸ List.mem_reverse.1 hc)
    simpa using hne
  rw [afterLast, afterLast, List.reverse_append, List.takeWhile_append_of_pos hpasses,
    List.reverse_append, List.reverse_reverse]

end AfterLast

/-- No character but the colon becomes one. -/
theorem eq_colon_of_plainChar {c : Char} (h : plainChar c = ':') : c = ':' := by
  unfold plainChar at h
  split at h
  · cases h
  · exact eq_of_toLower_eq rfl h

theorem plainChar_colon : plainChar ':' = ':' := by decide

/-- A name in the common form has a colon if the name has. By induction on the characters: a colon
stays one, none is put in, and no other character becomes one. -/
theorem colon_mem_snakeChars {cs : List Char} :
    ∀ {before : Option Char}, ':' ∈ snakeChars before cs ↔ ':' ∈ cs := by
  induction cs with
  | nil => exact fun {_} => Iff.rfl
  | cons c rest ih =>
    intro before
    have hplain : ':' = plainChar c ↔ ':' = c := by
      constructor
      · intro h
        exact (eq_colon_of_plainChar h.symm).symm
      · rintro rfl
        exact plainChar_colon.symm
    unfold snakeChars
    split
    · simp [hplain, ih]
    · simp [hplain, ih]

theorem colon_mem_snakeCase {name : String} :
    ':' ∈ (snakeCase name).toList ↔ ':' ∈ name.toList := by
  rw [snakeCase, String.toList_ofList]
  exact colon_mem_snakeChars

/-- The namespace of a name inside an object takes the path of the object with it. -/
theorem stripNamespace_path {path name : String} (h : ':' ∈ name.toList) :
    stripNamespace (path ++ "." ++ snakeCase name) = stripNamespace (snakeCase name) := by
  rw [stripNamespace, stripNamespace, String.toList_append, afterLast_append_of_mem]
  exact colon_mem_snakeCase.2 h

/-- A name without a namespace keeps the point in front of it. -/
theorem point_mem_stripNamespace {path name : String} (h : ':' ∉ name.toList) :
    '.' ∈ (stripNamespace (path ++ "." ++ snakeCase name)).toList := by
  have hname : ':' ∉ ('.' :: (snakeCase name).toList) := by
    simp [colon_mem_snakeCase, h]
  have hpath : (path ++ "." ++ snakeCase name).toList =
      path.toList ++ '.' :: (snakeCase name).toList := by
    simp
  rw [stripNamespace, String.toList_ofList, hpath, afterLast_append_of_not_mem hname]
  simp

/-! ## The leaves of nested objects -/

mutual

/-- Every leaf of a value inside an object has a name after the last point that
the path has of its own. -/
theorem path_of_mem_leavesAt {path name : String} :
    ∀ {value : Json} {leaf : String × Json}, leaf ∈ leavesAt (path ++ "." ++ snakeCase name) value →
      ∃ before, ∃ inner ∈ leafNamesAt name value, leaf.1 = before ++ "." ++ snakeCase inner
  | .obj members, _, h => path_of_mem_leavesOf h
  | .null, _, h | .bool _, _, h | .int _, _, h | .float _, _, h | .str _, _, h | .arr _, _, h => by
    obtain rfl := List.mem_singleton.1 h
    exact ⟨path, name, List.mem_singleton_self name, rfl⟩

theorem path_of_mem_leavesOf {path : String} :
    ∀ {members : List (String × Json)} {leaf : String × Json},
    leaf ∈ leavesOf (path ++ ".") members →
      ∃ before, ∃ inner ∈ leafNames members, leaf.1 = before ++ "." ++ snakeCase inner
  | [], _, h => absurd h List.not_mem_nil
  | (name, value) :: rest, _, h => by
    rcases List.mem_append.1 h with h | h
    · obtain ⟨before, inner, hinner, hleaf⟩ := path_of_mem_leavesAt h
      exact ⟨before, inner, List.mem_append_left _ hinner, hleaf⟩
    · obtain ⟨before, inner, hinner, hleaf⟩ := path_of_mem_leavesOf h
      exact ⟨before, inner, List.mem_append_right _ hinner, hleaf⟩

end

namespace Spec

variable {spec : Spec} {lens : Lens}

/-- Fields that are single names. -/
def HasPlainFields (spec : Spec) : Prop := ∀ field ∈ spec.fields, '.' ∉ field.toList

instance (spec : Spec) : Decidable spec.HasPlainFields := List.decidableBAll _ _

/-- A leaf of a nested object brings no metric, unless its name is taken for a field. -/
theorem entry?_inner (hfields : spec.HasPlainFields) (hlens : lens.rename = stripNamespace)
    {before name : String} (hname : spec.isForgedBy name = false) (value : Json) :
    spec.entry? lens (before ++ "." ++ snakeCase name, value) = none := by
  have hunlisted : stripNamespace (before ++ "." ++ snakeCase name) ∉ spec.fields := by
    intro hlisted
    by_cases hcolon : ':' ∈ name.toList
    · rw [stripNamespace_path hcolon] at hlisted
      have hforged : spec.isForgedBy name = true := by
        simp [isForgedBy, hcolon, hlisted]
      rw [hname] at hforged
      cases hforged
    · exact hfields _ hlisted (point_mem_stripNamespace hcolon)
  unfold entry?
  simp [hlens, hunlisted]

/-- A member brings what it brings by itself, as long as no name inside it is taken for a field. -/
theorem filterMap_leavesAt (hfields : spec.HasPlainFields) (hlens : lens.rename = stripNamespace)
    {m : String × Json} (h : ∀ name ∈ innerNames m.2, spec.isForgedBy name = false) :
    (leavesAt (snakeCase m.1) m.2).filterMap (spec.entry? lens) = spec.ownEntries lens m := by
  have hleaf : ∀ leaf, [leaf].filterMap (spec.entry? lens) = (spec.entry? lens leaf).toList := by
    intro leaf
    rw [List.filterMap_cons]
    cases spec.entry? lens leaf <;> rfl
  obtain ⟨name, value⟩ := m
  cases value with
  | obj members =>
    change (leavesOf (snakeCase name ++ ".") members).filterMap (spec.entry? lens) = []
    rw [List.filterMap_eq_nil_iff]
    rintro ⟨path, leaf⟩ hleaf
    obtain ⟨before, inner, hinner, rfl⟩ := path_of_mem_leavesOf hleaf
    exact entry?_inner hfields hlens (h inner hinner) leaf
  | null | bool _ | int _ | float _ | str _ | arr _ => exact hleaf _

/-- What an object reports is on its surface, as long as no name below it is taken for a field. By
induction on the members. -/
theorem filterMap_leavesOf (hfields : spec.HasPlainFields) (hlens : lens.rename = stripNamespace)
    {members : List (String × Json)}
    (h : ∀ name ∈ nestedNames members, spec.isForgedBy name = false) :
    (leavesOf "" members).filterMap (spec.entry? lens) = spec.surface lens members := by
  induction members with
  | nil => rfl
  | cons m rest ih =>
    obtain ⟨hhead, hrest⟩ := List.forall_mem_append.1 h
    rw [leavesOf, List.filterMap_append, ih hrest, String.empty_append,
      filterMap_leavesAt hfields hlens hhead]
    rfl

theorem project_eq_surface (hfields : spec.HasPlainFields) (hlens : lens.rename = stripNamespace)
    {members : List (String × Json)}
    (h : ∀ name ∈ nestedNames members, spec.isForgedBy name = false) :
    spec.project lens (.obj members) = KeyMap.ofList (spec.surface lens members) := by
  rw [project, leaves, filterMap_leavesOf hfields hlens h]

/-- The surface of an object does not show what its nested objects hold. -/
theorem surface_congr {members members' : List (String × Json)} (h : SameAtTop members members') :
    spec.surface lens members' = spec.surface lens members := by
  have hown : ∀ {m m' : String × Json}, m.1 = m'.1 →
      m.2 = m'.2 ∨ m.2.isObject = true ∧ m'.2.isObject = true →
        spec.ownEntries lens m' = spec.ownEntries lens m := by
    rintro ⟨name, value⟩ ⟨name', value'⟩ rfl (rfl | ⟨hobject, hobject'⟩)
    · rfl
    · rw [ownEntries, ownEntries, if_pos hobject, if_pos hobject']
  induction h with
  | nil => rfl
  | cons hfirst _ ih =>
    simp only [surface, List.flatMap_cons] at ih ⊢
    rw [hown hfirst.1 hfirst.2, ih]

theorem project_congr (hfields : spec.HasPlainFields) (hlens : lens.rename = stripNamespace)
    {members members' : List (String × Json)} (hsame : SameAtTop members members')
    (h : ∀ name ∈ nestedNames members ++ nestedNames members', spec.isForgedBy name = false) :
    spec.project lens (.obj members') = spec.project lens (.obj members) := by
  rw [project_eq_surface hfields hlens fun name hname => h name (List.mem_append_left _ hname),
    project_eq_surface hfields hlens fun name hname => h name (List.mem_append_right _ hname),
    surface_congr hsame]

/-! ## Forged fields -/

theorem leavesOf_append (before : String) (members later : List (String × Json)) :
    leavesOf before (members ++ later) = leavesOf before members ++ leavesOf before later := by
  induction members with
  | nil => rfl
  | cons m rest ih => simp only [List.cons_append, leavesOf, ih, List.append_assoc]

/-- A number under a name that is taken for a field is reported as that field, if it stands in the
last member of the object. -/
theorem project_forged {name : String} (hname : spec.isForgedBy name = true)
    {value : Json} {x : Float} (hvalue : number? value = some x) (members : List (String × Json))
    (outer : String) :
    (spec.project .unqualified (.obj (members ++ [(outer, .obj [(name, value)])]))).get?
      (spec.metricName (stripNamespace (snakeCase name))) = some x := by
  obtain ⟨hcolon, hfield⟩ := (Bool.and_eq_true _ _).mp hname
  have hrename : stripNamespace (snakeCase outer ++ "." ++ snakeCase name) =
      stripNamespace (snakeCase name) := stripNamespace_path (by simpa using hcolon)
  have hleaf : leavesOf "" [(outer, .obj [(name, value)])] =
      [(snakeCase outer ++ "." ++ snakeCase name, value)] := by
    cases value with
    | obj _ => cases hvalue
    | null | bool _ | int _ | float _ | str _ | arr _ => simp [leavesOf, leavesAt]
  have hentry : spec.entry? .unqualified (snakeCase outer ++ "." ++ snakeCase name, value) =
      some (spec.metricName (stripNamespace (snakeCase name)), x) := by
    unfold entry?
    simp only [Lens.unqualified, hrename, hfield, if_true, hvalue, Option.map_some]
  rw [project, leaves, leavesOf_append, List.filterMap_append, hleaf, KeyMap.get?_ofList]
  simp [KeyMap.lastEntry, hentry]

end Spec

/-- What stands in the nested objects of a server or a flavor is not seen in its metrics, as
long as none of its names is taken for a field: the flavor may come from the list, by its
identifier, or in a server. -/
theorem nested_unseen {members members' : List (String × Json)}
    (hsame : SameAtTop members members') :
    ((∀ name ∈ nestedNames members ++ nestedNames members', Spec.servers.isForgedBy name = false) →
      (Form.server.entity (.obj members')).metrics = (Form.server.entity (.obj members)).metrics) ∧
    ((∀ name ∈ nestedNames members ++ nestedNames members', Spec.flavors.isForgedBy name = false) →
      (Listing.flavors.form.entity (.obj members')).metrics =
        (Listing.flavors.form.entity (.obj members)).metrics ∧
      flavorMetrics (.obj members') = flavorMetrics (.obj members)) := by
  have hservers : Spec.servers.HasPlainFields := by decide
  have hflavors : Spec.flavors.HasPlainFields := by decide
  have hembedded : Spec.serverFlavors.HasPlainFields := by decide
  simp only [Form.entity_metrics]
  refine ⟨?_, ?_⟩
  · intro h
    exact Spec.project_congr hservers rfl hsame h
  · intro h
    exact ⟨Spec.project_congr hflavors rfl hsame h, Spec.project_congr hembedded rfl hsame h⟩

/-- A server that is running, with some metadata. -/
def serverWith (metadata : List (String × Json)) : List (String × Json) :=
  [("OS-EXT-STS:power_state", .int 1), ("id", .str "s"), ("metadata", .obj metadata)]

theorem sameAtTop_serverWith (metadata metadata' : List (String × Json)) :
    SameAtTop (serverWith metadata) (serverWith metadata') :=
  .cons ⟨rfl, .inl rfl⟩ (.cons ⟨rfl, .inl rfl⟩ (.cons ⟨rfl, .inr ⟨rfl, rfl⟩⟩ .nil))

/-- Two servers that differ in their metadata have the same state. -/
theorem metadata_unseen :
    (Form.server.entity (.obj (serverWith [("x:role", .str "web")]))).metrics =
      (Form.server.entity (.obj (serverWith [("power_state", .int 4)]))).metrics :=
  (nested_unseen (sameAtTop_serverWith _ _)).1 (by decide)

/-- The metadata of a server can set its power state. -/
theorem power_state_forged :
    ¬ ∀ members members', SameAtTop members members' →
      (Form.server.entity (.obj members')).metrics =
      (Form.server.entity (.obj members)).metrics := by
  intro h
  have heq := h _ _ (sameAtTop_serverWith [] [("x:power_state", .int 4)])
  have hstate := congrArg
    (fun figures => (figures.get? (Spec.servers.metricName "power_state")).map Float.toBits) heq
  revert hstate
  decide +kernel

end StackWatch
