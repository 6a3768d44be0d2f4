import Mathlib.Data.List.Basic
import StackWatch.Proofs.Rearranging

/-!
# The map of some items

The items of a collection become a map by their identifiers. `KeyMap.Indexes` says which: it has a
key for every identifier and no other, and under the key what the last item with that identifier
comes to. A map that is filled from a list of items is such a map (`KeyMap.indexes_ofList`), and so
is the one that a collection comes to, if all of its items can be identified
(`collect_of_identified`).
-/

namespace StackWatch

variable {α β : Type}

/-- The identifier of an item: its member `id`, if that is a text or a number. -/
def Json.id? (item : Json) : Option String :=
  match item.get? "id" with
  | some (.str id) => some id
  | some (.int n) => some (intText n)
  | some (.float x) => some (floatText x)
  | _ => none

/-- The last of some items that has a key. -/
def lastKeyed (key? : β → Option String) (key : String) (items : List β) : Option β :=
  (items.filter fun item => key? item = some key).getLast?

namespace KeyMap

/-- A map has the keys of some items, and under each what belongs to the last item that has it. -/
def Indexes (m : KeyMap α) (key? : β → Option String) (R : β → α → Prop) (items : List β) : Prop :=
  ∀ key, Option.Rel R (lastKeyed key? key items) (m.get? key)

variable {m : KeyMap α} {key? : β → Option String} {R S : β → α → Prop} {items : List β}

theorem Indexes.mono (h : m.Indexes key? R items) (hRS : ∀ item ∈ items, ∀ a, R item a → S item a) :
    m.Indexes key? S items := by
  intro key
  have hrel := h key
  have hmem : ∀ item ∈ lastKeyed key? key items, item ∈ items := by
    intro item hlast
    exact (List.mem_filter.1 (List.mem_of_getLast? hlast)).1
  generalize lastKeyed key? key items = last at hrel hmem
  generalize m.get? key = value at hrel
  cases hrel with
  | none => exact .none
  | some hR => exact .some (hRS _ (hmem _ rfl) _ hR)

/-- Where the values are those of the items, the map is known. -/
theorem Indexes.get?_eq {value : β → α} (h : m.Indexes key? (fun item a => a = value item) items)
    (key : String) : m.get? key = (lastKeyed key? key items).map value := by
  have hrel := h key
  generalize lastKeyed key? key items = last at hrel
  generalize m.get? key = a at hrel
  cases hrel with
  | none => rfl
  | some heq => rw [heq, Option.map_some]

/-- The keys are those of the items. -/
theorem Indexes.keys (h : m.Indexes key? R items) (key : String) :
    (m.get? key).isSome = true ↔ ∃ item ∈ items, key? item = some key := by
  have hlast : (lastKeyed key? key items).isSome = true ↔ ∃ item ∈ items, key? item = some key := by
    simp [lastKeyed]
  rw [← hlast]
  have hrel := h key
  generalize lastKeyed key? key items = last at hrel
  generalize m.get? key = value at hrel
  cases hrel with
  | none => exact Iff.rfl
  | some => exact ⟨fun _ => rfl, fun _ => rfl⟩

/-- Of entries that are made of items, the last with a key is that of the last item with the key. By
induction on the items. -/
theorem lastEntry_filterMap (key? : β → Option String) (value : β → α) (key : String)
    (items : List β) :
    lastEntry key (items.filterMap fun item => (key? item).map fun k => (k, value item)) =
      (lastKeyed key? key items).map value := by
  have hfilter : (items.filterMap fun item => (key? item).map fun k => (k, value item)).filter
      (fun e => e.1 = key) =
        (items.filter fun item => key? item = some key).map fun item => (key, value item) := by
    induction items with
    | nil => rfl
    | cons item rest ih =>
      cases hkey : key? item with
      | none => simp [hkey, ih]
      | some k =>
        by_cases heq : k = key
        · subst heq
          simp [hkey, ih]
        · simp [hkey, ih, heq]
  rw [lastEntry, hfilter, List.getLast?_map, lastKeyed, Option.map_map]
  rfl

/-- A map that is filled from a list of items. -/
theorem indexes_ofList (key? : β → Option String) (value : β → α) (items : List β) :
    (ofList (items.filterMap fun item => (key? item).map fun k => (k, value item))).Indexes key?
      (fun item a => a = value item) items := by
  intro key
  rw [get?_ofList, lastEntry_filterMap]
  cases lastKeyed key? key items with
  | none => exact .none
  | some item => exact .some rfl

end KeyMap

/-! ## Collections -/

variable {identify : Json → Except ApiError (Option String)} {entity : Json → Entity}
  {items : List Json}

/-- A collection whose items can all be identified comes to the map of their entities. -/
theorem collect_of_identified (h : ∀ item ∈ items, ∃ id, identify item = .ok id) :
    ∃ m, collect identify entity items = .ok m ∧
      m.Indexes (fun item => (identify item).toOption.join)
        (fun item e => e = entity item) items := by
  have hentries : ∀ item ∈ items,
      ∃ first, ((identify item).map (·.map fun id => (id, entity item))) = .ok first := by
    intro item hitem
    obtain ⟨id, hid⟩ := h item hitem
    exact ⟨_, by rw [hid]; rfl⟩
  refine ⟨_, ?_, KeyMap.indexes_ofList _ entity items⟩
  rw [collect, entriesOf_eq_gather, gather_of_forall_ok hentries]
  refine congrArg (fun entries => Except.ok (KeyMap.ofList entries)) (List.filterMap_congr ?_)
  intro item hitem
  obtain ⟨id, hid⟩ := h item hitem
  rw [hid]
  rfl

/-- A collection with an item that cannot be identified comes to nothing. -/
theorem collect_of_unidentified {item : Json} {e : ApiError} (hmem : item ∈ items)
    (h : identify item = .error e) : ∃ e', collect identify entity items = .error e' := by
  have hgather : ∃ e',
      gather (fun item => (identify item).map (·.map fun id => (id, entity item))) items =
      .error e' := by
    apply gather_of_error hmem
    rw [h]
    rfl
  obtain ⟨e', he'⟩ := hgather
  rw [collect, entriesOf_eq_gather, he']
  exact ⟨e', rfl⟩

/-- Every item has an identifier, or no collection can identify it by that. -/
theorem entityId_cases (url : String) (item : Json) :
    (∃ id, entityId url item = .ok id ∧ item.id? = some id) ∨
      (∃ e, entityId url item = .error e) ∧ item.id? = none := by
  unfold entityId Json.id?
  cases item.get? "id" with
  | none => exact .inr ⟨⟨_, rfl⟩, rfl⟩
  | some value =>
    cases value with
    | str _ | int _ | float _ => exact .inl ⟨_, rfl, rfl⟩
    | null | bool _ | arr _ | obj _ => exact .inr ⟨⟨_, rfl⟩, rfl⟩

/-- A collection that goes by identifiers comes to the map of all of its items, or to none. -/
theorem collect_id_cases (url : String) (entity : Json → Entity) (items : List Json) :
    ((∀ item ∈ items, item.id?.isSome = true) ∧
      ∃ m, collect (fun item => (entityId url item).map some) entity items = .ok m ∧
        m.Indexes Json.id? (fun item e => e = entity item) items) ∨
    (¬ ∀ item ∈ items, item.id?.isSome = true) ∧
      ∃ e, collect (fun item => (entityId url item).map some) entity items = .error e := by
  by_cases hall : ∀ item ∈ items, item.id?.isSome = true
  · have hidentified : ∀ item ∈ items, ∃ id, (entityId url item).map some = .ok id := by
      intro item hitem
      rcases entityId_cases url item with ⟨id, hok, -⟩ | ⟨-, hnone⟩
      · exact ⟨some id, by rw [hok]; rfl⟩
      · have hsome := hall item hitem
        rw [hnone] at hsome
        cases hsome
    have hkey : (fun item => ((entityId url item).map some).toOption.join) = Json.id? := by
      funext item
      rcases entityId_cases url item with ⟨id, hok, hid⟩ | ⟨⟨e, he⟩, hid⟩
      · rw [hok, hid]
        rfl
      · rw [he, hid]
        rfl
    obtain ⟨m, hm, hindexes⟩ := collect_of_identified hidentified
    exact .inl ⟨hall, m, hm, hkey ▸ hindexes⟩
  · refine .inr ⟨hall, ?_⟩
    obtain ⟨item, hitem⟩ := not_forall.1 hall
    obtain ⟨hmem, hmissing⟩ := Classical.not_imp.1 hitem
    rcases entityId_cases url item with ⟨id, -, hid⟩ | ⟨⟨e, he⟩, -⟩
    · rw [hid] at hmissing
      exact absurd rfl hmissing
    · exact collect_of_unidentified hmem (by rw [he]; rfl)

end StackWatch
