import Mathlib.Data.List.Pairwise
import StackWatch.Proofs.Ending

/-!
# Items in another order

A service may list the items of a collection in any order. Of a collection whose items are
told apart by their identifiers (`itemKey?`), the order cannot be seen in the map that it
becomes: all items become entries, and then the same, or one of them does not, and then there
is no map (`gather_rearranged`).

`Answer.SameItems` relates two answers of which the second lists items of the first in another
order. What is read of such answers, a collection or an object, differs in that order alone.
-/

namespace StackWatch

/-! ## Results of two sides -/

/-- Two values that are related, or an error on both sides, not necessarily the same. -/
inductive Both {α β : Type} (R : α → β → Prop) : Except ApiError α → Except ApiError β → Prop where
  | ok {a : α} {b : β} (h : R a b) : Both R (.ok a) (.ok b)
  | error (e e' : ApiError) : Both R (.error e) (.error e')

namespace Both

variable {α β γ δ : Type} {R : α → β → Prop} {S : γ → δ → Prop} {result : Except ApiError α}
  {result' : Except ApiError β}

theorem refl (result : Except ApiError α) : Both Eq result result := by
  cases result with
  | ok a => exact .ok rfl
  | error e => exact .error e e

theorem map {f : α → γ} {g : β → δ} (h : Both R result result')
    (hfg : ∀ a b, R a b → S (f a) (g b)) : Both S (result.map f) (result'.map g) := by
  cases h with
  | ok h => exact .ok (hfg _ _ h)
  | error e e' => exact .error e e'

theorem mono {S : α → β → Prop} (h : Both R result result') (hRS : ∀ a b, R a b → S a b) :
    Both S result result' := by
  cases h with
  | ok h => exact .ok (hRS _ _ h)
  | error e e' => exact .error e e'

theorem trans_eq {results : Except ApiError α} {results' results'' : Except ApiError α}
    (h : Both Eq results results') (h' : Both Eq results' results'') :
    Both Eq results results'' := by
  cases h with
  | ok heq =>
    subst heq
    exact h'
  | error e e' =>
    cases h' with
    | error _ e'' => exact .error e e''

/-- Where one side fails, the other does. -/
theorem error_of_error (h : Both R result result') {e : ApiError} (he : result = .error e) :
    ∃ e', result' = .error e' := by
  subst he
  cases h with
  | error _ e' => exact ⟨e', rfl⟩

end Both

/-! ## Identifiers of items -/

/-- The identifier of an item of the array under a member of an answer, if it has one: that by which
the queries that read the array enter the item. -/
def itemKey? (member : String) (item : Json) : Option String :=
  let id? := (entityId "" item).toOption
  match member with
  | "nodes" => ((item.get? "uuid").bind Json.str?).or id?
  | "conductors" => (item.get? "hostname").bind Json.str?
  | "amphora_stats" => (item.get? "listener_id").bind Json.str?
  | _ => id?

/-- No identifier is that of both items. -/
def Apart (member : String) (item item' : Json) : Prop :=
  ∀ id, itemKey? member item = some id → itemKey? member item' ≠ some id

instance (member : String) : Std.Symm (Apart member) := ⟨fun _ _ h id hid hid' => h id hid' hid⟩

/-- The items of an array in the same order, or in another one, if no two of
them share an identifier. -/
inductive Rearranged (member : String) (items : List Json) : List Json → Prop where
  | same : Rearranged member items items
  | moved {items' : List Json} (hperm : items'.Perm items)
      (hapart : items.Pairwise (Apart member)) :
      Rearranged member items items'

theorem eq_ok_of_map {α β : Type} {f : α → β} {result : Except ApiError α} {b : β}
    (h : result.map f = .ok b) : ∃ a, result = .ok a ∧ f a = b := by
  cases result with
  | error e => cases h
  | ok a => exact ⟨a, rfl, Except.ok.inj h⟩

/-- The URL that an item came from is of no account for its identifier. -/
theorem toOption_entityId (url : String) (item : Json) :
    (entityId url item).toOption = (entityId "" item).toOption := by
  unfold entityId
  split <;> rfl

theorem toOption_entityId_of_map {url id : String} {item : Json}
    (h : (entityId url item).map some = .ok (some id)) : (entityId "" item).toOption = some id := by
  obtain ⟨id', hid, heq⟩ := eq_ok_of_map h
  rw [← toOption_entityId url, hid, ← Option.some.inj heq]
  rfl

/-- A collection enters an item by its identifier. -/
theorem Listing.identify_eq_ok {l : Listing} {url id : String} {item : Json}
    (h : l.identify url item = .ok (some id)) : itemKey? l.member item = some id := by
  cases l with
  | nodes =>
    change ((item.get? "uuid").bind Json.str?).or _ = some id
    simp only [identify] at h
    cases huuid : (item.get? "uuid").bind Json.str? with
    | none =>
      rw [huuid] at h
      exact toOption_entityId_of_map h
    | some uuid =>
      rw [huuid] at h
      exact Except.ok.inj h
  | conductors => exact Except.ok.inj h
  | amphoraStatistics amphora =>
    simp only [identify] at h
    change (item.get? "listener_id").bind Json.str? = some id
    split at h
    · rename_i hlistener
      rw [hlistener]
      exact Except.ok.inj h
    · cases h
  | _ => exact toOption_entityId_of_map h

/-! ## From items to a map -/

section Gather

variable {entry entry' : Json → Except ApiError (Option (String × Entity))}

/-- The entries that items come to, each by itself, up to the first that fails. -/
def gather (entry : Json → Except ApiError (Option (String × Entity))) :
    List Json → Except ApiError (List (String × Entity))
  | [] => .ok []
  | item :: rest =>
    match entry item with
    | .error e => .error e
    | .ok first => (gather entry rest).map (first.toList ++ ·)

/-- If every item comes to an entry, or is passed over, the entries are those. -/
theorem gather_of_forall_ok :
    ∀ {items : List Json}, (∀ item ∈ items, ∃ first, entry item = .ok first) →
    gather entry items = .ok (items.filterMap fun item => (entry item).toOption.join)
  | [], _ => rfl
  | item :: rest, h => by
    obtain ⟨first, hfirst⟩ := h item (List.mem_cons_self ..)
    have hrest := gather_of_forall_ok fun item' hitem' => h item' (List.mem_cons_of_mem _ hitem')
    rw [gather, hfirst, hrest]
    cases first with
    | none => rw [List.filterMap_cons_none (by rw [hfirst]; rfl)]; rfl
    | some e => rw [List.filterMap_cons_some (by rw [hfirst]; rfl)]; rfl

/-- If an item fails, there are no entries. -/
theorem gather_of_error : ∀ {items : List Json} {item : Json} {e : ApiError}, item ∈ items →
    entry item = .error e → ∃ e', gather entry items = .error e'
  | first :: rest, item, e, hmem, he => by
    unfold gather
    cases hfirst : entry first with
    | error e' => exact ⟨e', rfl⟩
    | ok value =>
      rcases List.mem_cons.1 hmem with rfl | hmem
      · cases hfirst.symm.trans he
      · obtain ⟨e', hrest⟩ := gather_of_error hmem he
        rw [hrest]
        exact ⟨e', rfl⟩

/-- Items that come to the same on two sides, each by itself, do so together. -/
theorem gather_congr : ∀ {items : List Json}, (∀ item ∈ items, Both Eq (entry item) (entry' item)) →
    Both Eq (gather entry items) (gather entry' items)
  | [], _ => .ok rfl
  | item :: rest, h => by
    have hitem := h item (List.mem_cons_self ..)
    have hrest := gather_congr fun item' hitem' => h item' (List.mem_cons_of_mem _ hitem')
    unfold gather
    generalize entry item = first at hitem
    generalize entry' item = first' at hitem
    cases hitem with
    | error e e' => exact .error e e'
    | ok heq =>
      subst heq
      exact hrest.map fun _ _ heq => congrArg _ heq

/-- A map does not show in which order entries with different keys were put in. -/
theorem KeyMap.ofList_perm {α : Type} {entries entries' : List (String × α)}
    (hperm : entries'.Perm entries) (hkeys : entries.Pairwise (·.1 ≠ ·.1)) :
    KeyMap.ofList entries' = KeyMap.ofList entries := by
  have : Std.Symm fun a b : String × α => a.1 ≠ b.1 := ⟨fun _ _ => Ne.symm⟩
  refine (hperm.symm.foldl_eq' (fun a ha b hb m => ?_) _).symm
  by_cases hab : a = b
  · rw [hab]
  · have hne : a.1 ≠ b.1 := hkeys.forall ha hb hab
    refine ext_get? fun key => ?_
    simp only [get?_insert]
    by_cases hb : key = b.1
    · rw [if_pos hb, if_neg (fun ha => hne (ha.symm.trans hb)), if_pos hb]
    · rw [if_neg hb, if_neg hb]

/-- **Items in another order** become the same map, or none on either side. -/
theorem gather_rearranged {member : String} {items items' : List Json}
    (hkey : ∀ item id entity, entry item = .ok (some (id, entity)) → itemKey? member item = some id)
    (h : Rearranged member items items') :
    Both Eq ((gather entry items).map KeyMap.ofList) ((gather entry items').map KeyMap.ofList) := by
  cases h with
  | same => exact .refl _
  | moved hperm hapart =>
    by_cases hall : ∀ item ∈ items, ∃ first, entry item = .ok first
    · rw [gather_of_forall_ok hall,
        gather_of_forall_ok fun item hitem => hall item (hperm.subset hitem)]
      refine .ok (KeyMap.ofList_perm (hperm.filterMap _) ?_).symm
      refine hapart.filterMap _ fun item item' hitems e he e' he' heq => hitems e.1 ?_ ?_
      · exact hkey item e.1 e.2 (eq_of_toOption_join he)
      · exact heq ▸ hkey item' e'.1 e'.2 (eq_of_toOption_join he')
    · obtain ⟨item, hitem⟩ := not_forall.1 hall
      obtain ⟨hmem, hfails⟩ := Classical.not_imp.1 hitem
      cases hentry : entry item with
      | ok first => exact absurd ⟨first, hentry⟩ hfails
      | error e =>
        -- the item fails wherever it stands
        obtain ⟨e₁, h₁⟩ := gather_of_error hmem hentry
        obtain ⟨e₂, h₂⟩ := gather_of_error (hperm.symm.subset hmem) hentry
        rw [h₁, h₂]
        exact .error e₁ e₂

end Gather

/-- The entries of a collection are gathered. -/
theorem entriesOf_eq_gather (identify : Json → Except ApiError (Option String))
    (entity : Json → Entity) :
    ∀ items, entriesOf identify entity items =
      gather (fun item => (identify item).map (·.map fun id => (id, entity item))) items
  | [] => rfl
  | item :: rest => by
    unfold entriesOf gather
    rw [entriesOf_eq_gather identify entity rest]
    cases identify item with
    | error e => rfl
    | ok id =>
      cases gather _ rest with
      | error e => rfl
      | ok entries => cases id <;> rfl

variable {items items' : List Json}

theorem collect_rearranged {member : String} {identify : Json → Except ApiError (Option String)}
    (entity : Json → Entity) (hkey : ∀ item id, identify item = .ok (some id) →
      itemKey? member item = some id)
    (h : Rearranged member items items') :
    Both Eq (collect identify entity items) (collect identify entity items') := by
  rw [collect, collect, entriesOf_eq_gather, entriesOf_eq_gather]
  refine gather_rearranged (fun item id _ hitem => ?_) h
  obtain ⟨id?, hid, heq⟩ := eq_ok_of_map hitem
  obtain ⟨id', rfl, hid'⟩ := Option.map_eq_some_iff.1 heq
  obtain rfl : id' = id := congrArg Prod.fst hid'
  exact hkey item id' hid

/-- A collection in another order. -/
theorem Listing.collect_rearranged {l : Listing} (url : String)
    (h : Rearranged l.member items items') : Both Eq (l.collect url items) (l.collect url items') :=
  StackWatch.collect_rearranged _ (fun _ _ => identify_eq_ok) h

/-- Limits in another order. -/
theorem collectLimits_rearranged {array : String} (member url : String)
    (harray : ∀ item, itemKey? array item = (entityId "" item).toOption)
    (h : Rearranged array items items') :
    Both Eq (collectLimits member url items) (collectLimits member url items') := by
  refine StackWatch.collect_rearranged _ (fun item id hid => ?_) h
  rw [harray]
  exact toOption_entityId_of_map hid

/-! ## Answers -/

/-- What two bodies hold under a member: the same, or, where the order is free, the same items. -/
inductive SameUnder (member : String) (free : Prop) : Option Json → Option Json → Prop where
  | same (value : Option Json) : SameUnder member free value value
  | items {items items' : List Json} (hfree : free) (h : Rearranged member items items') :
      SameUnder member free (some (.arr items)) (some (.arr items'))

/-- Two answers that are the same, but for the order of the items under those
members where it is free. -/
inductive Answer.SameItems (free : String → Prop) : Answer → Answer → Prop where
  | same (a : Answer) : SameItems free a a
  | listed {status : Nat} {subjectToken : Option String} {value value' : Json} {elapsed : Nat}
      (h : ∀ member, SameUnder member (free member) (value.get? member) (value'.get? member)) :
      SameItems free (.response status subjectToken (.json value) elapsed)
        (.response status subjectToken (.json value') elapsed)

/-- Two responses of which the same can be read but for the order of items. -/
structure Response.SameItems (free : String → Prop) (r r' : Response) : Prop where
  elapsed : r'.elapsed = r.elapsed
  under : ∀ member, SameUnder member (free member) (r.body.get? member) (r'.body.get? member)

/-- Two values that stand for the same object: of two arrays neither has any member. -/
inductive SameObject : Json → Json → Prop where
  | same (value : Json) : SameObject value value
  | arrays (items items' : List Json) : SameObject (.arr items) (.arr items')

variable {free : String → Prop}

theorem HttpClient.receive_sameItems {a a' : Answer} (url : String) (h : a.SameItems free a') :
    Both (Response.SameItems free) (receive url a) (receive url a') := by
  cases h with
  | same =>
    cases receive url a with
    | ok response => exact .ok ⟨rfl, fun _ => .same _⟩
    | error e => exact .error e e
  | @listed status _ _ _ _ h =>
    unfold receive
    by_cases hfailure : isFailure status = true
    · simp only [if_pos hfailure]
      exact .error _ _
    · simp only [if_neg hfailure]
      exact .ok ⟨rfl, h⟩

namespace Response

variable {r r' : Response}

/-- The round trip is the same. -/
theorem SameItems.milliseconds (h : r.SameItems free r') : r'.milliseconds = r.milliseconds := by
  rw [Response.milliseconds, Response.milliseconds, h.elapsed]

/-- An array holds the same items, in the same order where that is not free. -/
theorem SameItems.array (h : r.SameItems free r') (member : String) :
    Both (fun items items' => items = items' ∨ free member ∧ Rearranged member items items')
      (r.array member) (r'.array member) := by
  have hunder := h.under member
  unfold Response.array field
  generalize r.body.get? member = value at hunder
  generalize r'.body.get? member = value' at hunder
  cases hunder with
  | items hfree h => exact .ok (.inr ⟨hfree, h⟩)
  | same =>
    cases value with
    | none => exact .error _ _
    | some value =>
      cases value with
      | arr items => exact .ok (.inl rfl)
      | _ => exact .error _ _

/-- What stands in the place of an object stands for the same one. -/
theorem SameItems.field (h : r.SameItems free r') (member : String) :
    Both SameObject (r.field member) (r'.field member) := by
  have hunder := h.under member
  unfold Response.field
  generalize r.body.get? member = value at hunder
  generalize r'.body.get? member = value' at hunder
  cases hunder with
  | items => exact .ok (.arrays _ _)
  | same =>
    cases value with
    | none => exact .error _ _
    | some value => exact .ok (.same value)

end Response

namespace SameObject

variable {value value' : Json}

theorem entityId (h : SameObject value value') (url : String) :
    entityId url value' = entityId url value := by
  cases h <;> rfl

theorem project (h : SameObject value value') (spec : Spec) (lens : Lens) :
    spec.project lens value' = spec.project lens value := by
  cases h <;> rfl

theorem getOrNull (h : SameObject value value') (name : String) :
    value'.getOrNull name = value.getOrNull name := by
  cases h <;> rfl

/-- A form without derived attributes. -/
theorem entity_plain (h : SameObject value value') (attributes : List String) (spec : Spec) :
    (Form.plain attributes spec).entity value' = (Form.plain attributes spec).entity value := by
  cases h <;> rfl

end SameObject

end StackWatch
