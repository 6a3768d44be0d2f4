/-!
# Maps keyed by text

`KeyMap α` is a finite map from text to `α` whose entries are kept in the order of their keys
(code point by code point, which is also the order of the keys' UTF-8 bytes). Whatever is keyed by
name or id — attributes, metrics, entities — is walked in that order, so a map shows nothing of the
order in which it was filled.

The order is a field of the type: `ordered`. Main statements: `get?_insert` says what an insertion
does to the view `get?`, `get?_ofList` and `get?_union` what filling and joining maps do, and
`ext_get?` that the view determines the map.
-/

namespace StackWatch

variable {α : Type}

/-- The value of the first entry with a key. -/
def findEntry (key : String) : List (String × α) → Option α
  | [] => none
  | (k, v) :: rest => if key = k then some v else findEntry key rest

/-- Puts an entry at its place in a list that is ordered by key, replacing an entry of that key. -/
def insertEntry (key : String) (value : α) : List (String × α) → List (String × α)
  | [] => [(key, value)]
  | (k, v) :: rest =>
    if key = k then (key, value) :: rest
    else if key < k then (key, value) :: (k, v) :: rest
    else (k, v) :: insertEntry key value rest

theorem lt_of_not_lt_of_ne {a b : String} (h : ¬ a < b) (hne : a ≠ b) : b < a := by
  rcases String.le_total a b with hab | hba
  · exact absurd (String.le_antisymm hab (String.not_lt.1 h)) hne
  · exact String.not_le.1 fun hle => hne (String.le_antisymm hle hba)

theorem mem_insertEntry {key : String} {value : α} {entry : String × α} :
    ∀ {entries : List (String × α)}, entry ∈ insertEntry key value entries →
      entry = (key, value) ∨ entry ∈ entries
  | [], h => by simpa [insertEntry] using h
  | (k, v) :: rest, h => by
    unfold insertEntry at h
    split at h
    · rcases List.mem_cons.1 h with h | h
      · exact .inl h
      · exact .inr (List.mem_cons_of_mem _ h)
    · split at h
      · rcases List.mem_cons.1 h with h | h
        · exact .inl h
        · exact .inr h
      · rcases List.mem_cons.1 h with h | h
        · exact .inr (h ▸ List.mem_cons_self ..)
        · rcases mem_insertEntry h with h | h
          · exact .inl h
          · exact .inr (List.mem_cons_of_mem _ h)

/-- Inserting keeps a list ordered by key. -/
theorem ordered_insertEntry (key : String) (value : α) :
    ∀ {entries : List (String × α)}, entries.Pairwise (fun a b => a.1 < b.1) →
      (insertEntry key value entries).Pairwise (fun a b => a.1 < b.1)
  | [], _ => by simp [insertEntry]
  | (k, v) :: rest, h => by
    obtain ⟨hk, hrest⟩ := List.pairwise_cons.1 h
    unfold insertEntry
    split
    · rename_i heq
      subst heq
      exact List.pairwise_cons.2 ⟨hk, hrest⟩
    · rename_i hne
      split
      · rename_i hlt
        refine List.pairwise_cons.2 ⟨fun b hb => ?_, h⟩
        rcases List.mem_cons.1 hb with rfl | hb
        · exact hlt
        · exact String.lt_trans hlt (hk b hb)
      · rename_i hnlt
        refine List.pairwise_cons.2 ⟨fun b hb => ?_, ordered_insertEntry key value hrest⟩
        rcases mem_insertEntry hb with rfl | hb
        · exact lt_of_not_lt_of_ne hnlt hne
        · exact hk b hb

/-- A finite map from text to `α`, its entries in the order of their keys. -/
structure KeyMap (α : Type) where
  /-- the entries, in key order -/
  entries : List (String × α)
  /-- keys increase strictly, so no key occurs twice -/
  ordered : entries.Pairwise fun a b => a.1 < b.1

namespace KeyMap

/-- The map with no entries. -/
def empty : KeyMap α := ⟨[], .nil⟩

instance : EmptyCollection (KeyMap α) := ⟨empty⟩

instance : Inhabited (KeyMap α) := ⟨empty⟩

/-- Sets one key, replacing its previous value. -/
def insert (m : KeyMap α) (key : String) (value : α) : KeyMap α :=
  ⟨insertEntry key value m.entries, ordered_insertEntry key value m.ordered⟩

/-- The value under a key, if there is one. -/
def get? (m : KeyMap α) (key : String) : Option α := findEntry key m.entries

/-- How many keys there are. -/
def size (m : KeyMap α) : Nat := m.entries.length

/-- The keys, in order. -/
def keys (m : KeyMap α) : List String := m.entries.map (·.1)

/-- The values, in the order of their keys. -/
def values (m : KeyMap α) : List α := m.entries.map (·.2)

/-- Sets every key of a list in turn, so that of two entries with one key the later counts. -/
def insertMany (m : KeyMap α) (entries : List (String × α)) : KeyMap α :=
  entries.foldl (fun m entry => m.insert entry.1 entry.2) m

/-- The map of a list of entries; of two with one key the later counts. -/
def ofList (entries : List (String × α)) : KeyMap α := (empty : KeyMap α).insertMany entries

/-- Two maps in one; where both have a key, the second counts. -/
def union (m n : KeyMap α) : KeyMap α := m.insertMany n.entries

/-! ## The view `get?` -/

@[simp] theorem get?_empty (key : String) : (empty : KeyMap α).get? key = none := rfl

theorem findEntry_insertEntry (key : String) (value : α) (k : String) :
    ∀ entries : List (String × α),
      findEntry k (insertEntry key value entries) =
        if k = key then some value else findEntry k entries
  | [] => by by_cases h : k = key <;> simp [insertEntry, findEntry, h]
  | (k', v') :: rest => by
    have ih := findEntry_insertEntry key value k rest
    unfold insertEntry
    split
    · rename_i heq
      subst heq
      by_cases h : k = key <;> simp [findEntry, h]
    · rename_i hne
      split
      · by_cases h : k = key <;> simp [findEntry, h]
      · simp only [findEntry, ih]
        by_cases h : k = k'
        · subst h
          simp [Ne.symm hne]
        · simp [h]

/-- An insertion sets its own key and leaves every other key alone. -/
@[simp] theorem get?_insert (m : KeyMap α) (key k : String) (value : α) :
    (m.insert key value).get? k = if k = key then some value else m.get? k :=
  findEntry_insertEntry key value k m.entries

theorem mem_of_findEntry {key : String} {value : α} :
    ∀ {entries : List (String × α)}, findEntry key entries = some value → (key, value) ∈ entries
  | (k, v) :: rest, h => by
    unfold findEntry at h
    split at h
    · rename_i heq
      subst heq
      obtain rfl := Option.some.inj h
      exact List.mem_cons_self ..
    · exact List.mem_cons_of_mem _ (mem_of_findEntry h)

/-- What stands under a key is an entry. -/
theorem mem_of_get? {m : KeyMap α} {key : String} {value : α} (h : m.get? key = some value) :
    (key, value) ∈ m.entries := mem_of_findEntry h

theorem findEntry_eq_none_of_lt {k : String} :
    ∀ {entries : List (String × α)}, (∀ b ∈ entries, k < b.1) → findEntry k entries = none
  | [], _ => rfl
  | (k', v') :: rest, h => by
    have hlt : k < k' := h _ (List.mem_cons_self ..)
    have hne : k ≠ k' := fun he => String.lt_irrefl k (he ▸ hlt)
    rw [findEntry, if_neg hne]
    exact findEntry_eq_none_of_lt fun b hb => h b (List.mem_cons_of_mem _ hb)

/-- The first key of an ordered list is not above a key that the list holds. -/
theorem not_lt_of_findEntry {k k' : String} {v v' : α} {rest : List (String × α)}
    (hrest : ∀ b ∈ rest, k' < b.1) (h : findEntry k ((k', v') :: rest) = some v) : ¬ k < k' := by
  intro hlt
  rw [findEntry_eq_none_of_lt fun b hb => ?_] at h
  · cases h
  · rcases List.mem_cons.1 hb with rfl | hb
    · exact hlt
    · exact String.lt_trans hlt (hrest b hb)

/-- Ordered lists of entries with the same view are the same list. -/
theorem entries_eq_of_findEntry :
    ∀ {l₁ l₂ : List (String × α)}, l₁.Pairwise (fun a b => a.1 < b.1) →
      l₂.Pairwise (fun a b => a.1 < b.1) → (∀ k, findEntry k l₁ = findEntry k l₂) → l₁ = l₂
  | [], [], _, _, _ => rfl
  | [], (k, v) :: r, _, _, h => by simpa [findEntry] using h k
  | (k, v) :: r, [], _, _, h => by simpa [findEntry] using h k
  | (k₁, v₁) :: r₁, (k₂, v₂) :: r₂, h₁, h₂, h => by
    obtain ⟨hk₁, hr₁⟩ := List.pairwise_cons.1 h₁
    obtain ⟨hk₂, hr₂⟩ := List.pairwise_cons.1 h₂
    have hself₁ : findEntry k₁ ((k₁, v₁) :: r₁) = some v₁ := by simp [findEntry]
    have hself₂ : findEntry k₂ ((k₂, v₂) :: r₂) = some v₂ := by simp [findEntry]
    have hkeys : k₁ = k₂ :=
      String.le_antisymm
        (String.not_lt.1 (not_lt_of_findEntry hk₁ ((h k₂).trans hself₂)))
        (String.not_lt.1 (not_lt_of_findEntry hk₂ ((h k₁).symm.trans hself₁)))
    subst hkeys
    have hvals : v₁ = v₂ := Option.some.inj (hself₁.symm.trans ((h k₁).trans hself₂))
    subst hvals
    refine congrArg _ (entries_eq_of_findEntry hr₁ hr₂ fun k => ?_)
    by_cases hk : k = k₁
    · subst hk
      rw [findEntry_eq_none_of_lt hk₁, findEntry_eq_none_of_lt hk₂]
    · simpa [findEntry, hk] using h k

/-- A map is determined by its view. -/
theorem ext_get? {m n : KeyMap α} (h : ∀ k, m.get? k = n.get? k) : m = n := by
  obtain ⟨l₁, h₁⟩ := m
  obtain ⟨l₂, h₂⟩ := n
  obtain rfl : l₁ = l₂ := entries_eq_of_findEntry h₁ h₂ h
  rfl

/-! ## Maps that are filled from lists -/

@[simp] theorem insertMany_nil (m : KeyMap α) : m.insertMany [] = m := rfl

@[simp] theorem insertMany_cons (m : KeyMap α) (entry : String × α) (rest : List (String × α)) :
    m.insertMany (entry :: rest) = (m.insert entry.1 entry.2).insertMany rest := rfl

/-- The value of the last entry with a key. -/
def lastEntry (key : String) (entries : List (String × α)) : Option α :=
  (entries.filter fun e => e.1 = key).getLast?.map (·.2)

theorem lastEntry_cons (key : String) (entry : String × α) (rest : List (String × α)) :
    lastEntry key (entry :: rest) =
      (lastEntry key rest).or (if key = entry.1 then some entry.2 else none) := by
  by_cases h : key = entry.1
  · subst h
    simp only [lastEntry, List.filter_cons, decide_true, if_true, List.getLast?_cons]
    cases (rest.filter fun e => e.1 = entry.1).getLast? <;> rfl
  · have hne : ¬ entry.1 = key := fun heq => h heq.symm
    simp [lastEntry, h, hne]

/-- Setting many keys sets each to its last entry. By induction on the entries. -/
theorem get?_insertMany (key : String) :
    ∀ (entries : List (String × α)) (m : KeyMap α),
      (m.insertMany entries).get? key = (lastEntry key entries).or (m.get? key)
  | [], m => rfl
  | entry :: rest, m => by
    rw [insertMany_cons, get?_insertMany key rest, get?_insert, lastEntry_cons]
    cases lastEntry key rest <;> by_cases h : key = entry.1 <;> simp [h]

theorem get?_ofList (key : String) (entries : List (String × α)) :
    (ofList entries).get? key = lastEntry key entries := by
  rw [ofList, get?_insertMany, get?_empty, Option.or_none]

/-- Where no key occurs twice, the last entry of a key is its first. -/
theorem lastEntry_eq_findEntry (key : String) :
    ∀ {entries : List (String × α)}, entries.Pairwise (fun a b => a.1 < b.1) →
      lastEntry key entries = findEntry key entries
  | [], _ => rfl
  | (k, v) :: rest, h => by
    obtain ⟨hk, hrest⟩ := List.pairwise_cons.1 h
    rw [lastEntry_cons, lastEntry_eq_findEntry key hrest, findEntry]
    by_cases heq : key = k
    · subst heq
      simp [findEntry_eq_none_of_lt hk]
    · simp [heq]

/-- In a union, the second map counts before the first. -/
theorem get?_union (m n : KeyMap α) (key : String) :
    (m.union n).get? key = (n.get? key).or (m.get? key) := by
  rw [union, get?_insertMany, lastEntry_eq_findEntry key n.ordered]
  rfl

end KeyMap

end StackWatch
