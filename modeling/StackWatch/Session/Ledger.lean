import StackWatch.KeyMap

/-!
# The ledger of read URLs

Within one run a collection is read once: its URL is entered in a `Ledger`, and a URL that is there
is not asked for again. The ledger keeps its entries twice, in the order in which they were made and
as the keys of a map in which a URL is looked up. That both are the same URLs, and that none is
entered twice, is part of the type.
-/

namespace StackWatch

/-- The URLs read so far. -/
structure Ledger where
  /-- in order -/
  urls : List String
  /-- the same URLs, to look them up -/
  seen : KeyMap Unit
  /-- no URL is entered twice -/
  nodup : urls.Nodup
  agree : ∀ url, (seen.get? url).isSome = true ↔ url ∈ urls

namespace Ledger

/-- The ledger without entries. -/
def empty : Ledger := ⟨[], .empty, .nil, by simp⟩

instance : Inhabited Ledger := ⟨empty⟩

/-- Whether a URL is entered. -/
def contains (l : Ledger) (url : String) : Bool := (l.seen.get? url).isSome

/-- How many URLs are entered. -/
def size (l : Ledger) : Nat := l.urls.length

theorem contains_iff {l : Ledger} {url : String} : l.contains url = true ↔ url ∈ l.urls :=
  l.agree url

theorem not_mem_of_not_contains {l : Ledger} {url : String} (h : ¬ l.contains url = true) :
    url ∉ l.urls := fun hmem => h (contains_iff.2 hmem)

theorem nodup_append_singleton {urls : List String} {url : String} (hnodup : urls.Nodup)
    (h : url ∉ urls) : (urls ++ [url]).Nodup := by
  refine List.nodup_append.2 ⟨hnodup, by simp, fun a ha b hb => ?_⟩
  rw [List.mem_singleton.1 hb]
  rintro rfl
  exact h ha

theorem agree_insert (l : Ledger) (url u : String) :
    ((l.seen.insert url ()).get? u).isSome = true ↔ u ∈ l.urls ++ [url] := by
  rw [KeyMap.get?_insert, List.mem_append, List.mem_singleton]
  by_cases hu : u = url
  · simp [hu]
  · rw [if_neg hu, l.agree u]
    simp [hu]

/-- Enters a URL at the end, unless it is there already. -/
def insert (l : Ledger) (url : String) : Ledger :=
  if h : l.contains url = true then l
  else
    { urls := l.urls ++ [url]
      seen := l.seen.insert url ()
      nodup := nodup_append_singleton l.nodup (not_mem_of_not_contains h)
      agree := l.agree_insert url }

/-- Entering a URL that is there changes nothing. -/
theorem insert_of_mem {l : Ledger} {url : String} (h : url ∈ l.urls) : l.insert url = l := by
  simp [insert, contains_iff.2 h]

/-- Entering a new URL puts it at the end. -/
theorem urls_insert_of_not_mem {l : Ledger} {url : String} (h : url ∉ l.urls) :
    (l.insert url).urls = l.urls ++ [url] := by
  have hnew : ¬ l.contains url = true := fun hc => h (contains_iff.1 hc)
  simp [insert, hnew]

theorem mem_urls_insert {l : Ledger} {url u : String} :
    u ∈ (l.insert url).urls ↔ u ∈ l.urls ∨ u = url := by
  by_cases h : url ∈ l.urls
  · rw [insert_of_mem h]
    constructor
    · exact .inl
    · rintro (hu | rfl)
      · exact hu
      · exact h
  · rw [urls_insert_of_not_mem h]
    simp

end Ledger

end StackWatch
