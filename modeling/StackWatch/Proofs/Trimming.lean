import Mathlib.Data.List.DropRight
import StackWatch.Session.Basic

/-!
# The keystone URL of an accepted configuration

A configuration is validated where its file is read and again where a session begins, so a keystone
URL that has been trimmed should stay as it is when it is trimmed once more. Each end is trimmed
once: blanks at both ends, then slashes at the end. That is enough as long as the slashes do not
stand behind a blank. Where they do (`HidesBlank`), the blank comes to the end of the URL and the
next validation goes on trimming.

`Config.validate_normalizes` says what validation settles, and that this is the only exception.
-/

namespace StackWatch

namespace Text

variable {p : Char → Bool} {cs ends : List Char}

theorem dropTail_eq_rdropWhile (p : Char → Bool) (cs : List Char) :
    dropTail p cs = cs.rdropWhile p := rfl

theorem dropTail_isPrefix (p : Char → Bool) (cs : List Char) : dropTail p cs <+: cs :=
  List.rdropWhile_prefix p cs

/-- What stands at the end and is dropped is of no account. -/
theorem dropTail_append (h : ∀ c ∈ ends, p c = true) : dropTail p (cs ++ ends) = dropTail p cs := by
  rw [dropTail, List.reverse_append, List.dropWhile_append_of_pos, dropTail]
  simpa using h

/-- Nothing is dropped from a text that does not end in `p`. -/
theorem dropTail_eq_self_iff : dropTail p cs = cs ↔ ∀ c, cs.getLast? = some c → p c = false := by
  constructor
  · intro h c hc
    exact not_of_getLast?_dropTail (by rw [h]; exact hc)
  · intro h
    rcases cs.eq_nil_or_concat' with rfl | ⟨before, c, rfl⟩
    · rfl
    · have hc : p c = false := h c (by simp)
      rw [dropTail_eq_rdropWhile, List.rdropWhile_concat_neg p before c (by simp [hc])]

/-- The beginning of a text begins as the text does. -/
theorem head?_of_isPrefix {start whole : List Char} {c : Char} (h : start <+: whole)
    (hc : start.head? = some c) : whole.head? = some c := by
  obtain ⟨rest, rfl⟩ := h
  cases start with
  | nil => cases hc
  | cons first more => exact hc

/-- A trimmed text does not begin with a blank. -/
theorem not_isBlank_of_head?_trimChars {c : Char} (h : (trimChars cs).head? = some c) :
    isBlank c = false := by
  have hhead := head?_of_isPrefix (dropTail_isPrefix isBlank (cs.dropWhile isBlank)) h
  have hnot := List.head?_dropWhile_not isBlank cs
  rw [hhead] at hnot
  simpa using hnot

/-- To trim a text that begins with no blank is to drop those at its end. -/
theorem trimChars_of_head? (h : ∀ c, cs.head? = some c → isBlank c = false) :
    trimChars cs = dropTail isBlank cs := by
  cases cs with
  | nil => rfl
  | cons first rest => simp [trimChars, h first rfl]

end Text

open Text

namespace Config

/-- A blank stands before the slashes at the end of a text, blanks around the whole apart. -/
def HidesBlank (url : String) : Prop :=
  ∃ before blank slashes, trimChars url.toList = before ++ blank :: slashes ∧ isBlank blank = true ∧
    ∀ c ∈ slashes, c = '/'

variable {url : String} {c c' : Config}

theorem toList_trimUrl (url : String) :
    (trimUrl url).toList = dropTail (· == '/') (trimChars url.toList) := by
  simp [trimUrl]

/-- A trimmed URL begins with no blank. -/
theorem not_isBlank_of_head?_trimUrl {first : Char} (h : (trimUrl url).toList.head? = some first) :
    isBlank first = false := by
  rw [toList_trimUrl] at h
  exact not_isBlank_of_head?_trimChars (head?_of_isPrefix (dropTail_isPrefix _ _) h)

/-- A trimmed URL does not end in a slash. -/
theorem getLast?_trimUrl_ne (url : String) : (trimUrl url).toList.getLast? ≠ some '/' := by
  intro h
  rw [toList_trimUrl] at h
  have hnot := not_of_getLast?_dropTail h
  simp at hnot

/-- A trimmed URL ends in a blank where one stood before the slashes. -/
theorem getLast?_trimUrl_isBlank_iff :
    (∃ last, (trimUrl url).toList.getLast? = some last ∧ isBlank last = true) ↔ HidesBlank url := by
  rw [toList_trimUrl]
  constructor
  · rintro ⟨last, hlast, hblank⟩
    obtain ⟨before, hbefore⟩ := List.getLast?_eq_some_iff.1 hlast
    refine ⟨before, last, (trimChars url.toList).rtakeWhile (· == '/'), ?_, hblank, ?_⟩
    · have hsplit := List.rdropWhile_append_rtakeWhile (p := (· == '/')) (l := trimChars url.toList)
      rw [← dropTail_eq_rdropWhile, hbefore] at hsplit
      simpa using hsplit.symm
    · intro c hc
      simpa using List.mem_rtakeWhile_imp hc
  · rintro ⟨before, blank, slashes, hsplit, hblank, hslashes⟩
    have hkept : dropTail (· == '/') (trimChars url.toList) = before ++ [blank] := by
      have hne : blank ≠ '/' := by
        rintro rfl
        exact absurd hblank (by decide)
      rw [hsplit, List.append_cons, dropTail_append (by simpa using hslashes), dropTail_eq_self_iff]
      simpa using hne
    exact ⟨blank, by simp [hkept], hblank⟩

/-- A trimmed URL stays as it is if it does not end in a blank, and only then. -/
theorem trimUrl_trimUrl_iff : trimUrl (trimUrl url) = trimUrl url ↔ ¬ HidesBlank url := by
  have hhead : trimChars (trimUrl url).toList = dropTail isBlank (trimUrl url).toList :=
    trimChars_of_head? fun _ => not_isBlank_of_head?_trimUrl
  rw [← String.toList_inj, toList_trimUrl (trimUrl url), hhead, ← getLast?_trimUrl_isBlank_iff]
  have hslash := getLast?_trimUrl_ne url
  generalize (trimUrl url).toList = cs at hslash
  constructor
  · -- if both trims leave the text alone, so does the first of them
    rintro h ⟨last, hlast, hblank⟩
    have hwhole : dropTail isBlank cs = cs := by
      apply (dropTail_isPrefix isBlank cs).eq_of_length_le
      calc cs.length = (dropTail (· == '/') (dropTail isBlank cs)).length := by rw [h]
        _ ≤ (dropTail isBlank cs).length := (dropTail_isPrefix _ _).length_le
    rw [dropTail_eq_self_iff.1 hwhole last hlast] at hblank
    cases hblank
  · intro h
    have hblanks : dropTail isBlank cs = cs := by
      rw [dropTail_eq_self_iff]
      intro last hlast
      by_contra hblank
      exact h ⟨last, hlast, by simpa using hblank⟩
    rw [hblanks, dropTail_eq_self_iff]
    intro last hlast
    have hne : last ≠ '/' := by
      rintro rfl
      exact hslash hlast
    simpa using hne

/-- What it takes for a configuration to be accepted, and what is accepted in its place. -/
theorem validate_eq_ok_iff : c.validate = .ok c' ↔
    trimUrl c.keystoneUrl ≠ "" ∧ trim c.username ≠ "" ∧
      c' = { c with keystoneUrl := trimUrl c.keystoneUrl } := by
  unfold validate
  split
  · next hempty => simp [hempty]
  · next hurl =>
    split
    · next hempty => simp [hempty]
    · next huser => simp [hurl, huser, eq_comm]

/-- What validation settles. -/
structure Normalized (c c' : Config) : Prop where
  /-- nothing but the URL is touched -/
  others : c' = { c with keystoneUrl := c'.keystoneUrl }
  nonempty : c'.keystoneUrl ≠ ""
  not_blank_first : ∀ first, c'.keystoneUrl.toList.head? = some first → isBlank first = false
  not_slash_last : c'.keystoneUrl.toList.getLast? ≠ some '/'
  not_blank_last : (∀ last, c'.keystoneUrl.toList.getLast? = some last → isBlank last = false) ↔
    ¬ HidesBlank c.keystoneUrl
  /-- to validate once more changes nothing -/
  again : c'.validate = .ok c' ↔ ¬ HidesBlank c.keystoneUrl
  /-- a session that begins with what was accepted keeps to it -/
  kept : ∀ s, Session.new c' = .ok s → (s.config = c' ↔ ¬ HidesBlank c.keystoneUrl)

/-- A session is configured with what validation makes of its configuration. -/
theorem validate_of_new {s : Session} (h : Session.new c = .ok s) : c.validate = .ok s.config := by
  unfold Session.new at h
  split at h
  · cases h
  · split at h
    · cases h
    · rename_i hvalid _ _ _
      rw [← Except.ok.inj h, hvalid]

/-- **Validation normalizes the keystone URL**, but for a blank that the slashes at its end hide. -/
theorem validate_normalizes (h : c.validate = .ok c') : Normalized c c' := by
  obtain ⟨hurl, huser, rfl⟩ := validate_eq_ok_iff.1 h
  have hagain : Config.validate { c with keystoneUrl := trimUrl c.keystoneUrl } =
      .ok { c with keystoneUrl := trimUrl c.keystoneUrl } ↔ ¬ HidesBlank c.keystoneUrl := by
    rw [validate_eq_ok_iff, ← trimUrl_trimUrl_iff]
    constructor
    · rintro ⟨-, -, heq⟩
      exact (congrArg keystoneUrl heq).symm
    · intro heq
      simp [heq, hurl, huser]
  refine ⟨rfl, hurl, fun _ => not_isBlank_of_head?_trimUrl, getLast?_trimUrl_ne _, ?_, hagain, ?_⟩
  · rw [← getLast?_trimUrl_isBlank_iff]
    simp
  · intro s hs
    have hconfig := validate_of_new hs
    rw [← hagain, hconfig]
    simp

/-- A URL with blanks around it and slashes behind it, which are both gone after one validation. -/
theorem validate_normalizes_surrounded :
    let c : Config :=
      { Config.schema.blank with keystoneUrl := " http://keystone// ", username := "admin" }
    let c' : Config := { c with keystoneUrl := "http://keystone" }
    c.validate = .ok c' ∧ Normalized c c' :=
  have h : Config.validate
      { Config.schema.blank with keystoneUrl := " http://keystone// ", username := "admin" } =
      .ok { Config.schema.blank with keystoneUrl := "http://keystone", username := "admin" } := by
    decide +kernel
  ⟨h, validate_normalizes h⟩

/-- A blank before the last slash is left at the end, and goes with the next validation. -/
theorem validate_not_stable : ¬ ∀ c c' : Config, c.validate = .ok c' → c'.validate = .ok c' := by
  intro h
  have hagain := h { Config.schema.blank with keystoneUrl := "http://a /", username := "admin" }
    { Config.schema.blank with keystoneUrl := "http://a ", username := "admin" } (by decide +kernel)
  revert hagain
  decide +kernel

end Config

end StackWatch
