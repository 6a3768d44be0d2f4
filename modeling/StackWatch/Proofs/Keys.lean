import StackWatch.Proofs.Leaves
import StackWatch.Proofs.Nesting

/-!
# The common form of names

`snakeCase` decides at each capital, by its two neighbours, whether a word begins there. What it may
do to a name at all is `Respelled`: letters become small, hyphens become underscores, and an
underscore is put in only between two characters of which neither separates words already. A name in
the common form is left as it is (`snakeCase_idempotent`).

No word runs across a separator, so a name that is cut at one is brought into the common form part
by part (`snakeChars_append_cons`). Therefore a namespace may be dropped before or after
(`stripNamespace_snakeCase`) and a path may be joined before or after (`snakeCase_intercalate`).
-/

namespace StackWatch

/-- The characters that stand between words in a name. -/
def isSeparator (c : Char) : Bool := c = '.' || c = ':' || c = '-' || c = '_'

/-- What may be done to the characters of a name, given the one before them: each is made small
or, if it is a hyphen, an underscore, and a further underscore may be put between two of them
that are no separators. -/
inductive Respelled : Option Char → List Char → List Char → Prop where
  | nil {before : Option Char} : Respelled before [] []
  | keep {before : Option Char} {c : Char} {cs out : List Char} (h : Respelled (some c) cs out) :
      Respelled before (c :: cs) ((if c = '-' then '_' else c.toLower) :: out)
  | insert {p c : Char} {cs out : List Char} (hp : isSeparator p = false)
      (hc : isSeparator c = false)
      (h : Respelled (some c) cs out) :
      Respelled (some p) (c :: cs) ('_' :: c.toLower :: out)

/-! ## Single characters -/

section Characters

variable {c s : Char}

theorem isUpper_plainChar (c : Char) : (plainChar c).isUpper = false := by
  unfold plainChar
  split
  · rfl
  · exact isUpper_toLower c

theorem plainChar_ne_hyphen (c : Char) : plainChar c ≠ '-' := by
  unfold plainChar
  split
  · decide
  · next hc =>
    intro h
    exact hc (eq_of_toLower_eq rfl h)

/-- A character of the common form is one. -/
theorem plainChar_of_plain (hupper : c.isUpper = false) (hhyphen : c ≠ '-') : plainChar c = c := by
  rw [plainChar, if_neg hhyphen]
  rcases toLower_cases c with ⟨hcapital, -⟩ | ⟨-, hself⟩
  · cases hcapital.symm.trans hupper
  · exact hself

/-- Letters and digits are no separators. -/
theorem isSeparator_of_isAlphanum (h : c.isAlphanum = true) : isSeparator c = false := by
  by_contra hne
  simp only [isSeparator, Bool.not_eq_false, Bool.or_eq_true, decide_eq_true_eq] at hne
  rcases hne with ((rfl | rfl) | rfl) | rfl <;> cases h

/-- A word begins only after a letter or a digit. -/
theorem exists_of_beginsWord {before : Option Char} {after : List Char}
    (h : beginsWord before after = true) : ∃ p, before = some p ∧ p.isAlphanum = true := by
  cases before with
  | none => cases h
  | some p =>
    refine ⟨p, rfl, ?_⟩
    simp only [beginsWord, Bool.or_eq_true, Bool.and_eq_true] at h
    rcases h with (hlower | hdigit) | ⟨hupper, -⟩
    · exact isAlphanum_iff.2 (.inl (.inr hlower))
    · exact isAlphanum_iff.2 (.inr hdigit)
    · exact isAlphanum_iff.2 (.inl (.inl hupper))

end Characters

/-! ## What is done to a name -/

/-- The common form is a respelling. By induction on the characters, for all that
may stand before them. -/
theorem respelled_snakeChars (before : Option Char) (cs : List Char) :
    Respelled before cs (snakeChars before cs) := by
  induction cs generalizing before with
  | nil => exact .nil
  | cons c rest ih =>
    unfold snakeChars
    split
    · next hbegins =>
      obtain ⟨hupper, hword⟩ := Bool.and_eq_true_iff.1 hbegins
      obtain ⟨p, rfl, hp⟩ := exists_of_beginsWord hword
      have hc : isSeparator c = false :=
        isSeparator_of_isAlphanum (isAlphanum_iff.2 (.inl (.inl hupper)))
      have hhyphen : c ≠ '-' := by
        rintro rfl
        cases hupper
      rw [plainChar, if_neg hhyphen]
      exact .insert (isSeparator_of_isAlphanum hp) hc (ih _)
    · exact .keep (ih _)

namespace Respelled

variable {before : Option Char} {cs out : List Char}

theorem plain (h : Respelled before cs out) : ∀ c ∈ out, c.isUpper = false ∧ c ≠ '-' := by
  induction h with
  | nil => simp
  | keep _ ih => exact List.forall_mem_cons.2 ⟨⟨isUpper_plainChar _, plainChar_ne_hyphen _⟩, ih⟩
  | @insert p c _ _ _ hc _ ih =>
    have hhyphen : c ≠ '-' := by
      rintro rfl
      cases hc
    have hplain : plainChar c = c.toLower := if_neg hhyphen
    refine List.forall_mem_cons.2 ⟨by decide, List.forall_mem_cons.2 ⟨?_, ih⟩⟩
    rw [← hplain]
    exact ⟨isUpper_plainChar c, plainChar_ne_hyphen c⟩

/-- Without underscores and hyphens a name only becomes small. -/
theorem erased (h : Respelled before cs out) :
    out.filter (· ≠ '_') = (cs.map Char.toLower).filter fun c => c ≠ '-' ∧ c ≠ '_' := by
  induction h with
  | nil => rfl
  | @keep _ c _ _ _ ih =>
    rw [List.map_cons, List.filter_cons, List.filter_cons, ih]
    by_cases hc : c = '-'
    · subst hc
      rfl
    · have hlower : c.toLower ≠ '-' := fun heq => hc (eq_of_toLower_eq rfl heq)
      simp [hc, hlower]
  | @insert p c _ _ _ hc _ ih =>
    have hlower : c.toLower ≠ '-' := by
      intro heq
      rw [eq_of_toLower_eq rfl heq] at hc
      cases hc
    rw [List.map_cons, List.filter_cons, List.filter_cons, List.filter_cons, ih]
    simp [hlower]

end Respelled

/-- Characters of the common form are left as they are. -/
theorem snakeChars_of_plain {cs : List Char} (h : ∀ c ∈ cs, c.isUpper = false ∧ c ≠ '-') :
    ∀ before, snakeChars before cs = cs := by
  induction cs with
  | nil => exact fun _ => rfl
  | cons c rest ih =>
    intro before
    obtain ⟨⟨hupper, hhyphen⟩, hrest⟩ := List.forall_mem_cons.1 h
    rw [snakeChars, if_neg (by simp [hupper]), plainChar_of_plain hupper hhyphen, ih hrest]

theorem snakeCase_idempotent (name : String) : snakeCase (snakeCase name) = snakeCase name := by
  rw [snakeCase, snakeCase, String.toList_ofList,
    snakeChars_of_plain (respelled_snakeChars none name.toList).plain]

/-! ## Separators -/

section Separators

variable {s : Char}

/-- After a separator a name is spelled as at its start. -/
theorem snakeChars_some (hs : s.isAlphanum = false) (cs : List Char) :
    snakeChars (some s) cs = snakeChars none cs := by
  have hbegins : ∀ after, beginsWord (some s) after = false := by
    intro after
    by_contra h
    obtain ⟨p, hp, halnum⟩ := exists_of_beginsWord (Bool.not_eq_false _ ▸ h)
    cases hp
    rw [hs] at halnum
    cases halnum
  cases cs with
  | nil => rfl
  | cons c rest => rw [snakeChars, snakeChars, hbegins, beginsWord]

/-- Before a separator a word begins where it would at the end of the name. -/
theorem beginsWord_append_cons (hs : s.isLower = false) (before : Option Char) (xs ys : List Char) :
    beginsWord before (xs ++ s :: ys) = beginsWord before xs := by
  cases before with
  | none => rfl
  | some p =>
    cases xs with
    | nil => simp [beginsWord, hs]
    | cons x rest => rfl

/-- The parts of a name on the two sides of a separator do not see each other. By
induction on the first. -/
theorem snakeChars_append_cons (hs : s.isAlphanum = false) (before : Option Char)
    (xs ys : List Char) :
    snakeChars before (xs ++ s :: ys) = snakeChars before xs ++
      plainChar s :: snakeChars none ys := by
  have halpha : s.isAlpha = false := (Bool.or_eq_false_iff.1 hs).1
  obtain ⟨hupper, hlower⟩ := Bool.or_eq_false_iff.1 halpha
  induction xs generalizing before with
  | nil =>
    simp [snakeChars, hupper, snakeChars_some hs]
  | cons x rest ih =>
    rw [List.cons_append, snakeChars, snakeChars, beginsWord_append_cons hlower, ih]
    split
    · rfl
    · rfl

end Separators

/-- A name is brought into the common form part by part around a separator that stays as it is. -/
theorem snakeCase_append_separator {separator : String} {s : Char}
    (hseparator : separator.toList = [s]) (hs : s.isAlphanum = false)
    (hplain : plainChar s = s) (a b : String) :
    snakeCase (a ++ separator ++ b) = snakeCase a ++ separator ++ snakeCase b := by
  apply String.toList_injective
  have hsplit : (a ++ separator ++ b).toList = a.toList ++ s :: b.toList := by simp [hseparator]
  rw [snakeCase, String.toList_ofList, hsplit, snakeChars_append_cons hs]
  simp [snakeCase, hseparator, hplain]

/-! ## Namespaces and paths -/

theorem afterLast_of_not_mem {separator : Char} {cs : List Char} (h : separator ∉ cs) :
    afterLast separator cs = cs := by
  have hnothing : afterLast separator ([] ++ cs) = afterLast separator [] ++ cs :=
    afterLast_append_of_not_mem h
  simpa [afterLast] using hnothing

theorem afterLast_append_cons {separator : Char} {xs ys : List Char} (h : separator ∉ ys) :
    afterLast separator (xs ++ separator :: ys) = ys := by
  have hend : afterLast separator (xs ++ [separator]) = [] := by simp [afterLast]
  rw [List.append_cons, afterLast_append_of_not_mem h, hend, List.nil_append]

/-- A character splits a list at its last occurrence. -/
theorem exists_append_cons_of_mem {c : Char} {cs : List Char} (h : c ∈ cs) :
    ∃ xs ys, cs = xs ++ c :: ys ∧ c ∉ ys := by
  obtain ⟨ys, xs, hsplit, hfirst⟩ := List.eq_append_cons_of_mem (List.mem_reverse.2 h)
  refine ⟨xs.reverse, ys.reverse, ?_, by simpa using hfirst⟩
  rw [← List.reverse_reverse cs, hsplit]
  simp

theorem stripNamespace_snakeCase (name : String) :
    stripNamespace (snakeCase name) = snakeCase (stripNamespace name) := by
  rw [stripNamespace, stripNamespace, snakeCase, snakeCase, String.toList_ofList,
    String.toList_ofList]
  apply congrArg String.ofList
  by_cases hcolon : ':' ∈ name.toList
  · obtain ⟨xs, ys, hsplit, hys⟩ := exists_append_cons_of_mem hcolon
    have hys' : ':' ∉ snakeChars none ys := mt colon_mem_snakeChars.1 hys
    rw [hsplit, snakeChars_append_cons rfl, plainChar_colon, afterLast_append_cons hys',
      afterLast_append_cons hys]
  · have hcolon' : ':' ∉ snakeChars none name.toList := mt colon_mem_snakeChars.1 hcolon
    rw [afterLast_of_not_mem hcolon', afterLast_of_not_mem hcolon]

/-- A path may be joined before its names are brought into the common form. By
induction on the names. -/
theorem snakeCase_intercalate : ∀ path : List String,
    snakeCase (String.intercalate "." path) = String.intercalate "." (path.map snakeCase)
  | [] => rfl
  | [_] => by simp
  | first :: second :: rest => by
    rw [String.intercalate_cons_cons, snakeCase_append_separator rfl rfl rfl,
      snakeCase_intercalate (second :: rest)]
    simp only [List.map_cons, String.intercalate_cons_cons]

/-- The laws of the common form: it has no capital and no hyphen, the common form of a common form
is the same, a name is respelled only, and the separators of namespaces and of paths cut it into
parts that are brought into the common form each for itself. So it does not matter whether the
namespace is dropped before or after, nor whether a path is joined before or after, as it is when
the leaves of an object are named. -/
theorem snakeCase_lawful :
    (∀ name, ∀ c ∈ (snakeCase name).toList, c.isUpper = false ∧ c ≠ '-') ∧
    (∀ name, snakeCase (snakeCase name) = snakeCase name) ∧
    (∀ name, Respelled none name.toList (snakeCase name).toList) ∧
    (∀ name, (snakeCase name).toList.filter (· ≠ '_') =
      (name.toList.map Char.toLower).filter fun c => c ≠ '-' ∧ c ≠ '_') ∧
    (∀ a b, snakeCase (a ++ "." ++ b) = snakeCase a ++ "." ++ snakeCase b) ∧
    (∀ a b, snakeCase (a ++ ":" ++ b) = snakeCase a ++ ":" ++ snakeCase b) ∧
    (∀ name, stripNamespace (snakeCase name) = snakeCase (stripNamespace name)) ∧
    (∀ path, snakeCase (String.intercalate "." path) =
      String.intercalate "." (path.map snakeCase)) ∧
    ∀ object : Json, leaves object =
      object.leafPaths.map fun leaf => (snakeCase (String.intercalate "." leaf.1), leaf.2) := by
  have hrespelled : ∀ name, Respelled none name.toList (snakeCase name).toList := by
    intro name
    rw [snakeCase, String.toList_ofList]
    exact respelled_snakeChars none name.toList
  refine ⟨fun name => (hrespelled name).plain, snakeCase_idempotent, hrespelled,
    fun name => (hrespelled name).erased, snakeCase_append_separator rfl rfl rfl,
    snakeCase_append_separator rfl rfl rfl,
    stripNamespace_snakeCase, snakeCase_intercalate, fun object => ?_⟩
  simp only [Json.leaves_eq, Json.pathName, snakeCase_intercalate]

end StackWatch
