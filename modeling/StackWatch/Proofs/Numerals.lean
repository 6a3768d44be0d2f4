import Mathlib.Data.List.TakeWhile
import StackWatch.Decimal.Reading

/-!
# Numerals

What a text spells as a number is a matter of its form: a sign or none, and then a magnitude,
which is digits around a point with a power of ten behind them, or a word for what is no real
number (`Magnitude`). The reader takes a text apart from the front, and it finds that form
wherever there is one (`parse?_eq_some_iff`): digits end where no digit follows, so the parts of a
numeral can be told from each other.
-/

namespace StackWatch

/-! ## Letters in either case -/

theorem isUpper_iff_toNat {c : Char} : c.isUpper = true ↔ 65 ≤ c.toNat ∧ c.toNat ≤ 90 :=
  decide_eq_true_iff.trans (and_congr UInt32.le_iff_toNat_le UInt32.le_iff_toNat_le)

theorem isLower_iff_toNat {c : Char} : c.isLower = true ↔ 97 ≤ c.toNat ∧ c.toNat ≤ 122 :=
  (Bool.and_eq_true_iff.trans (and_congr decide_eq_true_iff decide_eq_true_iff)).trans
    (and_congr UInt32.le_iff_toNat_le UInt32.le_iff_toNat_le)

theorem isAlphanum_iff {c : Char} :
    c.isAlphanum = true ↔ (c.isUpper = true ∨ c.isLower = true) ∨ c.isDigit = true :=
  Bool.or_eq_true_iff.trans (or_congr_left Bool.or_eq_true_iff)

/-- A capital becomes a small letter, and every other character stays as it is. -/
theorem toLower_cases (c : Char) :
    c.isUpper = true ∧ c.toLower.isLower = true ∨ c.isUpper = false ∧ c.toLower = c := by
  by_cases hupper : c.isUpper = true
  · obtain ⟨hlow, hhigh⟩ := isUpper_iff_toNat.1 hupper
    have hcapital : c.val ≥ 'A'.val ∧ c.val ≤ 'Z'.val := of_decide_eq_true hupper
    have hshift : c.toLower.toNat = c.toNat + 32 := by
      rw [show c.toLower = _ from dif_pos hcapital]
      change (c.val + ('a'.val - 'A'.val)).toNat = c.val.toNat + 32
      rw [UInt32.toNat_add, show ('a'.val - 'A'.val).toNat = 32 by decide]
      change c.val.toNat ≤ 90 at hhigh
      omega
    exact .inl ⟨hupper, isLower_iff_toNat.2 (by omega)⟩
  · have hother : ¬ (c.val ≥ 'A'.val ∧ c.val ≤ 'Z'.val) := fun h => hupper (decide_eq_true h)
    exact .inr ⟨Bool.eq_false_iff.2 hupper, dif_neg hother⟩

theorem isUpper_toLower (c : Char) : c.toLower.isUpper = false := by
  rcases toLower_cases c with ⟨-, hlower⟩ | ⟨hupper, hself⟩
  · rw [Bool.eq_false_iff]
    intro hupper
    have hsmall := isLower_iff_toNat.1 hlower
    have hlarge := isUpper_iff_toNat.1 hupper
    omega
  · rw [hself, hupper]

/-- Only letters become small letters. -/
theorem eq_of_toLower_eq {c s : Char} (hs : s.isAlpha = false) (h : c.toLower = s) : c = s := by
  rcases toLower_cases c with ⟨-, hlower⟩ | ⟨-, hself⟩
  · have hnone : s.isLower = false := (Bool.or_eq_false_iff.1 hs).2
    rw [← h, hlower] at hnone
    cases hnone
  · exact hself.symm.trans h

namespace Decimal

/-! ## The form of a numeral -/

/-- A sign, as whether it is a minus. -/
inductive Sign : List Char → Bool → Prop where
  | none : Sign [] false
  | plus : Sign ['+'] false
  | minus : Sign ['-'] true

/-- Digits in a row, perhaps none. -/
def AreDigits (cs : List Char) : Prop := ∀ c ∈ cs, c.isDigit = true

/-- A point, if there is one, and the digits behind it. -/
inductive Places : List Char → List Char → Prop where
  | none : Places [] []
  | point {digits : List Char} (h : AreDigits digits) : Places ('.' :: digits) digits

/-- A power of ten: zero if none is given. -/
inductive Power : List Char → Int → Prop where
  | none : Power [] 0
  | given {mark : Char} {sign digits : List Char} {negative : Bool}
      (hmark : mark = 'e' ∨ mark = 'E')
      (hsign : Sign sign negative) (hdigits : AreDigits digits) (hne : digits ≠ []) :
      Power (mark :: (sign ++ digits))
        (if negative then -(Nat.ofDigitChars 10 digits 0 : Int) else Nat.ofDigitChars 10 digits 0)

/-- A numeral without its sign. The float is the one nearest to what the digits and the power
say. -/
inductive Magnitude : List Char → Float → Prop where
  | decimal {whole point places power : List Char} {exponent : Int} (hwhole : AreDigits whole)
      (hplaces : Places point places) (hne : whole ++ places ≠ []) (hpower : Power power exponent) :
      Magnitude (whole ++ (point ++ power))
        (Float.ofScientific (Nat.ofDigitChars 10 (whole ++ places) 0)
        (exponent - places.length < 0) (exponent - places.length).natAbs)
  | infinity {cs : List Char}
      (h : cs.map Char.toLower = "inf".toList ∨ cs.map Char.toLower = "infinity".toList) :
      Magnitude cs (1.0 / 0.0)
  | nan {cs : List Char} (h : cs.map Char.toLower = "nan".toList) : Magnitude cs (0.0 / 0.0)

/-- A text spells a number: a sign, or none, and a magnitude. -/
def Spells (text : String) (x : Float) : Prop :=
  ∃ sign negative cs y, Sign sign negative ∧ text.toList = sign ++ cs ∧ Magnitude cs y ∧
    x = if negative then -y else y

variable {cs rest point places power : List Char} {c : Char} {e : Int} {x : Float}

/-! ## Digits -/

theorem isDigit_eq (c : Char) : isDigit c = c.isDigit := by
  rw [Bool.eq_iff_iff, Char.isDigit_iff_toNat, isDigit, Bool.and_eq_true, decide_eq_true_iff,
    decide_eq_true_iff]
  exact Iff.rfl

theorem natOfDigits_eq (digits : List Char) : natOfDigits digits = Nat.ofDigitChars 10 digits 0 :=
  rfl

/-- The reader goes by whether there are digits and nothing else. -/
theorem isEmpty_or_not_all_isDigit :
    (cs.isEmpty || !cs.all isDigit) = false ↔ AreDigits cs ∧ cs ≠ [] := by
  simp [AreDigits, isDigit_eq, and_comm]

theorem areDigits_takeWhile (cs : List Char) : AreDigits (cs.takeWhile isDigit) := by
  intro c hc
  rw [← isDigit_eq]
  exact List.mem_takeWhile_imp hc

/-- Digits end where no digit follows. -/
theorem takeWhile_digits (hcs : AreDigits cs)
    (hrest : ∀ c, rest.head? = some c → c.isDigit = false) :
    (cs ++ rest).takeWhile isDigit = cs ∧ (cs ++ rest).dropWhile isDigit = rest := by
  have hpass : ∀ c ∈ cs, isDigit c = true := fun c hc => (isDigit_eq c).trans (hcs c hc)
  rw [List.takeWhile_append_of_pos hpass, List.dropWhile_append_of_pos hpass]
  cases rest with
  | nil => simp
  | cons c more =>
    have hstop : isDigit c = false := (isDigit_eq c).trans (hrest c rfl)
    simp [hstop]

/-! ## Signs -/

/-- A sign is read if no magnitude begins with one. -/
theorem signed_eq_some_iff {α : Type} [Neg α] {magnitude? : List Char → Option α} {a : α}
    (h : ∀ c rest, (magnitude? (c :: rest)).isSome = true → c ≠ '+' ∧ c ≠ '-') :
    signed magnitude? cs = some a ↔ ∃ sign negative rest b, Sign sign negative ∧ cs = sign ++ rest ∧
      magnitude? rest = some b ∧ a = if negative then -b else b := by
  constructor
  · intro hread
    unfold signed at hread
    split at hread
    · exact ⟨_, _, _, _, .plus, rfl, hread, rfl⟩
    · obtain ⟨b, hb, rfl⟩ := Option.map_eq_some_iff.1 hread
      exact ⟨_, _, _, _, .minus, rfl, hb, rfl⟩
    · exact ⟨_, _, _, _, .none, rfl, hread, rfl⟩
  · rintro ⟨sign, negative, rest, b, hsign, rfl, hb, rfl⟩
    cases hsign with
    | plus => exact hb
    | minus => exact congrArg (Option.map (- ·)) hb
    | none =>
      unfold signed
      split
      · next heq =>
        rw [List.nil_append] at heq
        exact absurd rfl (h _ _ (by rw [← heq, hb]; rfl)).1
      · next heq =>
        rw [List.nil_append] at heq
        exact absurd rfl (h _ _ (by rw [← heq, hb]; rfl)).2
      · exact hb

/-! ## Powers of ten -/

theorem whole?_eq_some_iff :
    whole? cs = some e ↔ (AreDigits cs ∧ cs ≠ []) ∧ e = Nat.ofDigitChars 10 cs 0 := by
  rw [whole?, ← isEmpty_or_not_all_isDigit, ← natOfDigits_eq]
  cases cs.isEmpty || !cs.all isDigit <;> simp [eq_comm]

theorem ne_sign_of_isDigit (h : c.isDigit = true) : c ≠ '+' ∧ c ≠ '-' := by
  constructor <;> (rintro rfl; cases h)

theorem power?_eq_some_iff : power? cs = some e ↔ Power cs e := by
  have hunsigned : ∀ c rest, (whole? (c :: rest)).isSome = true → c ≠ '+' ∧ c ≠ '-' := by
    intro c rest hsome
    obtain ⟨n, hn⟩ := Option.isSome_iff_exists.1 hsome
    exact ne_sign_of_isDigit ((whole?_eq_some_iff.1 hn).1.1 c List.mem_cons_self)
  constructor
  · intro h
    cases cs with
    | nil =>
      cases h
      exact .none
    | cons c rest =>
      rw [power?] at h
      split at h
      · next hmark =>
        obtain ⟨sign, negative, digits, n, hsign, rfl, hn, rfl⟩ :=
          (signed_eq_some_iff hunsigned).1 h
        obtain ⟨⟨hdigits, hne⟩, rfl⟩ := whole?_eq_some_iff.1 hn
        exact .given (by simpa using hmark) hsign hdigits hne
      · cases h
  · intro h
    cases h with
    | none => rfl
    | given hmark hsign hdigits hne =>
      rw [power?, if_pos (by simpa using hmark)]
      exact (signed_eq_some_iff hunsigned).2
        ⟨_, _, _, _, hsign, rfl, whole?_eq_some_iff.2 ⟨⟨hdigits, hne⟩, rfl⟩, rfl⟩

/-- A power of ten begins with no digit and no point. -/
theorem Power.head (h : Power cs e) (hc : cs.head? = some c) : c.isDigit = false ∧ c ≠ '.' := by
  cases h with
  | none => cases hc
  | given hmark =>
    obtain rfl := Option.some.inj hc
    rcases hmark with rfl | rfl <;> decide

/-! ## Magnitudes -/

theorem exists_fraction (cs : List Char) :
    ∃ point, cs = point ++ (fraction cs).2 ∧ Places point (fraction cs).1 := by
  unfold fraction
  split
  · next rest =>
    exact ⟨'.' :: rest.takeWhile isDigit, by simp, .point (areDigits_takeWhile rest)⟩
  · exact ⟨[], rfl, .none⟩

theorem fraction_append (hplaces : Places point places) (hpower : Power power e) :
    fraction (point ++ power) = (places, power) := by
  cases hplaces with
  | none =>
    unfold fraction
    split
    · next heq =>
      have hpoint : power.head? = some '.' := congrArg List.head? heq
      exact absurd rfl (hpower.head hpoint).2
    · rfl
  | point hdigits =>
    obtain ⟨htake, hdrop⟩ := takeWhile_digits hdigits fun c hc => (hpower.head hc).1
    exact Prod.ext htake hdrop

theorem isDigit_false_of_head? (hplaces : Places point places) (hpower : Power power e)
    (hc : (point ++ power).head? = some c) : c.isDigit = false := by
  cases hplaces with
  | none => exact (hpower.head hc).1
  | point =>
    obtain rfl := Option.some.inj hc
    rfl

/-- A magnitude is read if it has the form of one. -/
theorem magnitude?_eq_some_iff : magnitude? cs = some x ↔
    ∃ whole point places power exponent, cs = whole ++ (point ++ power) ∧ AreDigits whole ∧
      Places point places ∧ whole ++ places ≠ [] ∧ Power power exponent ∧
      x = Float.ofScientific (Nat.ofDigitChars 10 (whole ++ places) 0)
        (exponent - places.length < 0) (exponent - places.length).natAbs := by
  have hsome : ∀ whole places : List Char,
      (whole.isEmpty && places.isEmpty) = false ↔ whole ++ places ≠ [] := by
    intro whole places
    cases whole <;> cases places <;> simp
  constructor
  · intro h
    obtain ⟨point, hpoint, hplaces⟩ := exists_fraction (cs.dropWhile isDigit)
    unfold magnitude? at h
    dsimp only at h
    split at h
    · cases h
    · next hempty =>
      obtain ⟨exponent, hpower, rfl⟩ := Option.map_eq_some_iff.1 h
      refine ⟨cs.takeWhile isDigit, point, _, _, exponent, ?_, areDigits_takeWhile cs, hplaces,
        (hsome _ _).1 (by simpa using hempty), power?_eq_some_iff.1 hpower, rfl⟩
      rw [← hpoint, List.takeWhile_append_dropWhile]
  · rintro ⟨whole, point, places, power, exponent, rfl, hwhole, hplaces, hne, hpower, rfl⟩
    obtain ⟨htake, hdrop⟩ :=
      takeWhile_digits hwhole fun c hc => isDigit_false_of_head? hplaces hpower hc
    unfold magnitude?
    rw [htake, hdrop, fraction_append hplaces hpower]
    dsimp only
    rw [(hsome whole places).2 hne, power?_eq_some_iff.2 hpower]
    rfl

/-- A numeral of digits begins with a digit or a point. -/
theorem head_of_decimal {whole : List Char} (hwhole : AreDigits whole)
    (hplaces : Places point places) (hne : whole ++ places ≠ [])
    (hc : (whole ++ (point ++ power)).head? = some c) : c.isDigit = true ∨ c = '.' := by
  cases whole with
  | cons d more =>
    obtain rfl := Option.some.inj hc
    exact .inl (hwhole d List.mem_cons_self)
  | nil =>
    cases hplaces with
    | none => exact absurd rfl hne
    | point =>
      obtain rfl := Option.some.inj hc
      exact .inr rfl

/-- A numeral of digits is no word. -/
theorem map_toLower_ne {whole word : List Char} {letter : Char} (hwhole : AreDigits whole)
    (hplaces : Places point places) (hne : whole ++ places ≠ [])
    (hletter : ¬ (letter.isDigit = true ∨ letter = '.')) :
    (whole ++ (point ++ power)).map Char.toLower ≠ letter :: word := by
  intro heq
  obtain ⟨c, rest, hcs, hlower, -⟩ := List.map_eq_cons_iff.1 heq
  have hstart : c.isDigit = true ∨ c = '.' :=
    head_of_decimal hwhole hplaces hne (by rw [hcs]; rfl)
  rcases toLower_cases c with ⟨hupper, -⟩ | ⟨-, hself⟩
  · rcases hstart with hdigit | rfl
    · have hlarge := isUpper_iff_toNat.1 hupper
      have hsmall : c.toNat ≤ 57 := (Char.isDigit_iff_toNat.1 hdigit).2
      omega
    · cases hupper
  · rw [← hlower, hself] at hletter
    exact hletter hstart

/-- A numeral without its sign is read if it is one. -/
theorem unsigned?_eq_some_iff : unsigned? cs = some x ↔ Magnitude cs x := by
  -- the words are read as bit patterns, which are the quotients that the form names
  have hinfinity : Float.ofBits 0x7FF0000000000000 = 1.0 / 0.0 := by decide +kernel
  have hnan : Float.ofBits 0x7FF8000000000000 = 0.0 / 0.0 := by decide +kernel
  unfold unsigned?
  dsimp only
  rw [hinfinity, hnan]
  constructor
  · intro h
    split at h
    · next hword =>
      cases h
      exact .infinity hword
    · split at h
      · next hword =>
        cases h
        exact .nan hword
      · obtain ⟨whole, point, places, power, exponent, rfl, hwhole, hplaces, hne, hpower, rfl⟩ :=
          magnitude?_eq_some_iff.1 h
        exact .decimal hwhole hplaces hne hpower
  · intro h
    cases h with
    | infinity hword => exact if_pos hword
    | nan hword =>
      rw [if_neg (by simp [hword]), if_pos hword]
    | decimal hwhole hplaces hne hpower =>
      rw [if_neg, if_neg]
      · exact magnitude?_eq_some_iff.2
          ⟨_, _, _, _, _, rfl, hwhole, hplaces, hne, hpower, rfl⟩
      · exact map_toLower_ne hwhole hplaces hne (by decide)
      · exact not_or_intro (map_toLower_ne hwhole hplaces hne (by decide))
          (map_toLower_ne hwhole hplaces hne (by decide))

/-- No magnitude begins with a sign. -/
theorem Magnitude.head (h : Magnitude (c :: rest) x) : c ≠ '+' ∧ c ≠ '-' := by
  have hletter : ∀ {a : Char} {word : List Char}, a ≠ '+' ∧ a ≠ '-' →
      (c :: rest).map Char.toLower = a :: word → c ≠ '+' ∧ c ≠ '-' := by
    rintro a word ⟨hplus, hminus⟩ heq
    obtain ⟨rfl, -⟩ := List.cons.inj heq
    constructor
    · rintro rfl
      exact hplus rfl
    · rintro rfl
      exact hminus rfl
  generalize hcs : c :: rest = cs at h
  cases h with
  | infinity hword =>
    subst hcs
    exact hword.elim (hletter (by decide)) (hletter (by decide))
  | nan hword =>
    subst hcs
    exact hletter (by decide) hword
  | decimal hwhole hplaces hne =>
    rcases head_of_decimal hwhole hplaces hne (by rw [← hcs]; rfl) with hdigit | rfl
    · exact ne_sign_of_isDigit hdigit
    · decide

/-- **What is read is what is spelled.** -/
theorem parse?_eq_some_iff {text : String} : parse? text = some x ↔ Spells text x := by
  have hunsigned : ∀ c rest, (unsigned? (c :: rest)).isSome = true → c ≠ '+' ∧ c ≠ '-' := by
    intro c rest hsome
    obtain ⟨y, hy⟩ := Option.isSome_iff_exists.1 hsome
    exact (unsigned?_eq_some_iff.1 hy).head
  rw [parse?, signed_eq_some_iff hunsigned, Spells]
  simp only [unsigned?_eq_some_iff]

end Decimal

end StackWatch
