import Mathlib.Data.List.TakeWhile
import StackWatch.Proofs.Coherence
import StackWatch.Proofs.Decoding
import StackWatch.Proofs.Numerals
import StackWatch.Proofs.Trimming

/-!
# The gate on conductors

Baremetal is asked for its conductors only if the microversion that is configured lists them.
`Config.Opens` says which texts do: the word `latest`, and two numerals around a point, blanks
around the whole, that are at least 1 and 49 in the order of versions. `Config.listsConductors_iff`
says that these are the texts that are let through.

The gate is copied into the client of baremetal, and clients are dropped at every login and built
anew. In every session that a run can reach it is the gate of the configuration
(`Query.conductors_gated`).
-/

namespace StackWatch

namespace Config

/-! ## Microversions -/

/-- An unsigned numeral below 2³²: digits, with a plus sign in front of them or not. -/
def SpellsNat32 (cs : List Char) (n : Nat) : Prop :=
  ∃ digits, (cs = digits ∨ cs = '+' :: digits) ∧ digits ≠ [] ∧ (∀ c ∈ digits, c.isDigit = true) ∧
    n = Nat.ofDigitChars 10 digits 0 ∧ n < Nat.pow 2 32

/-- A microversion: two numerals around a point, and blanks around the whole. -/
def SpellsVersion (text : String) (major minor : Nat) : Prop :=
  ∃ before first second after, text.toList = before ++ (first ++ '.' :: second) ++ after ∧
    (∀ c ∈ before ++ after, Text.isBlank c = true) ∧ SpellsNat32 first major ∧
    SpellsNat32 second minor

/-- The texts that open the gate: the latest microversion, and those from 1.49 on. -/
def Opens (text : String) : Prop :=
  text = "latest" ∨ ∃ major minor, SpellsVersion text major minor ∧
    (1 < major ∨ major = 1 ∧ 49 ≤ minor)

variable {cs first second before after : List Char} {c : Char} {text : String} {n major minor : Nat}

/-! ### Numerals -/

theorem nat32?_eq_some_iff : nat32? cs = some n ↔ SpellsNat32 cs n := by
  -- the sign is taken off first, and what remains are the digits
  have hdigits : ∀ digits : List Char,
      (if digits.isEmpty || !digits.all Decimal.isDigit then none
        else if Decimal.natOfDigits digits < Nat.pow 2 32 then some (Decimal.natOfDigits digits)
          else none) = some n ↔
      digits ≠ [] ∧ (∀ c ∈ digits, c.isDigit = true) ∧ n = Nat.ofDigitChars 10 digits 0 ∧
      n < Nat.pow 2 32 := by
    intro digits
    rw [Decimal.natOfDigits_eq]
    cases hread : digits.isEmpty || !digits.all Decimal.isDigit with
    | false =>
      obtain ⟨hall, hne⟩ := Decimal.isEmpty_or_not_all_isDigit.1 hread
      simp only [Bool.false_eq_true, if_false]
      constructor
      · intro h
        split at h
        · next hlt =>
          obtain rfl := Option.some.inj h
          exact ⟨hne, hall, rfl, hlt⟩
        · cases h
      · rintro ⟨-, -, rfl, hlt⟩
        exact if_pos hlt
    | true =>
      rw [if_pos rfl]
      constructor
      · intro h
        cases h
      · rintro ⟨hne, hall, -⟩
        cases hread.symm.trans (Decimal.isEmpty_or_not_all_isDigit.2 ⟨hall, hne⟩)
  unfold nat32?
  dsimp only
  rw [hdigits]
  split
  · next rest =>
    constructor
    · rintro ⟨hne, hall, hn⟩
      exact ⟨rest, .inr rfl, hne, hall, hn⟩
    · rintro ⟨digits, rfl | heq, hne, hall, hn⟩
      · exact absurd (hall '+' (List.mem_cons_self ..)) (by decide)
      · obtain ⟨-, rfl⟩ := List.cons.inj heq
        exact ⟨hne, hall, hn⟩
  · next hplus =>
    constructor
    · rintro ⟨hne, hall, hn⟩
      exact ⟨_, .inl rfl, hne, hall, hn⟩
    · rintro ⟨digits, rfl | rfl, hne, hall, hn⟩
      · exact ⟨hne, hall, hn⟩
      · exact absurd rfl (hplus digits)

/-- The characters of a numeral are digits and plus signs, and there are some. -/
theorem SpellsNat32.chars (h : SpellsNat32 cs n) :
    cs ≠ [] ∧ ∀ c ∈ cs, c.isDigit = true ∨ c = '+' := by
  obtain ⟨digits, rfl | rfl, hne, hall, -⟩ := h
  · exact ⟨hne, fun c hc => .inl (hall c hc)⟩
  · exact ⟨List.cons_ne_nil _ _, List.forall_mem_cons.2 ⟨.inr rfl, fun c hc => .inl (hall c hc)⟩⟩

/-- The decimal digits of a number spell it if it is small enough, and nothing else. -/
theorem nat32?_toDigits (n : Nat) :
    nat32? (Nat.toDigits 10 n) = if n < Nat.pow 2 32 then some n else none := by
  have hspells : ∀ m, SpellsNat32 (Nat.toDigits 10 n) m ↔ m = n ∧ n < Nat.pow 2 32 := by
    intro m
    have hall : ∀ c ∈ Nat.toDigits 10 n, c.isDigit = true := fun c hc =>
      Nat.isDigit_of_mem_toDigits (by decide) (by decide) hc
    constructor
    · rintro ⟨digits, hdigits | hplus, -, -, rfl, hlt⟩
      · rw [← hdigits, Nat.ofDigitChars_ten_toDigits] at hlt ⊢
        exact ⟨rfl, hlt⟩
      · exact absurd (hall '+' (by rw [hplus]; exact List.mem_cons_self ..)) (by decide)
    · rintro ⟨rfl, hlt⟩
      exact ⟨_, .inl rfl, Nat.toDigits_ne_nil, hall, Nat.ofDigitChars_ten_toDigits.symm, hlt⟩
  split
  · next hlt => exact nat32?_eq_some_iff.2 ((hspells n).2 ⟨rfl, hlt⟩)
  · next hlt =>
    rw [Option.eq_none_iff_forall_ne_some]
    intro m hm
    exact hlt ((hspells m).1 (nat32?_eq_some_iff.1 hm)).2

/-! ### Texts around a point -/

theorem splitPoint?_eq_some_iff : splitPoint? cs = some (first, second) ↔
    cs = first ++ '.' :: second ∧ '.' ∉ first := by
  constructor
  · intro h
    unfold splitPoint? at h
    split at h
    · cases h
    · next point rest hdrop =>
      obtain ⟨rfl, rfl⟩ := Prod.mk.inj (Option.some.inj h)
      have hpoint : point = '.' := by
        have hhead := List.head?_dropWhile_not (· != '.') cs
        rw [hdrop] at hhead
        simpa using hhead
      subst hpoint
      refine ⟨?_, fun hmem => ?_⟩
      · rw [← hdrop, List.takeWhile_append_dropWhile]
      · simpa using List.mem_takeWhile_imp hmem
  · rintro ⟨rfl, hfirst⟩
    have hpasses : ∀ c ∈ first, (c != '.') = true := by
      intro c hc
      have hne : c ≠ '.' := fun heq => hfirst (heq ▸ hc)
      simpa using hne
    rw [splitPoint?, List.dropWhile_append_of_pos hpasses, List.takeWhile_append_of_pos hpasses]
    simp

end Config

namespace Text

variable {cs before after : List Char}

/-- What stands between blanks is what remains of a text that is trimmed. -/
theorem trimChars_between (hblank : ∀ c ∈ before ++ after, isBlank c = true)
    (hhead : ∀ c, cs.head? = some c → isBlank c = false)
    (hlast : ∀ c, cs.getLast? = some c → isBlank c = false) (hne : cs ≠ []) :
    trimChars (before ++ cs ++ after) = cs := by
  obtain ⟨hbefore, hafter⟩ := List.forall_mem_append.1 hblank
  have hdrop : (before ++ cs ++ after).dropWhile isBlank = cs ++ after := by
    obtain ⟨c, rest, rfl⟩ := List.exists_cons_of_ne_nil hne
    rw [List.append_assoc, List.dropWhile_append_of_pos hbefore, List.cons_append,
      List.dropWhile_cons, if_neg (by simp [hhead c rfl])]
  rw [trimChars, hdrop, dropTail_append hafter, dropTail_eq_self_iff]
  exact hlast

/-- A text is what remains of it when it is trimmed, between blanks. -/
theorem exists_trimChars (cs : List Char) :
    ∃ before after, cs = before ++ trimChars cs ++ after ∧
    ∀ c ∈ before ++ after, isBlank c = true := by
  refine ⟨cs.takeWhile isBlank, (cs.dropWhile isBlank).rtakeWhile isBlank, ?_,
    List.forall_mem_append.2 ⟨?_, ?_⟩⟩
  · rw [trimChars, dropTail_eq_rdropWhile, List.append_assoc, List.rdropWhile_append_rtakeWhile,
      List.takeWhile_append_dropWhile]
  · exact fun c hc => List.mem_takeWhile_imp hc
  · exact fun c hc => List.mem_rtakeWhile_imp hc

end Text

namespace Config

variable {cs first second before after : List Char} {c : Char} {text : String} {n major minor : Nat}

theorem not_isBlank_of_numeral (h : c.isDigit = true ∨ c = '+') : Text.isBlank c = false := by
  rcases h with h | rfl
  · obtain ⟨hle, hge⟩ := Char.isDigit_iff_toNat.1 h
    have hlow : 48 ≤ c.toNat := hle
    have hhigh : c.toNat ≤ 57 := hge
    by_contra hblank
    rw [Bool.not_eq_false, Text.isBlank, Text.inRanges_iff] at hblank
    simp only [Text.blankRanges, List.mem_cons, List.not_mem_nil, or_false, exists_eq_or_imp,
      exists_eq_left] at hblank
    omega
  · decide

theorem ne_point_of_numeral (h : c.isDigit = true ∨ c = '+') : c ≠ '.' := by
  rintro rfl
  revert h
  decide

/-- A text of two parts around a point is read part by part, if the parts are
made of digits and signs. -/
theorem microversion?_between (htext : text.toList = before ++ (first ++ '.' :: second) ++ after)
    (hblank : ∀ c ∈ before ++ after, Text.isBlank c = true)
    (hfirst : first ≠ [] ∧ ∀ c ∈ first, c.isDigit = true ∨ c = '+')
    (hsecond : second ≠ [] ∧ ∀ c ∈ second, c.isDigit = true ∨ c = '+') :
    microversion? text = match nat32? first, nat32? second with
      | some major, some minor => some (major, minor)
      | _, _ => none := by
  have htrim : Text.trimChars text.toList = first ++ '.' :: second := by
    rw [htext]
    apply Text.trimChars_between hblank
    · intro c hc
      rw [List.head?_append_of_ne_nil _ hfirst.1] at hc
      exact not_isBlank_of_numeral (hfirst.2 c (List.mem_of_head? hc))
    · intro c hc
      rw [List.append_cons, List.getLast?_append_of_ne_nil _ hsecond.1] at hc
      exact not_isBlank_of_numeral (hsecond.2 c (List.mem_of_getLast? hc))
    · simp
  have hpoint : '.' ∉ first := fun hmem => ne_point_of_numeral (hfirst.2 _ hmem) rfl
  have hsplit : splitPoint? (first ++ '.' :: second) = some (first, second) :=
    splitPoint?_eq_some_iff.2 ⟨rfl, hpoint⟩
  cases hmajor : nat32? first <;> cases hminor : nat32? second <;>
    simp only [microversion?, htrim, hsplit, hmajor, hminor]

theorem microversion?_eq_some_iff :
    microversion? text = some (major, minor) ↔ SpellsVersion text major minor := by
  constructor
  · intro h
    obtain ⟨before, after, htext, hblank⟩ := Text.exists_trimChars text.toList
    unfold microversion? at h
    split at h
    · cases h
    · next first second hsplit =>
      split at h
      · next hfirst hsecond =>
        obtain ⟨rfl, rfl⟩ := Prod.mk.inj (Option.some.inj h)
        rw [(splitPoint?_eq_some_iff.1 hsplit).1] at htext
        exact ⟨before, first, second, after, htext, hblank, nat32?_eq_some_iff.1 hfirst,
          nat32?_eq_some_iff.1 hsecond⟩
      · cases h
  · rintro ⟨before, first, second, after, htext, hblank, hfirst, hsecond⟩
    rw [microversion?_between htext hblank hfirst.chars hsecond.chars, nat32?_eq_some_iff.2 hfirst,
      nat32?_eq_some_iff.2 hsecond]

theorem atLeast_conductorsSince : atLeast (major, minor) conductorsSince = true ↔
    1 < major ∨ major = 1 ∧ 49 ≤ minor := by
  rw [atLeast, Bool.or_eq_true, Bool.and_eq_true, decide_eq_true_iff, beq_iff_eq,
    decide_eq_true_iff]
  exact Iff.rfl

/-! ## The gate -/

/-- The gate is open for the texts that open it, and for no other. -/
theorem listsConductors_iff {config : Config} :
    config.listsConductors = true ↔ ∃ version, config.ironicVersion = some version ∧
    Opens version := by
  unfold listsConductors
  cases config.ironicVersion with
  | none => simp
  | some version =>
    simp only [Bool.or_eq_true, decide_eq_true_eq, Option.some.injEq, exists_eq_left']
    refine or_congr Iff.rfl ?_
    constructor
    · intro h
      split at h
      · next v hv => exact ⟨v.1, v.2, microversion?_eq_some_iff.1 hv, atLeast_conductorsSince.1 h⟩
      · cases h
    · rintro ⟨major, minor, hspells, hge⟩
      rw [microversion?_eq_some_iff.2 hspells]
      exact atLeast_conductorsSince.2 hge

/-- Two numbers in decimals around a point open the gate if they are large enough
and fit into 32 bits. -/
theorem opens_iff_of_toDigits
    (htext : text.toList = Nat.toDigits 10 major ++ '.' :: Nat.toDigits 10 minor) :
    Opens text ↔ (major < Nat.pow 2 32 ∧ minor < Nat.pow 2 32) ∧
    (1 < major ∨ major = 1 ∧ 49 ≤ minor) := by
  have hchars : ∀ n, Nat.toDigits 10 n ≠ [] ∧ ∀ c ∈ Nat.toDigits 10 n, c.isDigit = true ∨ c = '+' :=
    fun n =>
    ⟨Nat.toDigits_ne_nil, fun c hc => .inl (Nat.isDigit_of_mem_toDigits (by decide) (by decide) hc)⟩
  have hlatest : text ≠ "latest" := by
    rintro rfl
    have hpoint : '.' ∈ "latest".toList := by
      rw [htext]
      simp
    revert hpoint
    decide
  have hbare : text.toList =
      [] ++ (Nat.toDigits 10 major ++ '.' :: Nat.toDigits 10 minor) ++ [] := by
    simpa using htext
  have hread := microversion?_between hbare (by simp) (hchars major) (hchars minor)
  rw [nat32?_toDigits, nat32?_toDigits] at hread
  have hspells : ∀ m n, SpellsVersion text m n ↔
      (major < Nat.pow 2 32 ∧ minor < Nat.pow 2 32) ∧ m = major ∧ n = minor := by
    intro m n
    rw [← microversion?_eq_some_iff, hread]
    generalize Nat.pow 2 32 = bound
    by_cases hmajor : major < bound
    · by_cases hminor : minor < bound
      · simp [hmajor, hminor, eq_comm]
      · simp [hmajor, hminor]
    · simp [hmajor]
  constructor
  · rintro (heq | ⟨m, n, hversion, hge⟩)
    · exact absurd heq hlatest
    · obtain ⟨hlt, rfl, rfl⟩ := (hspells m n).1 hversion
      exact ⟨hlt, hge⟩
  · rintro ⟨hlt, hge⟩
    exact .inr ⟨major, minor, (hspells major minor).2 ⟨hlt, rfl, rfl⟩, hge⟩

/-- A text with two points is no version. -/
theorem not_opens_of_count (h : 2 ≤ text.toList.count '.') : ¬ Opens text := by
  rintro (rfl | ⟨major, minor, ⟨before, first, second, after, htext, hblank, hfirst, hsecond⟩, -⟩)
  · revert h
    decide
  · have hnone : ∀ cs : List Char, (∀ c ∈ cs, c ≠ '.') → cs.count '.' = 0 := by
      intro cs hcs
      exact List.count_eq_zero.2 fun hmem => hcs _ hmem rfl
    obtain ⟨hbefore, hafter⟩ := List.forall_mem_append.1 hblank
    have hne : ∀ c : Char, Text.isBlank c = true → c ≠ '.' := by
      rintro c hc rfl
      revert hc
      decide
    rw [htext] at h
    simp [List.count_append, hnone before fun c hc => hne c (hbefore c hc),
      hnone after fun c hc => hne c (hafter c hc), hnone first
        fun c hc => ne_point_of_numeral (hfirst.chars.2 c hc),
      hnone second fun c hc => ne_point_of_numeral (hsecond.chars.2 c hc)] at h

/-- Nothing may stand in a version but digits, plus signs, points and blanks:
no other sign, for one. -/
theorem not_opens_of_mem (hlatest : text ≠ "latest") (hc : c ∈ text.toList)
    (hdigit : c.isDigit = false) (hplus : c ≠ '+') (hpoint : c ≠ '.')
    (hblank : Text.isBlank c = false) : ¬ Opens text := by
  rintro (rfl | ⟨major, minor, ⟨before, first, second, after, htext, hblanks, hfirst, hsecond⟩, -⟩)
  · exact hlatest rfl
  · obtain ⟨hbefore, hafter⟩ := List.forall_mem_append.1 hblanks
    have hnumeral : ¬ (c.isDigit = true ∨ c = '+') := by simp [hdigit, hplus]
    rw [htext, List.mem_append, List.mem_append, List.mem_append, List.mem_cons] at hc
    rcases hc with (hc | hc | rfl | hc) | hc
    · exact absurd (hbefore c hc) (by simp [hblank])
    · exact hnumeral (hfirst.chars.2 c hc)
    · exact hpoint rfl
    · exact hnumeral (hsecond.chars.2 c hc)
    · exact absurd (hafter c hc) (by simp [hblank])

end Config

/-- A query sends first what its first attempt does. -/
theorem Course.first_isPrefix {σ α : Type} {title : String}
    {first second whole : Outcome σ (Option α)} {login : Outcome σ Unit}
    (h : Course title first login second whole) : first.requests <+: whole.requests := by
  unfold Outcome.requests
  cases h with
  | served _ hwhole | broken _ _ hwhole => simp [hwhole]
  | failed _ _ _ hwhole | locked _ _ _ hwhole =>
    rw [hwhole, requestsOf_append]
    exact List.prefix_append _ _
  | again _ _ _ _ hwhole =>
    rw [hwhole, Outcome.after, requestsOf_append, requestsOf_append, List.append_assoc]
    exact List.prefix_append _ _
  | lost _ _ _ _ hwhole =>
    rw [hwhole, requestsOf_append, requestsOf_append, requestsOf_append, List.append_assoc,
      List.append_assoc]
    exact List.prefix_append _ _

namespace Query

open Step

variable {σ : Type} {d : Deployment σ} {s : Session} {w : σ}

/-- Behind a closed gate an attempt at the conductors gets no further than to their client. -/
theorem attempt_conductors_of_closed (hs : s.Sound) (hclosed : s.config.listsConductors = false) :
    (listing .conductors).attempt d s w = match s.endpoint? .baremetal with
      | none => ⟨.error (.componentNotFound .baremetal), s, w, []⟩
      | some endpoint =>
        ⟨.ok none, s.withClient .baremetal endpoint, w, [.notice .conductorsNotOffered]⟩ := by
  change reading (.listing .conductors) _ d s w = _
  rw [reading_apply hs]
  cases hendpoint : s.endpoint? .baremetal with
  | none =>
    change s.endpoint? (Resource.listing .conductors).component = none at hendpoint
    rw [hendpoint]
    rfl
  | some endpoint =>
    change s.endpoint? (Resource.listing .conductors).component = some endpoint at hendpoint
    rw [hendpoint]
    exact if_neg (by simp [Client.offers, Client.build, hclosed])

/-- So does the query: it asks for nothing and enters nothing. -/
theorem perform_conductors_of_closed (hs : s.Sound) (hclosed : s.config.listsConductors = false) :
    let o := (listing .conductors).perform d s w
    o.requests = [] ∧ o.session.ledger = s.ledger ∧
      ∀ endpoint, s.endpoint? .baremetal = some endpoint → o.result = .ok none := by
  have hattempt := attempt_conductors_of_closed (d := d) (w := w) hs hclosed
  dsimp only
  cases hendpoint : s.endpoint? .baremetal with
  | none =>
    rw [hendpoint] at hattempt
    rw [perform_of_broken (by rw [hattempt]) rfl, hattempt]
    exact ⟨rfl, rfl, nofun⟩
  | some endpoint =>
    rw [hendpoint] at hattempt
    rw [perform_of_served (by rw [hattempt]), hattempt]
    exact ⟨rfl, rfl, fun _ _ => rfl⟩

/-- A collection that is offered and has not been read is asked for, before anything else. -/
theorem requests_listing_of_unread (hs : s.Sound) {l : Listing} {endpoint : String}
    (hendpoint : s.endpoint? l.component = some endpoint)
    (hoffers : (Client.build l.component endpoint s.config).offers (.listing l) = true)
    (hunread : (Resource.listing l).url endpoint ∉ s.ledger.urls) {request : Request}
    (hrequest : s.http.request? .get ((Resource.listing l).url endpoint) none = some request) :
    ∃ later, ((listing l).perform d s w).requests = request :: later := by
  have hfirst : ((listing l).attempt d s w).requests = [request] := by
    have hasked : (Step.request (Client.build l.component endpoint s.config) (.listing l) d
        (s.withClient l.component endpoint) w).requests = [request] := by
      change requestsOf (send (.polling l.component) .get ((Resource.listing l).url endpoint) none d
        (s.withClient l.component endpoint) w).trace = _
      rw [send_of_request (s := s.withClient l.component endpoint) hrequest]
      rfl
    change (reading (.listing l) _ d s w).requests = _
    rw [reading_of_unread (r := .listing l) hs hendpoint hoffers hunread rfl, bind_ofExcept_apply,
      fetchItems, fetch_apply]
    split
    · exact hasked
    · exact hasked
  obtain ⟨later, hlater⟩ := ((listing l).course d s w).first_isPrefix
  rw [hfirst] at hlater
  exact ⟨later, hlater.symm⟩

/-- **The gate on conductors.** Whatever was done with a session since it was made, and whoever
answered: if the configured microversion opens the gate, the conductors are asked for, unless they
were read or baremetal cannot be found; if not, nothing is sent and nothing entered, and the query
comes to no data wherever baremetal is found. What opens the gate is the word for the latest version
and every version from 1.49 on, number by number; a second point, another sign than a plus, or a
number that does not fit into 32 bits closes it. -/
theorem conductors_gated {config : Config} {s : Session} (h : Session.new config = .ok s) {σ : Type}
    (d : Deployment σ) (w : σ) (ops : List Operation) :
    let here := Operation.performAll ops d s w
    let o := (listing .conductors).perform d here.session here.state
    (config.listsConductors = true ↔ ∃ version, config.ironicVersion = some version ∧
      Config.Opens version) ∧
    (o.requests ≠ [] → config.listsConductors = true) ∧
    (config.listsConductors = true → ∀ endpoint request,
      here.session.endpoint? .baremetal = some endpoint →
      (Resource.listing .conductors).url endpoint ∉ here.session.ledger.urls →
      here.session.http.request? .get ((Resource.listing .conductors).url endpoint) none =
        some request →
      ∃ later, o.requests = request :: later) ∧
    (config.listsConductors = false → o.requests = [] ∧ o.session.ledger = here.session.ledger ∧
      ∀ endpoint, here.session.endpoint? .baremetal = some endpoint → o.result = .ok none) ∧
    (∀ major minor : Nat, Config.Opens (toString major ++ "." ++ toString minor) ↔
      (major < Nat.pow 2 32 ∧ minor < Nat.pow 2 32) ∧ (1 < major ∨ major = 1 ∧ 49 ≤ minor)) ∧
    (∀ text : String, 2 ≤ text.toList.count '.' → ¬ Config.Opens text) ∧
    ∀ (text : String) (c : Char), text ≠ "latest" → c ∈ text.toList → c.isDigit = false →
    c ≠ '+' → c ≠ '.' →
      Text.isBlank c = false → ¬ Config.Opens text := by
  intro here o
  have hholds := (Operation.performAll_tracks ops).holds (d := d) (w := w) (Session.holds_new h)
  have hconfig : here.session.config.listsConductors = config.listsConductors := by
    rw [(Operation.performAll_tracks ops).config (Session.holds_new h)]
    obtain ⟨-, -, heq⟩ := Config.validate_eq_ok_iff.1 (Config.validate_of_new h)
    rw [heq]
    rfl
  have hclosed : config.listsConductors = false → o.requests = [] ∧
      o.session.ledger = here.session.ledger ∧
      ∀ endpoint, here.session.endpoint? .baremetal = some endpoint → o.result = .ok none :=
    fun hfalse => perform_conductors_of_closed hholds.sound (hconfig.trans hfalse)
  refine ⟨Config.listsConductors_iff, ?_, ?_, hclosed, ?_, fun _ => Config.not_opens_of_count,
    fun _ _ => Config.not_opens_of_mem⟩
  · intro hsent
    by_contra hfalse
    exact hsent (hclosed (by simpa using hfalse)).1
  · intro hopen endpoint request hendpoint hunread hrequest
    exact requests_listing_of_unread (l := .conductors) hholds.sound hendpoint
      (hconfig.trans hopen) hunread hrequest
  · intro major minor
    exact Config.opens_iff_of_toDigits (by simp)

/-- A deployment with baremetal, which has no conductors. -/
def sampleBaremetal : Deployment Unit := .stateless fun request =>
  match request.method with
  | .post =>
    .response 201 (some "token") (.json (.obj [("token", .obj [("catalog", Catalog.toJson
      ⟨[⟨Component.baremetal.name, none, [⟨.public, "http://ironic", none⟩]⟩]⟩)])])) 0
  | .get => .response 200 none (.json (.obj [("conductors", .arr [])])) 0

/-- A configuration with a microversion for baremetal. -/
def sampleVersion (version : String) : Config :=
  { Config.sample with ironicVersion := some version }

/-- The new session of that configuration. -/
def sampleSession (version : String) : Session :=
  { Session.sample with config := sampleVersion version, http := ⟨none, some version, none⟩ }

/-- Version 1.5 is before 1.49, and version 1.50 is not. So of two sessions that both find baremetal
after a login, the one with 1.50 asks for the conductors, and the one with 1.5 asks for nothing. -/
theorem conductors_unasked :
    let here (version : String) :=
      Operation.performAll [.authorize] sampleBaremetal (sampleSession version) ()
    let asked (version : String) :=
      (listing .conductors).perform sampleBaremetal (here version).session (here version).state
    (Session.new (sampleVersion "1.5") = .ok (sampleSession "1.5") ∧
      (here "1.5").session.endpoint? .baremetal = some "http://ironic" ∧
      (asked "1.5").requests = [] ∧ (asked "1.5").result = .ok none) ∧
    Session.new (sampleVersion "1.50") = .ok (sampleSession "1.50") ∧
      (here "1.50").session.endpoint? .baremetal = some "http://ironic" ∧
      ∃ later, (asked "1.50").requests =
        ⟨.get, "http://ironic/v1/conductors", some "token", none, some "1.50", none⟩ :: later := by
  intro here asked
  have hnew : Session.new (sampleVersion "1.5") = .ok (sampleSession "1.5") ∧
      Session.new (sampleVersion "1.50") = .ok (sampleSession "1.50") := by
    constructor <;> rfl
  have hendpoint : (here "1.5").session.endpoint? .baremetal = some "http://ironic" ∧
      (here "1.50").session.endpoint? .baremetal = some "http://ironic" := by
    decide +kernel
  have hopens : ∀ minor : Nat, Config.Opens (toString 1 ++ "." ++ toString minor) ↔
      minor < Nat.pow 2 32 ∧ 49 ≤ minor := by
    intro minor
    obtain ⟨-, -, -, -, hdecimal, -⟩ := conductors_gated hnew.1 sampleBaremetal () [.authorize]
    rw [hdecimal]
    omega
  refine ⟨?_, ?_⟩
  · obtain ⟨hgate, -, -, hclosed, -⟩ := conductors_gated hnew.1 sampleBaremetal () [.authorize]
    have hshut : (sampleVersion "1.5").listsConductors = false := by
      refine Bool.eq_false_iff.2 fun htrue => ?_
      obtain ⟨version, hversion, hversionOpens⟩ := hgate.1 htrue
      have htext : version = toString 1 ++ "." ++ toString 5 := by
        rw [← Option.some.inj hversion]
        decide
      rw [htext, hopens] at hversionOpens
      omega
    obtain ⟨hnothing, -, hnone⟩ := hclosed hshut
    exact ⟨hnew.1, hendpoint.1, hnothing, hnone _ hendpoint.1⟩
  · obtain ⟨hgate, -, hopen, -⟩ := conductors_gated hnew.2 sampleBaremetal () [.authorize]
    have hgiven : (sampleVersion "1.50").listsConductors = true := by
      refine hgate.2 ⟨toString 1 ++ "." ++ toString 50, by decide, ?_⟩
      rw [hopens]
      decide
    exact ⟨hnew.2, hendpoint.2, hopen hgiven _ _ hendpoint.2 (by decide +kernel) rfl⟩

end Query

end StackWatch
