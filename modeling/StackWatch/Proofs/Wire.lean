import StackWatch.Http.Url
import StackWatch.Proofs.Escaping

/-!
# The wire form of a text

What goes over the wire is written character by character (`written_cons`): a character of ASCII
stands for itself, and a blank or another character for the escapes of its bytes. So the characters
that structure a URL stand where they stood before, and a text can be taken apart before or after it
is written (`splitOn_written`). Reading the escapes gives the text back, unless it had an escape of
its own (`decode_written_eq_iff`).
-/

namespace StackWatch.Url

open Percent

/-- A text in percent-encoding, as it goes over the wire. -/
def written (cs : List Char) : List Char := encodeBytes isWireByte (bytesOf (String.ofList cs))

/-- The bytes of some characters. -/
def bytes (cs : List Char) : List UInt8 := cs.flatMap String.utf8EncodeChar

variable {c a : Char} {cs : List Char}

theorem bytesOf_ofList (cs : List Char) : bytesOf (String.ofList cs) = bytes cs := by
  simp [bytesOf, bytes, List.utf8Encode]

theorem bytesOf_eq_bytes (s : String) : bytesOf s = bytes s.toList := by
  rw [← bytesOf_ofList, String.ofList_toList]

@[simp] theorem bytes_nil : bytes [] = [] := rfl

@[simp] theorem bytes_cons (c : Char) (cs : List Char) :
    bytes (c :: cs) = String.utf8EncodeChar c ++ bytes cs := rfl

@[simp] theorem bytes_append (cs more : List Char) : bytes (cs ++ more) = bytes cs ++ bytes more :=
  List.flatMap_append

theorem written_eq (cs : List Char) : written cs = encodeBytes isWireByte (bytes cs) := by
  rw [written, bytesOf_ofList]

@[simp] theorem written_nil : written [] = [] := by
  simp [written_eq, encodeBytes]

@[simp] theorem written_append (cs more : List Char) :
    written (cs ++ more) = written cs ++ written more := by
  simp [written_eq, encodeBytes, bytes]

theorem written_cons (c : Char) (cs : List Char) : written (c :: cs) = written [c] ++ written cs :=
  written_append [c] cs

/-! ## One character -/

/-- Whether a character goes over the wire as it is. -/
def isWireChar (c : Char) : Bool := c.toNat < 128 && c.toNat != 32

theorem utf8EncodeChar_of_lt (hc : c.toNat < 128) :
    String.utf8EncodeChar c = [UInt8.ofNat c.toNat] := by
  have hsmall : c.val.toNat ≤ 127 := Nat.le_of_lt_succ hc
  unfold String.utf8EncodeChar
  simp only [if_pos hsmall]
  rfl

/-- The bytes of a character outside ASCII are outside ASCII. -/
theorem le_of_mem_utf8EncodeChar (hc : 128 ≤ c.toNat) {b : UInt8}
    (hb : b ∈ String.utf8EncodeChar c) : 128 ≤ b.toNat := by
  have hlarge : ¬ c.val.toNat ≤ 127 := Nat.not_le.2 hc
  unfold String.utf8EncodeChar at hb
  simp only [if_neg hlarge] at hb
  split at hb
  · simp only [List.mem_cons, List.not_mem_nil, or_false] at hb
    rcases hb with rfl | rfl <;> simp <;> omega
  · split at hb
    · simp only [List.mem_cons, List.not_mem_nil, or_false] at hb
      rcases hb with rfl | rfl | rfl <;> simp <;> omega
    · simp only [List.mem_cons, List.not_mem_nil, or_false] at hb
      rcases hb with rfl | rfl | rfl | rfl <;> simp <;> omega

theorem lt_of_isWireChar (h : isWireChar c = true) : c.toNat < 128 := by
  simp only [isWireChar, Bool.and_eq_true, decide_eq_true_eq] at h
  exact h.1

theorem ne_of_isWireChar (h : isWireChar c = true) : c.toNat ≠ 32 := by
  simp only [isWireChar, Bool.and_eq_true, bne_iff_ne] at h
  exact h.2

theorem written_of_isWireChar (h : isWireChar c = true) : written [c] = [c] := by
  have hascii := lt_of_isWireChar h
  have hblank : c.toNat ≠ 32 := ne_of_isWireChar h
  have hsmall : c.toNat % 256 = c.toNat := Nat.mod_eq_of_lt (by omega)
  simp [written_eq, utf8EncodeChar_of_lt hascii, encodeBytes, isWireByte, hsmall, hascii, hblank]

theorem written_of_forall_isWireChar (h : ∀ c ∈ cs, isWireChar c = true) : written cs = cs := by
  induction cs with
  | nil => simp
  | cons c rest ih =>
    obtain ⟨hc, hrest⟩ := List.forall_mem_cons.1 h
    rw [written_cons, written_of_isWireChar hc, ih hrest, List.singleton_append]

/-- No byte of another character goes over the wire as it is. -/
theorem isWireByte_of_mem (h : isWireChar c = false) {b : UInt8}
    (hb : b ∈ String.utf8EncodeChar c) : isWireByte b = false := by
  by_cases hascii : c.toNat < 128
  · have hblank : c.toNat = 32 := by simpa [isWireChar, hascii] using h
    rw [utf8EncodeChar_of_lt hascii, List.mem_singleton] at hb
    rw [hb, hblank]
    decide
  · have hlarge := le_of_mem_utf8EncodeChar (Nat.not_lt.1 hascii) hb
    simp [isWireByte, Nat.not_lt.2 hlarge]

theorem written_of_not_isWireChar (h : isWireChar c = false) :
    written [c] = (String.utf8EncodeChar c).flatMap escapeByte := by
  rw [written_eq, bytes_cons, bytes_nil, List.append_nil, encodeBytes,
    List.flatMap_def, List.flatMap_def]
  congr 1
  apply List.map_congr_left
  intro b hb
  simp [isWireByte_of_mem h hb]

theorem isWireChar_of_mem_separators : ∀ a ∈ separators, isWireChar a = true :=
  List.all_eq_true.1 (by decide)

theorem isWireChar_of_isUnreserved : ∀ n < 256, isUnreserved (UInt8.ofNat n) = true →
    isWireChar (Char.ofNat n) = true := by decide +kernel

theorem isWireChar_hexDigit : ∀ n < 16, isWireChar (hexDigit n) = true := by decide

/-- What is encoded once need not be encoded again. -/
theorem isWireChar_of_mem_encodeBytes {bytes : List UInt8}
    (hc : c ∈ encodeBytes isUnreserved bytes) : isWireChar c = true := by
  rw [encodeBytes, List.mem_flatMap] at hc
  obtain ⟨b, -, hc⟩ := hc
  split at hc
  · next hkept =>
    rw [List.mem_singleton.1 hc]
    exact isWireChar_of_isUnreserved b.toNat b.toNat_lt (by rwa [UInt8.ofNat_toNat])
  · simp only [escapeByte, List.mem_cons, List.not_mem_nil, or_false] at hc
    rcases hc with rfl | rfl | rfl
    · decide
    · exact isWireChar_hexDigit _ (Nat.div_lt_of_lt_mul b.toNat_lt)
    · exact isWireChar_hexDigit _ (Nat.mod_lt _ (by decide))

/-! ## Taking a text apart -/

/-- A separator is written in its own place alone. -/
theorem not_mem_written (ha : a ∈ separators) (h : c ≠ a) : a ∉ written [c] := by
  cases hc : isWireChar c with
  | true => simpa [written_of_isWireChar hc] using h.symm
  | false =>
    rw [written_of_not_isWireChar hc, List.mem_flatMap]
    rintro ⟨b, -, hb⟩
    exact not_mem_escapeByte ha b hb

theorem takeWhile_written (ha : a ∈ separators) (cs : List Char) :
    (written cs).takeWhile (· != a) = written (cs.takeWhile (· != a)) := by
  induction cs with
  | nil => simp
  | cons c rest ih =>
    rw [written_cons]
    by_cases h : c = a
    · subst h
      simp [written_of_isWireChar (isWireChar_of_mem_separators c ha)]
    · have hpass : ∀ x ∈ written [c], (x != a) = true := by
        intro x hx
        have hne : x ≠ a := fun heq => not_mem_written ha h (heq ▸ hx)
        simpa using hne
      rw [List.takeWhile_append_of_pos hpass, ih, List.takeWhile_cons_of_pos (by simpa using h),
        ← written_cons]

theorem dropWhile_written (ha : a ∈ separators) (cs : List Char) :
    (written cs).dropWhile (· != a) = written (cs.dropWhile (· != a)) := by
  have hsplit := List.takeWhile_append_dropWhile (p := (· != a)) (l := written cs)
  rw [takeWhile_written ha] at hsplit
  apply (List.append_right_inj (written (cs.takeWhile (· != a)))).1
  rw [hsplit, ← written_append, List.takeWhile_append_dropWhile]

/-- What stands before the first separator belongs to the first piece. -/
theorem splitOn_append_of_not_mem {first : List Char} (h : a ∉ first) (rest : List Char) :
    (first ++ rest).splitOn a = (rest.splitOn a).modifyHead (first ++ ·) := by
  induction first with
  | nil => exact (congrFun List.modifyHead_id (rest.splitOn a)).symm
  | cons c more ih =>
    rw [List.mem_cons, not_or] at h
    obtain ⟨hc, hmore⟩ := h
    rw [List.cons_append, List.splitOn_cons_eq_if_modifyHead,
      if_neg (by simpa using Ne.symm hc), ih hmore]
    simp [List.modifyHead_modifyHead, Function.comp_def]

/-- **A written text is taken apart** like the text itself. -/
theorem splitOn_written (ha : a ∈ separators) (cs : List Char) :
    (written cs).splitOn a = (cs.splitOn a).map written := by
  induction cs with
  | nil => simp
  | cons c rest ih =>
    rw [written_cons, List.splitOn_cons_eq_if_modifyHead]
    by_cases h : c = a
    · subst h
      have hself : written [c] = [c] := written_of_isWireChar (isWireChar_of_mem_separators c ha)
      rw [hself, List.singleton_append, List.splitOn_cons_eq_if_modifyHead]
      simp [ih]
    · rw [splitOn_append_of_not_mem (not_mem_written ha h), ih, if_neg (by simpa using h)]
      obtain ⟨first, more, hsplit⟩ := List.exists_cons_of_ne_nil (List.splitOn_ne_nil a rest)
      simp [hsplit, ← written_cons]

/-! ## Reading the escapes -/

/-- Whether a text begins with a hexadecimal digit. -/
def startsDigit : List Char → Bool
  | [] => false
  | c :: _ => (hexValue? c).isSome

/-- Whether a text begins with two hexadecimal digits. -/
def startsHex : List Char → Bool
  | [] => false
  | c :: cs => (hexValue? c).isSome && startsDigit cs

/-- Whether a percent sign has two hexadecimal digits behind it. -/
def hasEscape : List Char → Bool
  | [] => false
  | c :: cs => c == '%' && startsHex cs || hasEscape cs

theorem decode_escaped (bytes : List UInt8) (rest : List Char) :
    decode (bytes.flatMap escapeByte ++ rest) = bytes ++ decode rest := by
  induction bytes with
  | nil => rfl
  | cons b more ih =>
    rw [List.flatMap_cons, List.append_assoc, decode_escapeByte, ih, List.cons_append]

/-- A percent sign that begins no escape is read as itself. -/
theorem decode_percent (h : startsHex cs = false) : decode ('%' :: cs) = 37 :: decode cs := by
  match cs with
  | [] => simp [decode]
  | [_] => simp [decode]
  | high :: low :: rest =>
    rw [decode]
    split
    · next hhigh hlow => simp [startsHex, startsDigit, hhigh, hlow] at h
    · rfl

/-- A hexadecimal digit is a character of ASCII, and neither the blank nor the mark of an escape. -/
theorem range_of_hexValue? {n : Nat} (h : hexValue? c = some n) : 48 ≤ c.toNat ∧ c.toNat < 128 := by
  unfold hexValue? at h
  dsimp only at h
  split at h
  · omega
  · split at h
    · omega
    · split at h
      · omega
      · cases h

theorem isWireChar_of_hexValue? {n : Nat} (h : hexValue? c = some n) : isWireChar c = true := by
  obtain ⟨hlow, hascii⟩ := range_of_hexValue? h
  have hblank : c.toNat ≠ 32 := by omega
  simp [isWireChar, hascii, hblank]

theorem startsHex_eq_false (h : startsDigit cs = false) : startsHex cs = false := by
  cases cs with
  | nil => rfl
  | cons c rest =>
    rw [startsDigit] at h
    rw [startsHex, h, Bool.false_and]

theorem startsDigit_written (cs : List Char) : startsDigit (written cs) = startsDigit cs := by
  cases cs with
  | nil => simp
  | cons c rest =>
    rw [written_cons]
    cases hwire : isWireChar c with
    | true => simp [written_of_isWireChar hwire, startsDigit]
    | false =>
      have hdigit : hexValue? c = none := by
        apply Option.eq_none_iff_forall_ne_some.2
        intro n hn
        rw [isWireChar_of_hexValue? hn] at hwire
        cases hwire
      obtain ⟨b, more, hbytes⟩ := List.exists_cons_of_ne_nil (String.utf8EncodeChar_ne_nil (c := c))
      rw [written_of_not_isWireChar hwire, hbytes]
      simp only [startsDigit, hdigit]
      rfl

theorem startsHex_written (cs : List Char) : startsHex (written cs) = startsHex cs := by
  cases cs with
  | nil => simp
  | cons c rest =>
    cases hdigit : hexValue? c with
    | some n =>
      rw [written_cons, written_of_isWireChar (isWireChar_of_hexValue? hdigit),
        List.singleton_append, startsHex, startsHex, startsDigit_written]
    | none =>
      have hstart := startsDigit_written (c :: rest)
      simp only [startsDigit, hdigit, Option.isSome_none] at hstart
      rw [startsHex_eq_false hstart]
      simp [startsHex, hdigit]

/-- A character that begins no escape is read back. -/
theorem decode_written_cons (h : c = '%' → startsHex cs = false) :
    decode (written (c :: cs)) = String.utf8EncodeChar c ++ decode (written cs) := by
  rw [written_cons]
  cases hwire : isWireChar c with
  | false => rw [written_of_not_isWireChar hwire, decode_escaped]
  | true =>
    rw [written_of_isWireChar hwire, utf8EncodeChar_of_lt (lt_of_isWireChar hwire),
      List.singleton_append]
    by_cases hmark : c = '%'
    · subst hmark
      exact decode_percent (by rw [startsHex_written, h rfl])
    · exact decode_cons hmark (written cs)

/-- **What is written is read back** if the text has no escape of its own. -/
theorem decode_written (h : hasEscape cs = false) : decode (written cs) = bytes cs := by
  induction cs with
  | nil => simp [decode]
  | cons c rest ih =>
    rw [hasEscape, Bool.or_eq_false_iff] at h
    obtain ⟨hmark, hrest⟩ := h
    rw [decode_written_cons (by simpa using hmark), ih hrest, bytes_cons]

theorem exists_of_startsHex (h : startsHex cs = true) :
    ∃ high low rest, cs = high :: low :: rest ∧
      (hexValue? high).isSome = true ∧ (hexValue? low).isSome = true := by
  match cs with
  | [] => cases h
  | [_] => simp [startsHex, startsDigit] at h
  | high :: low :: rest =>
    rw [startsHex, startsDigit, Bool.and_eq_true] at h
    exact ⟨high, low, rest, rfl, h.1, h.2⟩

/-- An escape is read as one byte. -/
theorem length_decode_escape {high low : Char} (hhigh : (hexValue? high).isSome = true)
    (hlow : (hexValue? low).isSome = true) (rest : List Char) :
    (decode (written ('%' :: high :: low :: rest))).length =
    (decode (written rest)).length + 1 := by
  obtain ⟨hi, hhi⟩ := Option.isSome_iff_exists.1 hhigh
  obtain ⟨lo, hlo⟩ := Option.isSome_iff_exists.1 hlow
  rw [written_cons, written_cons high, written_cons low, written_of_isWireChar (by decide),
    written_of_isWireChar (isWireChar_of_hexValue? hhi),
    written_of_isWireChar (isWireChar_of_hexValue? hlo)]
  simp only [List.singleton_append]
  rw [decode, hhi, hlo]
  rfl

theorem le_length_bytes (cs : List Char) : cs.length ≤ (bytes cs).length := by
  induction cs with
  | nil => simp
  | cons c rest ih =>
    have hsome : 0 < (String.utf8EncodeChar c).length :=
      List.length_pos_iff.2 String.utf8EncodeChar_ne_nil
    rw [bytes_cons, List.length_append, List.length_cons]
    omega

/-- Reading never makes more bytes than were written. -/
theorem length_decode_written_le (cs : List Char) :
    (decode (written cs)).length ≤ (bytes cs).length := by
  induction hn : cs.length using Nat.strongRecOn generalizing cs with
  | ind n ih =>
    match cs with
    | [] => simp [decode]
    | c :: rest =>
      by_cases hescape : c = '%' ∧ startsHex rest = true
      · obtain ⟨rfl, hhex⟩ := hescape
        obtain ⟨high, low, more, rfl, hhigh, hlow⟩ := exists_of_startsHex hhex
        have hmore := ih more.length (by simp at hn; omega) more rfl
        rw [length_decode_escape hhigh hlow]
        simp only [bytes_cons, List.length_append]
        have hmark : (String.utf8EncodeChar '%').length = 1 := by decide
        omega
      · have hrest := ih rest.length (by simp at hn; omega) rest rfl
        have hmark : c = '%' → startsHex rest = false := fun h => by simpa [h] using hescape
        rw [decode_written_cons hmark, bytes_cons, List.length_append, List.length_append]
        omega

/-- **An escape of the text's own is lost**: its three characters are read as one byte. -/
theorem length_decode_written_lt (h : hasEscape cs = true) :
    (decode (written cs)).length < (bytes cs).length := by
  induction cs with
  | nil => cases h
  | cons c rest ih =>
    by_cases hescape : c = '%' ∧ startsHex rest = true
    · obtain ⟨rfl, hhex⟩ := hescape
      obtain ⟨high, low, more, rfl, hhigh, hlow⟩ := exists_of_startsHex hhex
      have hle := length_decode_written_le more
      have hthree := le_length_bytes ['%', high, low]
      rw [length_decode_escape hhigh hlow]
      simp only [bytes_cons, bytes_nil, List.length_append, List.length_cons,
        List.length_nil] at hthree ⊢
      omega
    · have hmark : c = '%' → startsHex rest = false := fun h => by simpa [h] using hescape
      have hrest : hasEscape rest = true := by
        rw [hasEscape, Bool.or_eq_true] at h
        rcases h with h | h
        · exact absurd (by simpa using h) hescape
        · exact h
      have hlt := ih hrest
      rw [decode_written_cons hmark, bytes_cons, List.length_append, List.length_append]
      omega

/-- Exactly the texts without an escape of their own are read back. -/
theorem decode_written_eq_iff : decode (written cs) = bytes cs ↔ hasEscape cs = false := by
  constructor
  · intro hread
    cases hescape : hasEscape cs with
    | false => rfl
    | true =>
      have hlt := length_decode_written_lt hescape
      rw [hread] at hlt
      exact absurd hlt (Nat.lt_irrefl _)
  · exact decode_written

end StackWatch.Url
