import StackWatch.Text.Percent

/-!
# Percent-encoded texts

A percent-encoded text can be read back byte by byte, so that two texts are never
encoded alike (`encode_injective`), and none of the characters that structure a URL
occurs in it (`not_mem_encode`).
-/

namespace StackWatch.Percent

theorem hexValue?_hexDigit : ∀ n < 16, hexValue? (hexDigit n) = some n := by decide

/-- A byte that stands for itself is not the mark of an escape, and is one character. -/
theorem kept_byte : ∀ n < 256, isUnreserved (UInt8.ofNat n) = true →
    Char.ofNat n ≠ '%' ∧ (Char.ofNat n).toNat = n := by decide +kernel

/-- A character that begins no escape is read as itself. -/
theorem decode_cons {c : Char} (hc : c ≠ '%') (rest : List Char) :
    decode (c :: rest) = c.toNat.toUInt8 :: decode rest := by
  rw [decode]
  exact fun _ _ _ hmark _ => hc hmark

/-- An escaped byte is read back. -/
theorem decode_escapeByte (b : UInt8) (rest : List Char) :
    decode (escapeByte b ++ rest) = b :: decode rest := by
  have hhigh : b.toNat / 16 < 16 := Nat.div_lt_of_lt_mul b.toNat_lt
  have hlow : b.toNat % 16 < 16 := Nat.mod_lt _ (by decide)
  change decode ('%' :: hexDigit (b.toNat / 16) :: hexDigit (b.toNat % 16) :: rest) = _
  rw [decode, hexValue?_hexDigit _ hhigh, hexValue?_hexDigit _ hlow]
  dsimp only
  rw [Nat.div_add_mod, UInt8.ofNat_toNat]

/-- **What is encoded is read back**, by induction on the bytes. -/
theorem decode_encodeBytes : ∀ bytes : List UInt8, decode (encodeBytes isUnreserved bytes) = bytes
  | [] => by rw [encodeBytes, List.flatMap_nil, decode]
  | b :: bytes => by
    have ih := decode_encodeBytes bytes
    rw [encodeBytes] at ih ⊢
    rw [List.flatMap_cons]
    split
    · next hkept =>
      obtain ⟨hmark, hvalue⟩ := kept_byte b.toNat b.toNat_lt (by rwa [UInt8.ofNat_toNat])
      rw [List.singleton_append, decode_cons hmark, hvalue, ih]
      simp
    · rw [decode_escapeByte, ih]

theorem bytesOf_injective {s t : String} (h : bytesOf s = bytesOf t) : s = t :=
  String.toByteArray_inj.1 (ByteArray.ext (Array.toList_inj.1 h))

/-- **Two texts are not encoded alike.** -/
theorem encode_injective {s t : String} (h : encode s = encode t) : s = t := by
  have hbytes := congrArg decode (String.ofList_injective h)
  rw [decode_encodeBytes, decode_encodeBytes] at hbytes
  exact bytesOf_injective hbytes

/-- The characters that structure a URL. -/
def separators : List Char := ['/', '?', '&', '=', '#']

theorem kept_not_mem_separators : ∀ n < 256, isUnreserved (UInt8.ofNat n) = true →
    Char.ofNat n ∉ separators := by decide +kernel

theorem hexDigit_not_mem_separators : ∀ n < 16, hexDigit n ∉ separators := by decide

/-- An escape consists of its mark and of digits. -/
theorem not_mem_escapeByte {c : Char} (hc : c ∈ separators) (b : UInt8) : c ∉ escapeByte b := by
  have hhigh : b.toNat / 16 < 16 := Nat.div_lt_of_lt_mul b.toNat_lt
  have hlow : b.toNat % 16 < 16 := Nat.mod_lt _ (by decide)
  simp only [escapeByte, List.mem_cons, List.not_mem_nil, or_false, not_or]
  refine ⟨?_, ?_, ?_⟩
  · rintro rfl
    exact absurd hc (by decide)
  · rintro rfl
    exact hexDigit_not_mem_separators _ hhigh hc
  · rintro rfl
    exact hexDigit_not_mem_separators _ hlow hc

/-- **No separator occurs in an encoded text.** -/
theorem not_mem_encode {c : Char} (hc : c ∈ separators) (s : String) : c ∉ (encode s).toList := by
  rw [encode, String.toList_ofList, encodeBytes, List.mem_flatMap]
  rintro ⟨b, -, hb⟩
  split at hb
  · next hkept =>
    rw [List.mem_singleton.1 hb] at hc
    exact kept_not_mem_separators b.toNat b.toNat_lt (by rwa [UInt8.ofNat_toNat]) hc
  · exact not_mem_escapeByte hc b hb

end StackWatch.Percent
