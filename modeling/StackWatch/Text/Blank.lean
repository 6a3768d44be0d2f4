import StackWatch.Text.Ranges

/-!
# Blank characters and trimming

A blank is a character with the Unicode property White_Space: twenty-five characters, of which the
zero-width space is not one. `trim` removes the blanks at both ends of a text.
-/

namespace StackWatch.Text

/-- The characters with the property White_Space. -/
def blankRanges : List (Nat × Nat) :=
  [(0x09, 0x0D), (0x20, 0x20), (0x85, 0x85), (0xA0, 0xA0), (0x1680, 0x1680), (0x2000, 0x200A),
   (0x2028, 0x2029), (0x202F, 0x202F), (0x205F, 0x205F), (0x3000, 0x3000)]

/-- Whether a character is blank. -/
def isBlank (c : Char) : Bool := inRanges blankRanges c.toNat

/-- The characters without the longest run of `p` at their end. -/
def dropTail (p : Char → Bool) (cs : List Char) : List Char := (cs.reverse.dropWhile p).reverse

/-- The characters without the blanks at both ends. -/
def trimChars (cs : List Char) : List Char := dropTail isBlank (cs.dropWhile isBlank)

/-- A text without the blanks at both ends. -/
def trim (s : String) : String := String.ofList (trimChars s.toList)

theorem dropTail_nil (p : Char → Bool) : dropTail p [] = [] := rfl

/-- What remains does not end in `p`. -/
theorem not_of_getLast?_dropTail {p : Char → Bool} {cs : List Char} {c : Char}
    (h : (dropTail p cs).getLast? = some c) : p c = false := by
  rw [dropTail, List.getLast?_reverse] at h
  have := List.head?_dropWhile_not p cs.reverse
  rw [h] at this
  simpa using this

end StackWatch.Text
