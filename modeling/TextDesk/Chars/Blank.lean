/-! # Blank characters

Which characters separate words.  The set is the `White_Space` property of Unicode, which is wider
than `Char.isWhitespace`: it holds the vertical tab, the form feed, the next-line control and the
typographic spaces, and it does not hold zero-width characters.
-/

namespace TextDesk

/-- The ranges of the Unicode property `White_Space`, in ascending order, both ends included. -/
def blankRanges : List (Nat × Nat) :=
  [(0x9, 0xD), (0x20, 0x20), (0x85, 0x85), (0xA0, 0xA0), (0x1680, 0x1680), (0x2000, 0x200A),
   (0x2028, 0x2029), (0x202F, 0x202F), (0x205F, 0x205F), (0x3000, 0x3000)]

/-- Whether a character is blank, that is, has the Unicode property `White_Space`. -/
def isBlank (c : Char) : Bool :=
  blankRanges.any fun (first, last) => first ≤ c.toNat && c.toNat ≤ last

/-- Every character that core's ASCII class calls whitespace is blank. -/
theorem isBlank_of_isWhitespace {c : Char} (h : c.isWhitespace = true) : isBlank c = true := by
  simp only [Char.isWhitespace, Bool.or_eq_true, decide_eq_true_eq] at h
  rcases h with ((rfl | rfl) | rfl) | rfl <;> rfl

/-- A single space is blank. -/
theorem isBlank_space : isBlank ' ' = true := rfl

/-- A line feed is blank. -/
theorem isBlank_newline : isBlank '\n' = true := rfl

end TextDesk
