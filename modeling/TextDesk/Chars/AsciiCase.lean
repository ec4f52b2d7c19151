/-! # Names compared without regard to ASCII case

Keywords and text names are compared letter by letter with `A` to `Z` taken as `a` to `z`.  No other
character has a second spelling here: `É` and `é` are different names.
-/

namespace TextDesk

/-- The spelling of a text with every ASCII capital made small; other characters stay. -/
def lowered (s : List Char) : List Char := s.map Char.toLower

/-- Whether two strings are the same up to the case of ASCII letters. -/
def sameName (a b : String) : Bool := lowered a.toList == lowered b.toList

/-- Two strings are the same name exactly if their lowered spellings are equal. -/
theorem sameName_iff {a b : String} : sameName a b = true ↔ lowered a.toList = lowered b.toList := by
  simp [sameName]

/-- Every string is the same name as itself. -/
theorem sameName_refl (a : String) : sameName a a = true := by simp [sameName]

/-- Being the same name does not depend on the order of the two strings. -/
theorem sameName_comm (a b : String) : sameName a b = sameName b a := by
  rw [Bool.eq_iff_iff, sameName_iff, sameName_iff]
  exact eq_comm

/-- Being the same name is transitive. -/
theorem sameName_trans {a b c : String} (hab : sameName a b = true) (hbc : sameName b c = true) :
    sameName a c = true := by
  rw [sameName_iff] at hab hbc ⊢
  exact hab.trans hbc

/-- Two strings that are the same name as a third are the same name. -/
theorem sameName_of_both {a b c : String} (hac : sameName a c = true) (hbc : sameName b c = true) :
    sameName a b = true := by
  rw [sameName_comm] at hbc
  exact sameName_trans hac hbc

end TextDesk
