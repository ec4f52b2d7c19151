import TextDesk.Proofs.Words
import TextDesk.Text

/-! # Ends of a cursor and their tokens

A word of a command line denotes an end with exactly one field set, and an end of that form is read
back from how it is written.
-/

namespace TextDesk.Destination

/-- Exactly one field is set, and a word that is set would not be read as a position. -/
def WellFormed (d : Destination) : Prop :=
  (∃ n, d = { position := some n })
    ∨ ∃ w, d = { word := some w } ∧ IsWord w.toList ∧ isPosition w.toList = false

/-- The end that a word denotes has exactly one field set. -/
theorem wellFormed_ofToken {w : String} (hw : IsWord w.toList) : (ofToken w).WellFormed := by
  have hne : w.toList.isEmpty = false := by simpa using hw.1
  unfold ofToken
  rw [hne, if_neg (by decide)]
  -- a token is a position, or it is a word that is none
  split
  · exact Or.inl ⟨_, rfl⟩
  · next hpos => exact Or.inr ⟨w, rfl, hw, by simpa using hpos⟩

/-- The digits of a number denote the number. -/
theorem digitsValue_repr (n : Nat) : digitsValue n.repr.toList = n := by
  rw [Nat.toList_repr, digitsValue, Nat.ofDigitChars_ten_toDigits]

theorem isDigit_of_mem_repr {n : Nat} {c : Char} (hc : c ∈ n.repr.toList) : c.isDigit = true := by
  rw [Nat.toList_repr] at hc
  exact Nat.isDigit_of_mem_toDigits (by decide) (by decide) hc

/-- A number is written as a word. -/
theorem isWord_repr (n : Nat) : IsWord n.repr.toList := by
  constructor
  · rw [Nat.toList_repr]
    exact Nat.toDigits_ne_nil
  · intro c hc
    exact isBlank_of_isDigit (isDigit_of_mem_repr hc)

/-- A number of 64 bits is written as a position. -/
theorem isPosition_repr (n : UInt64) : isPosition n.toNat.repr.toList = true := by
  have hall : n.toNat.repr.toList.all Char.isDigit = true :=
    List.all_eq_true.2 fun c hc => isDigit_of_mem_repr hc
  simp only [isPosition, digitsValue_repr, hall, Bool.and_true, Bool.and_eq_true,
    Bool.not_eq_true', decide_eq_true_eq]
  exact ⟨by simp, n.toNat_lt_size⟩

/-- An end with one field set is written as a word. -/
theorem isWord_render {d : Destination} (h : d.WellFormed) : IsWord d.render.toList := by
  rcases h with ⟨n, rfl⟩ | ⟨w, rfl, hw, -⟩
  · exact isWord_repr n.toNat
  · exact hw

/-- An end with one field set is read back from how it is written. -/
theorem ofToken_render {d : Destination} (h : d.WellFormed) : ofToken d.render = d := by
  have hne : d.render.toList.isEmpty = false := by simpa using (isWord_render h).1
  unfold ofToken
  rw [hne, if_neg (by decide)]
  rcases h with ⟨n, rfl⟩ | ⟨w, rfl, -, hpos⟩
  · have hrender : render { position := some n } = n.toNat.repr := rfl
    rw [hrender, if_pos (isPosition_repr n), digitsValue_repr, UInt64.ofNat_toNat]
  · have hrender : render { word := some w } = w := rfl
    rw [hrender, if_neg (by simp [hpos])]

end TextDesk.Destination
