import TextDesk.Chars.AsciiCase
import TextDesk.Chars.SimpleFold

/-! # Folded texts

Folding goes further than ASCII case: texts that differ in ASCII case only are folded alike, and so are some
others.  It keeps the number of characters, and it leaves the signs in front of the capital letters alone.
-/

namespace TextDesk

/-- The spelling of a text with every letter folded. -/
def folded (s : List Char) : List Char := s.map simpleFold

/-- The ASCII case of a letter does not matter to its folding. -/
theorem simpleFold_toLower (c : Char) : simpleFold c.toLower = simpleFold c := by
  by_cases hc : 65 ≤ c.toNat ∧ c.toNat ≤ 90
  · have hcapitals : ∀ k < 26,
        simpleFold (Char.ofNat (65 + k)).toLower = simpleFold (Char.ofNat (65 + k)) := by
      decide +kernel
    have h := hcapitals (c.toNat - 65) (by omega)
    rwa [Nat.add_sub_cancel' hc.1, Char.ofNat_toNat] at h
  · have hsame : c.toLower = c := by
      unfold Char.toLower
      exact dif_neg hc
    rw [hsame]

/-- Texts that differ in ASCII case only are folded alike. -/
theorem folded_eq_of_lowered_eq {s t : List Char} (h : lowered s = lowered t) : folded s = folded t := by
  have hfolded (s : List Char) : folded s = (lowered s).map simpleFold := by
    simp [folded, lowered, simpleFold_toLower]
  rw [hfolded, hfolded, h]

/-- A text that is folded like two in a row is two in a row, since folding keeps the number of characters. -/
theorem exists_append_of_folded_eq {run s t : List Char} (h : folded (run ++ s) = folded t) :
    ∃ start rest, t = start ++ rest ∧ folded s = folded rest := by
  rw [folded, folded, List.map_append] at h
  rcases List.map_eq_append_iff.1 h.symm with ⟨start, rest, ht, -, hrest⟩
  exact ⟨start, rest, ht, hrest.symm⟩

/-- Letters fold to small letters and characters behind them, so what folds to another character is that
character. -/
theorem eq_of_simpleFold_lt {c : Char} (h : (simpleFold c).toNat < 0x61) : simpleFold c = c := by
  have htable : ∀ r ∈ foldRanges, 0x61 ≤ r.target
      ∧ (r.target + (r.last - r.first) < 0xD800
        ∨ 0xDFFF < r.target ∧ r.target + (r.last - r.first) < 0x110000) := by decide +kernel
  unfold simpleFold at h ⊢
  split
  · next r hr =>
    rw [hr] at h
    have hcovers := List.find?_some hr
    simp only [FoldRange.covers, Bool.and_eq_true, decide_eq_true_eq] at hcovers
    rcases htable r (List.mem_of_find?_eq_some hr) with ⟨htarget, hrange⟩
    have hvalid : (r.image c.toNat).isValidChar := by
      unfold Nat.isValidChar FoldRange.image
      omega
    have hcode : (Char.ofNat (r.image c.toNat)).toNat = r.image c.toNat := by
      rw [Char.ofNat, dif_pos hvalid]
      rfl
    dsimp only at h
    rw [hcode, FoldRange.image] at h
    omega
  · rfl

/-- The signs in front of the capital letters fold to themselves. -/
theorem simpleFold_of_lt {c : Char} (h : c.toNat < 0x41) : simpleFold c = c := by
  have htable : ∀ r ∈ foldRanges, 0x41 ≤ r.first := by decide +kernel
  have hnone : foldRanges.find? (·.covers c.toNat) = none := by
    rw [List.find?_eq_none]
    intro r hr hcovers
    simp only [FoldRange.covers, Bool.and_eq_true, decide_eq_true_eq] at hcovers
    have hfirst := htable r hr
    omega
  rw [simpleFold, hnone]

/-- A sign in front of the capital letters has no other spelling. -/
theorem sameLetter_eq_beq {c : Char} (hlt : c.toNat < 0x41) (d : Char) : sameLetter c d = (c == d) := by
  have hfold := simpleFold_of_lt hlt
  unfold sameLetter
  rw [hfold, Bool.eq_iff_iff, beq_iff_eq, beq_iff_eq]
  constructor
  · intro h
    have hself : simpleFold d = d := by
      apply eq_of_simpleFold_lt
      rw [← h]
      omega
    rwa [hself] at h
  · rintro rfl
    exact hfold.symm

/-- Only a line feed folds like a line feed. -/
theorem newline_mem_of_folded_eq {s t : List Char} (h : folded s = folded t) (hs : '\n' ∈ s) :
    '\n' ∈ t := by
  have hmem : simpleFold '\n' ∈ folded t := by
    rw [← h]
    exact List.mem_map_of_mem hs
  rcases List.mem_map.1 hmem with ⟨c, hc, hfold⟩
  have hsame : sameLetter '\n' c = true := beq_iff_eq.2 hfold.symm
  rw [sameLetter_eq_beq (by decide), beq_iff_eq] at hsame
  rwa [hsame]

end TextDesk
