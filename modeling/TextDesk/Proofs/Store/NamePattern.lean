import TextDesk.Proofs.Folding
import TextDesk.Proofs.Store

/-! # Patterns and the names they spell

A pattern spells a name if the name is the pattern with a run of characters in place of every star.  The
texts that a pattern addresses are those whose names it spells up to the folding of letters:

* `NamePattern.fits_iff_exists_spells`: fitting is spelling up to folding, for names on one line;
* `Store.lookup_of_spells`: so every text that some spelling of the pattern names exactly is addressed.

Exact names agree up to ASCII case only, which tells more letters apart.  Main statement: a pattern
addresses no other texts than its spellings name exactly if none of its letters has a spelling in another
than the ASCII case.
-/

namespace TextDesk

/-! ## Letters -/

/-- The spellings of a letter differ in ASCII case only. -/
def IsPlain (c : Char) : Prop := ∀ d, sameLetter c d = true → c.toLower = d.toLower

namespace NamePattern

/-! ## Spelling -/

/-- The names that a pattern spells: a run of characters, possibly none, stands for every star. -/
inductive Spells : List Char → List Char → Prop
  | nil : Spells [] []
  | star {pattern name : List Char} (run : List Char) (h : Spells pattern name) :
      Spells ('*' :: pattern) (run ++ name)
  | letter {q : Char} {pattern name : List Char} (hq : q ≠ '*') (h : Spells pattern name) :
      Spells (q :: pattern) (q :: name)

/-- A pattern spells itself. -/
theorem spells_self (pattern : List Char) : Spells pattern pattern := by
  induction pattern with
  | nil => exact .nil
  | cons q pattern ih =>
    by_cases hq : q = '*'
    · rw [hq]
      exact .star ['*'] ih
    · exact .letter hq ih

/-- The letters of a pattern, without the stars. -/
def letters (pattern : List Char) : List Char := pattern.filter (· ≠ '*')

theorem letters_star (pattern : List Char) : letters ('*' :: pattern) = letters pattern := rfl

theorem letters_cons_of_ne {q : Char} (hq : q ≠ '*') (pattern : List Char) :
    letters (q :: pattern) = q :: letters pattern := by
  simp [letters, hq]

/-- A pattern spells its letters, as every star may stand for nothing. -/
theorem spells_letters (pattern : List Char) : Spells pattern (letters pattern) := by
  induction pattern with
  | nil => exact .nil
  | cons q pattern ih =>
    by_cases hq : q = '*'
    · rw [hq, letters_star]
      exact .star [] ih
    · rw [letters_cons_of_ne hq]
      exact .letter hq ih

/-- Whatever a pattern spells has all its letters. -/
theorem Spells.letters_sublist {pattern name : List Char} (h : Spells pattern name) :
    (letters pattern).Sublist name := by
  induction h with
  | nil => exact .slnil
  | star run h ih =>
    rw [letters_star]
    exact ih.trans (List.sublist_append_right run _)
  | letter hq h ih =>
    rw [letters_cons_of_ne hq]
    exact ih.cons_cons _

/-! ## Fitting is spelling up to folding -/

/-- A test holds behind a run if the run ends where the test holds, on the same line. -/
theorem holdsBehindRun_iff {test : List Char → Bool} {s : List Char} :
    holdsBehindRun test s = true ↔ ∃ run rest, s = run ++ rest ∧ '\n' ∉ run ∧ test rest = true := by
  induction s with
  | nil =>
    rw [holdsBehindRun]
    constructor
    · intro htest
      exact ⟨[], [], rfl, by simp, htest⟩
    · rintro ⟨run, rest, hs, -, htest⟩
      obtain ⟨-, rfl⟩ : run = [] ∧ rest = [] := by simpa using hs.symm
      exact htest
  | cons c s ih =>
    rw [holdsBehindRun, Bool.or_eq_true, Bool.and_eq_true, bne_iff_ne, ih]
    constructor
    · rintro (htest | ⟨hc, run, rest, rfl, hrun, htest⟩)
      · exact ⟨[], c :: s, rfl, by simp, htest⟩
      · exact ⟨c :: run, rest, rfl, by simp [hrun, hc.symm], htest⟩
    · rintro ⟨run, rest, hs, hrun, htest⟩
      cases run with
      | nil =>
        rw [hs]
        exact Or.inl htest
      | cons d run =>
        rcases List.cons.inj hs with ⟨rfl, rfl⟩
        rw [List.mem_cons, not_or] at hrun
        exact Or.inr ⟨Ne.symm hrun.1, run, rest, rfl, hrun.2, htest⟩

theorem fits_star (pattern name : List Char) :
    fits ('*' :: pattern) name = holdsBehindRun (fits pattern) name := by
  simp [fits]

theorem fits_letter_nil {q : Char} (hq : q ≠ '*') (pattern : List Char) :
    fits (q :: pattern) [] = false := by
  simp [fits, hq]

theorem fits_letter_cons {q : Char} (hq : q ≠ '*') (pattern : List Char) (c : Char)
    (rest : List Char) : fits (q :: pattern) (c :: rest) = (sameLetter q c && fits pattern rest) := by
  simp [fits, hq]

/-- A pattern fits a name on one line exactly if it spells the name up to folding. -/
theorem fits_iff_exists_spells {pattern name : List Char} (hname : '\n' ∉ name) :
    fits pattern name = true ↔ ∃ spelled, Spells pattern spelled ∧ folded spelled = folded name := by
  induction pattern generalizing name with
  | nil =>
    rw [fits, List.isEmpty_iff]
    constructor
    · rintro rfl
      exact ⟨[], .nil, rfl⟩
    · rintro ⟨spelled, hspells, hfolded⟩
      cases hspells
      simpa [folded] using hfolded.symm
  | cons q pattern ih =>
    by_cases hq : q = '*'
    · rw [hq, fits_star, holdsBehindRun_iff]
      constructor
      · rintro ⟨run, rest, rfl, -, hfits⟩
        rw [List.mem_append, not_or] at hname
        rcases (ih hname.2).1 hfits with ⟨spelled, hspells, hfolded⟩
        refine ⟨run ++ spelled, .star run hspells, ?_⟩
        rw [folded, folded, List.map_append, List.map_append]
        exact congrArg _ hfolded
      · rintro ⟨spelled, hspells, hfolded⟩
        cases hspells with
        | letter hstar _ => exact absurd rfl hstar
        | star run hspells =>
          -- the name is cut where the run ends
          rcases exists_append_of_folded_eq hfolded with ⟨start, rest, rfl, hrest⟩
          rw [List.mem_append, not_or] at hname
          exact ⟨start, rest, rfl, hname.1, (ih hname.2).2 ⟨_, hspells, hrest⟩⟩
    · cases name with
      | nil =>
        simp only [fits_letter_nil hq, Bool.false_eq_true, false_iff, not_exists, not_and]
        intro spelled hspells hfolded
        cases hspells with
        | star run hspells => exact hq rfl
        | letter _ hspells => simp [folded] at hfolded
      | cons c rest =>
        rw [List.mem_cons, not_or] at hname
        rw [fits_letter_cons hq, Bool.and_eq_true, ih hname.2, sameLetter, beq_iff_eq]
        constructor
        · rintro ⟨hletter, spelled, hspells, hfolded⟩
          refine ⟨q :: spelled, .letter hq hspells, ?_⟩
          rw [folded, folded, List.map_cons, List.map_cons, hletter]
          exact congrArg _ hfolded
        · rintro ⟨spelled, hspells, hfolded⟩
          cases hspells with
          | star run hspells => exact absurd rfl hq
          | @letter _ _ spelled _ hspells =>
            rcases List.cons.inj hfolded with ⟨hletter, hrest⟩
            exact ⟨hletter, spelled, hspells, hrest⟩

/-! ## Spelling up to ASCII case -/

/-- If the letters of a pattern are plain, it spells up to ASCII case what it spells up to folding. -/
theorem Spells.exists_lowered_eq {pattern spelled name : List Char} (h : Spells pattern spelled)
    (hplain : ∀ c ∈ letters pattern, IsPlain c) (hfolded : folded spelled = folded name) :
    ∃ exactly, Spells pattern exactly ∧ lowered exactly = lowered name := by
  induction h generalizing name with
  | nil =>
    have hnil : name = [] := by simpa [folded] using hfolded.symm
    rw [hnil]
    exact ⟨[], .nil, rfl⟩
  | star run h ih =>
    -- the star may stand for what the name has in its place
    rcases exists_append_of_folded_eq hfolded with ⟨start, rest, rfl, hrest⟩
    rcases ih hplain hrest with ⟨exactly, hspells, hlowered⟩
    refine ⟨start ++ exactly, .star start hspells, ?_⟩
    rw [lowered, lowered, List.map_append, List.map_append]
    exact congrArg _ hlowered
  | @letter q pattern spelled hq h ih =>
    rw [letters_cons_of_ne hq] at hplain
    rcases List.forall_mem_cons.1 hplain with ⟨hqplain, hplain⟩
    cases name with
    | nil => simp [folded] at hfolded
    | cons d rest =>
      rcases List.cons.inj hfolded with ⟨hletter, hrest⟩
      rcases ih hplain hrest with ⟨exactly, hspells, hlowered⟩
      have hcase : q.toLower = d.toLower := hqplain d (beq_iff_eq.2 hletter)
      refine ⟨q :: exactly, .letter hq hspells, ?_⟩
      rw [lowered, lowered, List.map_cons, List.map_cons, hcase]
      exact congrArg _ hlowered

/-- A pattern with a letter that is not plain spells some name up to folding, but not up to ASCII case. -/
theorem exists_spells_of_not_isPlain {pattern : List Char} {c : Char} (hc : c ∈ letters pattern)
    (hplain : ¬ IsPlain c) (hline : '\n' ∉ pattern) :
    ∃ name, '\n' ∉ name ∧ (∃ spelled, Spells pattern spelled ∧ folded spelled = folded name)
      ∧ ∀ exactly, Spells pattern exactly → lowered exactly ≠ lowered name := by
  obtain ⟨d, hletter, hcase⟩ : ∃ d, sameLetter c d = true ∧ c.toLower ≠ d.toLower := by
    simpa [IsPlain] using hplain
  -- the name has the letters of the pattern, one of them in its other spelling
  rcases List.append_of_mem hc with ⟨before, behind, hletters⟩
  have hfolded : folded (letters pattern) = folded (before ++ d :: behind) := by
    rw [hletters]
    simp only [folded, List.map_append, List.map_cons]
    rw [beq_iff_eq.1 hletter]
  refine ⟨before ++ d :: behind, ?_, ⟨letters pattern, spells_letters pattern, hfolded⟩, ?_⟩
  · intro hmem
    exact hline (List.mem_filter.1 (newline_mem_of_folded_eq hfolded.symm hmem)).1
  · -- counting the letter in its ASCII cases, an exact spelling has one more
    intro exactly hspells hlowered
    have hcount := (hspells.letters_sublist.map Char.toLower).count_le c.toLower
    rw [hletters] at hcount
    have hsame : exactly.map Char.toLower = (before ++ d :: behind).map Char.toLower := hlowered
    rw [hsame] at hcount
    simp only [List.map_append, List.map_cons, List.count_append, List.count_cons_self,
      List.count_cons_of_ne (Ne.symm hcase)] at hcount
    omega

end NamePattern

namespace Store

open NamePattern

variable {s : Store} {t : Text} {pattern : String}

/-- A pattern addresses the texts whose names it spells up to folding. -/
theorem mem_lookup_iff_exists_spells (hpattern : isPattern pattern = true) (hline : '\n' ∉ t.name.toList) :
    t ∈ s.lookup pattern ↔ t ∈ s.texts
      ∧ ∃ spelled, Spells pattern.toList spelled ∧ folded spelled = folded t.name.toList := by
  rw [lookup, if_pos hpattern, List.mem_filter, covers_eq_fits, fits_iff_exists_spells hline]

/-- A pattern addresses every text that one of its spellings names. -/
theorem lookup_of_spells (hpattern : isPattern pattern = true) (hline : '\n' ∉ t.name.toList)
    (ht : t ∈ s.texts) {name : String} (hspells : Spells pattern.toList name.toList)
    (hname : sameName t.name name = true) : t ∈ s.lookup pattern := by
  have hfolded := folded_eq_of_lowered_eq (sameName_iff.1 hname)
  exact (mem_lookup_iff_exists_spells hpattern hline).2 ⟨ht, _, hspells, hfolded.symm⟩

/-- In stores whose names are on one line, a pattern addresses every text that one of its spellings names
exactly.  It addresses no others, in any such store, exactly if it has a line feed, and so addresses
nothing, or the spellings of each of its letters differ in ASCII case only. -/
theorem pattern_addresses_spellings_only_iff (hpattern : isPattern pattern = true) :
    (∀ s : Store, (∀ t ∈ s.texts, '\n' ∉ t.name.toList) → ∀ t ∈ s.texts,
        (∃ name : String, Spells pattern.toList name.toList ∧ sameName t.name name = true) →
          t ∈ s.lookup pattern)
      ∧ ((∀ s : Store, (∀ t ∈ s.texts, '\n' ∉ t.name.toList) → ∀ t ∈ s.lookup pattern,
            ∃ name : String, Spells pattern.toList name.toList ∧ sameName t.name name = true)
        ↔ '\n' ∈ pattern.toList ∨ ∀ c ∈ letters pattern.toList, IsPlain c) := by
  refine ⟨?_, ?_, ?_⟩
  · rintro s hlines t ht ⟨name, hspells, hname⟩
    exact lookup_of_spells hpattern (hlines t ht) ht hspells hname
  · intro h
    by_contra hnot
    rw [not_or] at hnot
    obtain ⟨c, hc, hplain⟩ : ∃ c ∈ letters pattern.toList, ¬ IsPlain c := by simpa using hnot.2
    rcases exists_spells_of_not_isPlain hc hplain hnot.1 with ⟨name, hline, hfolded, hexactly⟩
    -- a store with one text of that name
    let t : Text := { name := String.ofList name, data := "" }
    have hname : t.name.toList = name := String.toList_ofList
    have hlines : ∀ u ∈ [t], '\n' ∉ u.name.toList := by simpa [hname] using hline
    have hmem : t ∈ (⟨[t]⟩ : Store).lookup pattern := by
      rw [mem_lookup_iff_exists_spells hpattern (hlines t (by simp)), hname]
      exact ⟨by simp, hfolded⟩
    rcases h ⟨[t]⟩ hlines t hmem with ⟨spelled, hspells, hsame⟩
    rw [sameName_iff, hname] at hsame
    exact hexactly _ hspells hsame.symm
  · rintro h s hlines t ht
    have hline := hlines t (mem_of_mem_lookup ht)
    rcases (mem_lookup_iff_exists_spells hpattern hline).1 ht with ⟨-, spelled, hspells, hfolded⟩
    rcases h with hfeed | hplain
    · -- a line feed of the pattern is one of whatever it spells
      have hletter : '\n' ∈ letters pattern.toList := List.mem_filter.2 ⟨hfeed, by decide⟩
      have hspelled : '\n' ∈ spelled := hspells.letters_sublist.subset hletter
      exact absurd (newline_mem_of_folded_eq hfolded hspelled) hline
    · rcases hspells.exists_lowered_eq hplain hfolded with ⟨exactly, hspells, hlowered⟩
      refine ⟨String.ofList exactly, by rwa [String.toList_ofList], ?_⟩
      rw [sameName_iff, String.toList_ofList, hlowered]

/-- A capital letter outside of ASCII is not plain, so some store has a text that only the pattern
addresses, besides those that a spelling names. -/
theorem pattern_of_accented_capital : isPattern "É*" = true
    ∧ (∃ t ∈ (⟨[{ name := "École", data := "" }]⟩ : Store).lookup "É*", t.name = "École")
    ∧ ¬ ∀ s : Store, (∀ t ∈ s.texts, '\n' ∉ t.name.toList) → ∀ t ∈ s.lookup "É*",
        ∃ name : String, Spells "É*".toList name.toList ∧ sameName t.name name = true := by
  have hpattern : isPattern "É*" = true := by decide
  have h := pattern_addresses_spellings_only_iff hpattern
  refine ⟨hpattern, ⟨{ name := "École", data := "" }, ?_, rfl⟩, ?_⟩
  · have hspells : Spells "É*".toList "École".toList := .letter (by decide) (.star "cole".toList .nil)
    exact h.1 ⟨[{ name := "École", data := "" }]⟩ (by decide) _ (by simp)
      ⟨"École", hspells, sameName_refl "École"⟩
  · intro honly
    rcases h.2.1 honly with hfeed | hplain
    · exact absurd hfeed (by decide)
    · have hcase : 'É'.toLower = 'é'.toLower := hplain 'É' (by decide) 'é' (by decide +kernel)
      exact absurd hcase (by decide)

/-- A pattern of a capital letter addresses a text whose name starts with the small letter, although no
spelling of the pattern is that name. -/
theorem lookup_of_accented_capital :
    (⟨[{ name := "été", data := "" }]⟩ : Store).lookup "É*" = [{ name := "été", data := "" }]
      ∧ ∀ name : String, Spells "É*".toList name.toList → sameName "été" name = false := by
  refine ⟨by decide +kernel, ?_⟩
  intro name hspells
  rw [← Bool.not_eq_true, sameName_iff]
  intro hlowered
  -- every spelling starts with the capital letter, which has no small one in ASCII
  obtain ⟨rest, hrest⟩ : ∃ rest, name.toList = 'É' :: rest := by
    have hpattern : "É*".toList = ['É', '*'] := by decide
    rw [hpattern] at hspells
    generalize name.toList = spelled at hspells
    cases hspells with
    | @letter _ _ rest _ h => exact ⟨rest, rfl⟩
  rw [hrest] at hlowered
  have hhead := congrArg List.head? hlowered
  exact absurd hhead (by simp [lowered])

end Store

end TextDesk
