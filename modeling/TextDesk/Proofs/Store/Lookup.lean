import TextDesk.Proofs.Reachable
import TextDesk.Proofs.Store.NamePattern

/-! # The texts that a reference addresses

A reference with stars is a list of parts, and it addresses the texts whose names can be cut along them: a
stretch for every part, which spells it up to the folding of letters, and a run of characters between any
two.  A reference without a star addresses the first text of that name.  Main statement: this is what
looking up finds, in any store whose names are on one line.
-/

namespace TextDesk

namespace NamePattern

variable {q : Char} {part : List Char} {parts : List (List Char)} {pattern name : List Char}

/-! ## Names cut along the parts of a pattern -/

/-- The name is cut into one stretch for each part, spelled like the part up to folding, with a run of
characters, possibly none, between any two stretches. -/
inductive CutAlong : List (List Char) → List Char → Prop
  | last {part stretch : List Char} (h : folded stretch = folded part) : CutAlong [part] stretch
  | part {part stretch name : List Char} {parts : List (List Char)} (run : List Char)
      (h : folded stretch = folded part) (hrest : CutAlong parts name) :
      CutAlong (part :: parts) (stretch ++ (run ++ name))

/-- Along an empty part alone, only the empty name is cut. -/
theorem cutAlong_nil_iff : CutAlong [[]] name ↔ name = [] := by
  constructor
  · intro h
    cases h with
    | last h => simpa [folded] using h
    | part run h hrest => cases hrest
  · rintro rfl
    exact .last rfl

/-- Along an empty part in front of others, a name is a run and what is cut along the others. -/
theorem cutAlong_nil_cons_iff (hparts : parts ≠ []) :
    CutAlong ([] :: parts) name ↔ ∃ run rest, name = run ++ rest ∧ CutAlong parts rest := by
  constructor
  · intro h
    cases h with
    | last h => exact absurd rfl hparts
    | @part _ stretch rest _ run h hrest =>
      obtain rfl : stretch = [] := by simpa [folded] using h
      exact ⟨run, rest, rfl, hrest⟩
  · rintro ⟨run, rest, rfl, hrest⟩
    exact .part run (rfl : folded [] = folded []) hrest

/-- A stretch is spelled like a part if its first letter is spelled like that of the part and what follows
is spelled like what follows there. -/
theorem folded_eq_folded_cons_iff {stretch : List Char} : folded stretch = folded (q :: part)
    ↔ ∃ c rest, stretch = c :: rest ∧ sameLetter q c = true ∧ folded rest = folded part := by
  constructor
  · intro h
    cases stretch with
    | nil => simp [folded] at h
    | cons c rest =>
      rcases List.cons.inj h with ⟨hletter, hrest⟩
      exact ⟨c, rest, rfl, beq_iff_eq.2 hletter.symm, hrest⟩
  · rintro ⟨c, rest, rfl, hletter, hrest⟩
    have hfold : simpleFold q = simpleFold c := beq_iff_eq.1 hletter
    rw [folded, folded, List.map_cons, List.map_cons, hfold]
    exact congrArg _ hrest

/-- A name that is cut along parts starts with the first letter of the first part. -/
theorem cutAlong_cons_iff : CutAlong ((q :: part) :: parts) name
    ↔ ∃ c rest, name = c :: rest ∧ sameLetter q c = true ∧ CutAlong (part :: parts) rest := by
  constructor
  · intro h
    cases h with
    | last h =>
      rcases folded_eq_folded_cons_iff.1 h with ⟨c, rest, rfl, hletter, hrest⟩
      exact ⟨c, rest, rfl, hletter, .last hrest⟩
    | part run h hparts =>
      rcases folded_eq_folded_cons_iff.1 h with ⟨c, rest, rfl, hletter, hrest⟩
      exact ⟨c, _, rfl, hletter, .part run hrest hparts⟩
  · rintro ⟨c, rest, rfl, hletter, hcut⟩
    cases hcut with
    | last h => exact .last (folded_eq_folded_cons_iff.2 ⟨c, _, rfl, hletter, h⟩)
    | part run h hparts => exact .part run (folded_eq_folded_cons_iff.2 ⟨c, _, rfl, hletter, h⟩) hparts

/-- A pattern fits a name on one line exactly if the name can be cut along the parts of the pattern
between its stars. -/
theorem fits_iff_cutAlong (hname : '\n' ∉ name) :
    fits pattern name = true ↔ CutAlong (pattern.splitOn '*') name := by
  induction pattern generalizing name with
  | nil => rw [fits, List.splitOn_nil, cutAlong_nil_iff, List.isEmpty_iff]
  | cons q pattern ih =>
    rw [List.splitOn_cons_eq_if_modifyHead]
    by_cases hq : q = '*'
    · rw [hq, beq_self_eq_true, if_pos rfl, fits_star, holdsBehindRun_iff,
        cutAlong_nil_cons_iff (List.splitOn_ne_nil _ _)]
      constructor
      · rintro ⟨run, rest, rfl, -, hfits⟩
        rw [List.mem_append, not_or] at hname
        exact ⟨run, rest, rfl, (ih hname.2).1 hfits⟩
      · rintro ⟨run, rest, rfl, hcut⟩
        rw [List.mem_append, not_or] at hname
        exact ⟨run, rest, rfl, hname.1, (ih hname.2).2 hcut⟩
    · have hne : ¬ (q == '*') = true := by simpa using hq
      rcases List.exists_cons_of_ne_nil (List.splitOn_ne_nil '*' pattern) with ⟨part, parts, hparts⟩
      rw [if_neg hne, hparts, List.modifyHead_cons, cutAlong_cons_iff]
      cases name with
      | nil => simp [fits_letter_nil hq]
      | cons c rest =>
        rw [List.mem_cons, not_or] at hname
        rw [fits_letter_cons hq, Bool.and_eq_true, ih hname.2, hparts]
        constructor
        · rintro ⟨hletter, hcut⟩
          exact ⟨c, rest, rfl, hletter, hcut⟩
        · rintro ⟨d, later, hsame, hletter, hcut⟩
          rcases List.cons.inj hsame with ⟨rfl, rfl⟩
          exact ⟨hletter, hcut⟩

theorem isPattern_iff {reference : String} : isPattern reference = true ↔ '*' ∈ reference.toList := by
  rw [isPattern, List.contains_iff_mem]

end NamePattern

namespace Store

open NamePattern

variable {s : Store} {t : Text} {name reference : String}

/-! ## What a name addresses as a reference -/

/-- Without a star, a reference addresses the text that it names. -/
theorem lookup_of_not_isPattern (h : isPattern name = false) : s.lookup name = (s.get? name).toList := by
  rw [lookup, h, if_neg (by decide)]

/-- A name that is a pattern fits the text that it names. -/
theorem mem_lookup_of_get? (hline : '\n' ∉ t.name.toList) (hget : s.get? name = some t) :
    t ∈ s.lookup name := by
  have ht := List.mem_of_find?_eq_some hget
  have hname := List.find?_some hget
  cases hpattern : isPattern name with
  | true => exact lookup_of_spells hpattern hline ht (spells_self name.toList) hname
  | false =>
    rw [lookup_of_not_isPattern hpattern, hget]
    exact List.mem_singleton_self t

/-- The names of a tidy store are on one line. -/
theorem Tidy.newline_notMem (h : s.Tidy) (ht : t ∈ s.texts) : '\n' ∉ t.name.toList :=
  Element.newline_notMem_of_isWord (h.texts t ht).name

/-! ## What looking up finds -/

/-- The text is the first one in the store that has the name. -/
def FirstNamed (s : Store) (name : String) (t : Text) : Prop :=
  ∃ before behind, s.texts = before ++ t :: behind ∧ sameName t.name name = true
    ∧ ∀ u ∈ before, sameName u.name name = false

/-- A name gives the first text that has it. -/
theorem get?_eq_some_iff_firstNamed : s.get? name = some t ↔ s.FirstNamed name t := by
  rw [get?, List.find?_eq_some_iff_append]
  constructor
  · rintro ⟨hname, before, behind, htexts, hbefore⟩
    refine ⟨before, behind, htexts, hname, ?_⟩
    intro u hu
    simpa using hbefore u hu
  · rintro ⟨before, behind, htexts, hname, hbefore⟩
    refine ⟨hname, before, behind, htexts, ?_⟩
    intro u hu
    rw [hbefore u hu]
    rfl

/-- Printing what a reference addresses fails if it addresses nothing, and only then. -/
theorem print_error_iff :
    (∃ failure, s.print (some reference) = .error failure) ↔ s.lookup reference = [] := by
  rw [print]
  cases s.lookup reference with
  | nil => simp
  | cons t found => simp

section

open scoped Classical

/-- A pattern addresses the texts whose names can be cut along its parts. -/
theorem lookup_eq_filter_cutAlong (hlines : ∀ t ∈ s.texts, '\n' ∉ t.name.toList)
    (hpattern : isPattern reference = true) :
    s.lookup reference
      = s.texts.filter fun t => CutAlong (reference.toList.splitOn '*') t.name.toList := by
  rw [lookup, if_pos hpattern]
  apply List.filter_congr
  intro t ht
  rw [covers_eq_fits, Bool.eq_iff_iff, decide_eq_true_iff]
  exact fits_iff_cutAlong (hlines t ht)

/-- The names of reachable stores are on one line.  In every store of such names, a reference with a star
addresses, in store order, the texts whose names can be cut along its parts, and the text of a name is
among those that the name addresses as a reference.  In any store, a reference without a star addresses the
first text that has the name, if any has, and printing a reference fails exactly if it addresses no text. -/
theorem lookup_finds_cut_names : (∀ s : Store, s.Reachable → ∀ t ∈ s.texts, '\n' ∉ t.name.toList)
    ∧ ∀ (s : Store) (reference : String),
      ((∀ t ∈ s.texts, '\n' ∉ t.name.toList) →
        ('*' ∈ reference.toList → s.lookup reference
            = s.texts.filter fun t => CutAlong (reference.toList.splitOn '*') t.name.toList)
        ∧ ∀ t, s.get? reference = some t → t ∈ s.lookup reference)
      ∧ ('*' ∉ reference.toList →
          (∃ t, s.FirstNamed reference t ∧ s.lookup reference = [t])
          ∨ (∀ t ∈ s.texts, sameName t.name reference = false) ∧ s.lookup reference = [])
      ∧ ((∃ failure, s.print (some reference) = .error failure) ↔ s.lookup reference = []) := by
  refine ⟨fun s h t ht => h.tidy.newline_notMem ht, ?_⟩
  intro s reference
  refine ⟨?_, ?_, print_error_iff⟩
  · intro hlines
    constructor
    · intro hstar
      exact lookup_eq_filter_cutAlong hlines (isPattern_iff.2 hstar)
    · intro t hget
      exact mem_lookup_of_get? (hlines t (List.mem_of_find?_eq_some hget)) hget
  · intro hstar
    have hpattern : isPattern reference = false := by
      rwa [← Bool.not_eq_true, isPattern_iff]
    rw [lookup_of_not_isPattern hpattern]
    cases hget : s.get? reference with
    | some t => exact Or.inl ⟨t, get?_eq_some_iff_firstNamed.1 hget, rfl⟩
    | none =>
      have hnone := get?_eq_none_iff.1 hget
      rw [names, List.forall_mem_map] at hnone
      exact Or.inr ⟨hnone, rfl⟩

/-- The dot and the bracket of a pattern stand for themselves, its two stars for any two runs, and its
letters for every spelling, so the Kelvin sign is one of `k`. -/
theorem lookup_of_special_characters : ∃ s : Store, s.names = ["a.b.[\u212a", "ax[k", "A.[k"]
    ∧ (s.lookup "a.**[k").map Text.name = ["a.b.[\u212a", "A.[k"]
    ∧ ∀ t ∈ s.texts, CutAlong ("a.**[k".toList.splitOn '*') t.name.toList ↔ t.name ≠ "ax[k" := by
  let s : Store :=
    ⟨[{ name := "a.b.[\u212a", data := "" }, { name := "ax[k", data := "" },
      { name := "A.[k", data := "" }]⟩
  have hlines : ∀ t ∈ s.texts, '\n' ∉ t.name.toList := by decide
  have hfound : ∀ t ∈ s.texts, t ∈ s.lookup "a.**[k" ↔ t.name ≠ "ax[k" := by decide +kernel
  have hlookup := ((lookup_finds_cut_names.2 s "a.**[k").1 hlines).1 (by decide)
  refine ⟨s, rfl, by decide +kernel, ?_⟩
  intro t ht
  rw [← hfound t ht, hlookup, List.mem_filter, decide_eq_true_iff]
  exact (and_iff_right ht).symm

end

end Store

end TextDesk
