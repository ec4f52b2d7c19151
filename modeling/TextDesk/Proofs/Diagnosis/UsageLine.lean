import TextDesk.Proofs.Diagnosis

/-! # Falling through to the usage line

The matcher goes over the characters of a line, the diagnosis over its words.  Where a positional grammar
is the only one, they agree on every line: the diagnosis finds nothing wrong with any word, and holds the
whole line against the usage line, exactly if the line has the form of the grammar.

One direction is that words that fit leave nothing to report.  For the other, no report of a divergence
may look like the one on the whole line: what is found is a single word of a longer line, or the end of a
line of three words, and then the usage line is longer than what was expected.
-/

namespace TextDesk

/-! ## Spaces in messages -/

/-- Every word behind a space brings that space. -/
theorem length_le_count_spaced (ws : List String) : ws.length ≤ (spaced ws).count ' ' := by
  induction ws with
  | nil => exact Nat.zero_le _
  | cons w ws ih =>
    rw [spaced_cons, List.count_cons_self, List.count_append, List.length_cons]
    omega

/-- The usage line has a space between any two elements. -/
theorem Grammar.length_elements_le (g : Grammar) :
    g.elements.length ≤ g.usage.toList.count ' ' + 1 := by
  unfold Grammar.usage
  cases g.elements with
  | nil => exact Nat.zero_le _
  | cons e es =>
    have hspaces := length_le_count_spaced (es.map Element.render)
    rw [List.map_cons, toList_intercalate_cons, List.count_append, List.length_cons]
    rw [List.length_map] at hspaces
    omega

/-- What messages call a required element has two spaces at most: a fixed text is a word. -/
theorem Element.count_space_category {e : Element} (he : e.Proper) (hreq : e.isOptional = false) :
    e.category.toList.count ' ' ≤ 2 := by
  cases e with
  | literal text =>
    have hnone : ' ' ∉ text.toList := by
      intro hmem
      have hblank := he.2 ' ' hmem
      rw [isBlank_space] at hblank
      cases hblank
    rw [category, List.count_eq_zero.2 hnone]
    exact Nat.zero_le 2
  | optional inner => cases hreq
  | _ => decide

/-- Every fixed text in a positional list of elements is a word. -/
theorem Positional.proper {es : List Element} (h : Positional es) : ∀ e ∈ es, e.Proper := by
  induction h with
  | nil => simp
  | last he => simpa using he
  | cons hsingle he hes ih => exact List.forall_mem_cons.2 ⟨he, ih⟩

/-! ## No divergence looks like the whole line -/

namespace Grammar

variable {g : Grammar} {line w : String} {rest : List String}

/-- The elements of a positional grammar are positional. -/
theorem IsPositional.positional (hg : g.IsPositional) : Positional g.elements := by
  rcases hg with ⟨text, es, hels, htext, hes⟩
  rw [hels]
  exact .cons rfl htext hes

/-- A line that stops short of an element is never told as its own usage line. -/
theorem not_stopsShort_usage (hg : g.IsPositional) :
    ¬ StopsShort g.elements (lineWords line) g.usage (normalize line) := by
  rintro ⟨hfound, -, hmissing⟩
  rcases Option.map_eq_some_iff.1 hmissing with ⟨e, he, hcategory⟩
  -- the line reads like the end of a line, which has three words, so the missing element is a later one
  have hlen : (lineWords line).length = 3 := by
    rw [← lineWords_normalize, hfound]
    decide
  have hmem := List.mem_of_find?_eq_some he
  have hfour : 3 < g.elements.length := by
    have hpos := List.length_pos_of_mem hmem
    rw [List.length_drop, hlen] at hpos
    omega
  have hreq : e.isOptional = false := by simpa using List.find?_some he
  have hproper : e.Proper := hg.positional.proper e (List.mem_of_mem_drop hmem)
  have hfew := Element.count_space_category hproper hreq
  have hmany := g.length_elements_le
  rw [hcategory] at hfew
  omega

/-- No divergence of a line that starts with the keyword looks like the report on the whole line. -/
theorem divergence?_ne_usage (hg : g.IsPositional) (hline : lineWords line = w :: rest)
    (hw : g.answersTo w = true) :
    divergence? g.elements (lineWords line) ≠ some (g.usage, normalize line) := by
  intro hdiv
  rcases divergence?_cases hg.positional hdiv with ⟨i, hfound, -, -, hno⟩ | hshort
  · cases i with
    | zero =>
      -- the keyword itself fits
      rcases hg.exists_fits_of_answersTo hw with ⟨more, -, hfits⟩
      have hnone := hno more
      rw [hline, List.take_succ_cons, List.take_zero, List.singleton_append, hfits] at hnone
      cases hnone
    | succ i => exact ne_normalize_of_getElem? (Nat.succ_pos i) hfound rfl
  · exact not_stopsShort_usage hg hshort

/-- Of a set of one grammar, a word selects that grammar exactly if it is the keyword. -/
theorem select?_singleton (g : Grammar) (w : String) :
    (⟨[g]⟩ : CommandSet).select? w = if g.answersTo w then some g else none := by
  show [g].find? (fun g => g.answersTo w) = _
  rw [List.find?_singleton]

/-- Words that fit a positional grammar are reported as a whole, against the usage line. -/
theorem diagnose_of_fits (hg : g.IsPositional) (hfits : fits g.elements (lineWords line) = true) :
    CommandSet.diagnose ⟨[g]⟩ line = .mistake g.usage (normalize line) := by
  rcases exists_answersTo_of_fits hg hfits with ⟨w, rest, hline, hw⟩
  have hwords : (words line.toList).map String.ofList = w :: rest := hline
  have hnone := divergence?_eq_none_iff.2 hfits
  rw [hline] at hnone
  rw [CommandSet.diagnose, hwords]
  simp only [select?_singleton, hw, if_true, hnone]

/-- Only words that fit a positional grammar are reported against the usage line. -/
theorem fits_of_diagnose (hg : g.IsPositional)
    (h : CommandSet.diagnose ⟨[g]⟩ line = .mistake g.usage (normalize line)) :
    fits g.elements (lineWords line) = true := by
  cases hline : lineWords line with
  | nil =>
    have hwords : (words line.toList).map String.ofList = [] := hline
    rw [CommandSet.diagnose, hwords] at h
    cases h
  | cons w rest =>
    have hwords : (words line.toList).map String.ofList = w :: rest := hline
    rw [CommandSet.diagnose, hwords] at h
    simp only [select?_singleton] at h
    by_cases hw : g.answersTo w = true
    · simp only [hw, if_true] at h
      have hne := divergence?_ne_usage hg hline hw
      rw [hline] at hne
      cases hdiv : divergence? g.elements (w :: rest) with
      | none => exact divergence?_eq_none_iff.1 hdiv
      | some report =>
        rcases report with ⟨expected, found⟩
        rw [hdiv] at h hne
        rcases Diagnosis.mistake.inj h with ⟨rfl, rfl⟩
        exact absurd rfl hne
    · simp only [hw] at h
      cases h

/-- A line has the form of a positional grammar exactly if the diagnosis by that grammar alone finds no
place where it diverges, and so holds the whole line against the usage line. -/
theorem recognizes_normalize_iff_diagnose_eq_usage (hg : g.IsPositional) (line : String) :
    g.recognizes (normalize line) = true
      ↔ CommandSet.diagnose ⟨[g]⟩ line = .mistake g.usage (normalize line) := by
  have hrecognizes : g.recognizes (normalize line) = true
      ↔ fits g.elements (lineWords line) = true := by
    rw [recognizes, captures?_normalize hg]
    split <;> simp_all
  rw [hrecognizes]
  exact ⟨diagnose_of_fits hg, fits_of_diagnose hg⟩

/-- A line with a nested optional fixed text, in other ASCII case and wide spacing, is told as a whole. -/
theorem diagnose_eq_usage_of_nested_optional : ∃ g : Grammar, g.IsPositional
    ∧ g.elements = [.literal "größe", .number, .optional (.optional (.literal "cm²"))]
    ∧ g.recognizes (normalize " GRößE  12 CM² ") = true
    ∧ CommandSet.diagnose ⟨[g]⟩ " GRößE  12 CM² "
      = .mistake "größe <number> [[cm²]]" "GRößE 12 CM²" := by
  let g : Grammar :=
    { kind := .print
      elements := [.literal "größe", .number, .optional (.optional (.literal "cm²"))] }
  have hg : g.IsPositional :=
    ⟨_, _, rfl, by decide, .cons rfl trivial (.last (by decide : IsWord "cm²".toList))⟩
  have hrecognizes : g.recognizes (normalize " GRößE  12 CM² ") = true := by decide +kernel
  have hdiagnosis := (recognizes_normalize_iff_diagnose_eq_usage hg " GRößE  12 CM² ").1 hrecognizes
  have husage : g.usage = "größe <number> [[cm²]]" := by decide +kernel
  have hnormal : normalize " GRößE  12 CM² " = "GRößE 12 CM²" := by decide +kernel
  rw [husage, hnormal] at hdiagnosis
  exact ⟨g, hg, rfl, hrecognizes, hdiagnosis⟩

end Grammar

end TextDesk
