import TextDesk.Proofs.Command.Spelling

/-! # The diagnosis of a line

A line that is neither a command nor the end of the session stops being completable somewhere: at the
first word that no accepted line has there, or at its end.  Main statement: this is what the diagnosis
reports, with what the grammar of the keyword wants at that place.

`divergence?_cases` states this of the elements of any positional grammar; the rest of the module
carries it over to lines of the standard command set.
-/

namespace TextDesk

/-! ## Completing words -/

namespace Element

/-- A word that the element accepts. -/
def sample : Element → String
  | literal text => text
  | direction => forwardMark
  | optional inner => inner.sample
  | _ => "0"

theorem isWord_sample {e : Element} (he : e.Proper) : IsWord e.sample.toList := by
  induction e with
  | literal text => exact he
  | optional inner ih => exact ih he
  | _ => decide

theorem accepts_sample (e : Element) : e.accepts e.sample = true := by
  induction e with
  | literal text => exact sameName_refl text
  | optional inner ih => exact ih
  | _ => decide

end Element

/-- Words that fit elements, none for those that may be left out. -/
def fill (es : List Element) : List String := (es.filter (!·.isOptional)).map Element.sample

/-- What a positional list of elements says of its first element and of the others. -/
theorem Positional.uncons {e : Element} {es : List Element} (h : Positional (e :: es)) :
    e.Proper ∧ Positional es ∧ (es ≠ [] → e.isSingle = true) := by
  cases h with
  | last he => exact ⟨he, .nil, fun hne => absurd rfl hne⟩
  | cons hsingle he hes => exact ⟨he, hes, fun _ => hsingle⟩

theorem isWord_of_mem_fill {es : List Element} (hes : Positional es) :
    ∀ w ∈ fill es, IsWord w.toList := by
  induction es with
  | nil => simp [fill]
  | cons e es ih =>
    rcases hes.uncons with ⟨he, hrest, -⟩
    intro w hw
    rcases List.mem_map.1 hw with ⟨d, hd, rfl⟩
    rcases List.mem_filter.1 hd with ⟨hmem, hreq⟩
    rcases List.mem_cons.1 hmem with rfl | hmem
    · exact Element.isWord_sample he
    · exact ih hrest _ (List.mem_map_of_mem (List.mem_filter.2 ⟨hmem, hreq⟩))

/-- The words made for elements fit them. -/
theorem fits_fill {es : List Element} (hes : Positional es) : fits es (fill es) = true := by
  induction hes with
  | nil => rfl
  | @last e he =>
    cases hopt : e.isOptional with
    | true => simp [fill, hopt, fits]
    | false => simp [fill, hopt, fits, Element.accepts_sample]
  | @cons e es hsingle he hes ih =>
    have hopt := Element.isOptional_of_isSingle hsingle
    have hfill : fill (e :: es) = e.sample :: fill es := by simp [fill, hopt]
    rw [hfill, fits_cons_iff hsingle]
    exact ⟨e.sample, fill es, rfl, e.accepts_sample, ih⟩

/-- Behind the keyword of a positional grammar there are words that make all fit. -/
theorem Grammar.IsPositional.exists_fits_of_answersTo {g : Grammar} (hg : g.IsPositional) {w : String}
    (hw : g.answersTo w = true) :
    ∃ more, (∀ v ∈ more, IsWord v.toList) ∧ fits g.elements (w :: more) = true := by
  rcases hg with ⟨text, es, hels, -, hes⟩
  have hacc : (Element.literal text).accepts w = true := by
    simpa [answersTo, keyword?, hels, Element.accepts, sameName_comm] using hw
  refine ⟨fill es, isWord_of_mem_fill hes, ?_⟩
  rw [hels, fits_cons_iff rfl]
  exact ⟨w, fill es, rfl, hacc, fits_fill hes⟩

/-! ## The first divergence from elements -/

/-- The word `found` is the first behind which no words fit, and `expected` is what the elements want
at its place. -/
def Misfits (es : List Element) (ws : List String) (expected found : String) : Prop :=
  ∃ i, ws[i]? = some found ∧ expected = (es[i]?.map Element.category).getD endOfLine
    ∧ (∃ more, (∀ w ∈ more, IsWord w.toList) ∧ fits es (ws.take i ++ more) = true)
    ∧ ∀ more, fits es (ws.take (i + 1) ++ more) = false

/-- Words fit behind the given ones, and `expected` is the first required element there. -/
def StopsShort (es : List Element) (ws : List String) (expected found : String) : Prop :=
  found = endOfLine
    ∧ (∃ more, more ≠ [] ∧ (∀ w ∈ more, IsWord w.toList) ∧ fits es (ws ++ more) = true)
    ∧ ((es.drop ws.length).find? (!·.isOptional)).map Element.category = some expected

/-- Elements of which a required one is missing can be filled. -/
theorem stopsShort_of_missingElement? {es : List Element} (hes : Positional es)
    {expected found : String} (h : missingElement? es = some (expected, found)) :
    StopsShort es [] expected found := by
  rcases Option.map_eq_some_iff.1 h with ⟨e, he, heq⟩
  rcases Prod.mk.inj heq with ⟨rfl, rfl⟩
  refine ⟨rfl, ⟨fill es, ?_, isWord_of_mem_fill hes, fits_fill hes⟩, by simp [he]⟩
  intro hnil
  have hreq := List.find?_some he
  have hmem : e ∈ es.filter (!·.isOptional) :=
    List.mem_filter.2 ⟨List.mem_of_find?_eq_some he, hreq⟩
  rw [List.map_eq_nil_iff.1 hnil] at hmem
  exact absurd hmem List.not_mem_nil

/-- A divergence is the first word that does not fit, or the end of words that do. -/
theorem divergence?_cases {es : List Element} (hes : Positional es) {ws : List String}
    {expected found : String} (h : divergence? es ws = some (expected, found)) :
    Misfits es ws expected found ∨ StopsShort es ws expected found := by
  induction es generalizing ws with
  | nil =>
    cases ws with
    | nil => exact Or.inr (stopsShort_of_missingElement? hes h)
    | cons w rest =>
      obtain ⟨rfl, rfl⟩ : endOfLine = expected ∧ w = found := by simpa [divergence?] using h
      exact Or.inl ⟨0, rfl, rfl, ⟨[], by simp, rfl⟩, fun more => rfl⟩
  | cons e es ih =>
    rcases hes.uncons with ⟨he, hrest, hsingle⟩
    cases ws with
    | nil => exact Or.inr (stopsShort_of_missingElement? hes h)
    | cons w rest =>
      rw [divergence?] at h
      cases habs : e.absorbsRest with
      | true =>
        -- only the last element takes several words, so nothing can be missing behind it
        have hnil : es = [] := by
          cases es with
          | nil => rfl
          | cons d es =>
            have h := Element.absorbsRest_of_isSingle (hsingle (List.cons_ne_nil d es))
            rw [habs] at h
            cases h
        simp [habs, hnil, missingElement?] at h
      | false =>
        have hfits (more : List String) :
            fits (e :: es) (w :: more) = (e.accepts w && fits es more) := by simp [fits, habs]
        rw [habs, if_neg (by decide)] at h
        cases hacc : e.accepts w with
        | true =>
          rw [hacc, if_pos rfl] at h
          rcases ih hrest h with ⟨i, hi, hexp, ⟨more, hmore, hfit⟩, hno⟩
            | ⟨rfl, ⟨more, hne, hmore, hfit⟩, hmiss⟩
          · -- the divergence is among the later words, one place further on
            refine Or.inl ⟨i + 1, hi, hexp, ⟨more, hmore, ?_⟩, ?_⟩
            · rw [List.take_succ_cons, List.cons_append, hfits, hacc, hfit]
              rfl
            · intro more
              rw [List.take_succ_cons, List.cons_append, hfits, hno, Bool.and_false]
          · refine Or.inr ⟨rfl, ⟨more, hne, hmore, ?_⟩, hmiss⟩
            rw [List.cons_append, hfits, hacc, hfit]
            rfl
        | false =>
          rw [hacc, if_neg (by decide)] at h
          obtain ⟨rfl, rfl⟩ : e.category = expected ∧ w = found := by simpa using h
          refine Or.inl ⟨0, rfl, rfl, ⟨fill (e :: es), isWord_of_mem_fill hes, ?_⟩, ?_⟩
          · exact fits_fill hes
          · intro more
            rw [List.take_succ_cons, List.cons_append, hfits, hacc, Bool.false_and]

/-- A later word of a line is not the whole line, which has two words at least. -/
theorem ne_normalize_of_getElem? {line found : String} {i : Nat} (hi : 1 ≤ i)
    (hfound : (lineWords line)[i]? = some found) : found ≠ normalize line := by
  rintro rfl
  have hword : IsWord (normalize line).toList :=
    isWord_of_mem_lineWords (List.mem_of_getElem? hfound)
  have hone := lineWords_of_isWord hword
  rw [lineWords_normalize] at hone
  have hlen := (List.getElem?_eq_some_iff.1 hfound).1
  rw [hone, List.length_singleton] at hlen
  omega

/-! ## Lines of the standard commands -/

namespace CommandSet

/-- The line is a command or ends the session. -/
def Accepts (set : CommandSet) (line : String) : Prop :=
  (∃ c, set.command? line = some c) ∨ set.isQuit line = true

/-- Some accepted line starts with the words. -/
def Completable (set : CommandSet) (ws : List String) : Prop :=
  ∃ line, set.Accepts line ∧ ws <+: lineWords line

/-- There is no first word, or it is no keyword. -/
def LacksKeyword (set : CommandSet) (ws : List String) : Prop :=
  ∀ w ∈ ws.head?, ∀ k ∈ set.keywords, sameName k w = false

variable {line : String}

/-- A line is accepted exactly if its words fit a grammar. -/
theorem accepts_standard_iff :
    standard.Accepts line ↔ ∃ g ∈ standard.grammars, fits g.elements (lineWords line) = true := by
  constructor
  · rintro (⟨c, hc⟩ | hquit)
    · rcases (command?_eq_some_iff isKeyed_standard).1 hc with ⟨g, hg, hfits, -⟩
      exact ⟨g, hg, hfits⟩
    · rcases quit_mem_standard with ⟨g, hg, -, hels⟩
      exact ⟨g, hg, by rw [hels, ← isQuit_standard_iff_fits, hquit]⟩
  · rintro ⟨g, hg, hfits⟩
    by_cases hkind : g.kind = .quit
    · rw [elements_of_kind_eq_quit hg hkind] at hfits
      exact Or.inr (isQuit_standard_iff_fits.2 hfits)
    · rcases Command.exists_spelled_of_fits hg hkind hfits with ⟨c, hc⟩
      exact Or.inl ⟨c, command?_standard_iff.2 hc⟩

/-- A line whose first word selects a grammar is accepted exactly if its words fit that grammar. -/
theorem accepts_standard_iff_of_select? {w : String} {rest : List String} {g : Grammar}
    (hg : standard.select? w = some g) (hline : lineWords line = w :: rest) :
    standard.Accepts line ↔ fits g.elements (lineWords line) = true := by
  rcases of_select?_eq_some hg with ⟨hmem, hw⟩
  rw [accepts_standard_iff]
  constructor
  · rintro ⟨h, hh, hfits⟩
    obtain ⟨v, rest', hv, hhv⟩ :=
      Grammar.exists_answersTo_of_fits (isKeyed_standard.positional h hh) hfits
    rcases List.cons.inj (hline.symm.trans hv) with ⟨rfl, -⟩
    rwa [eq_of_answersTo isKeyed_standard hmem hh hw hhv]
  · intro hfits
    exact ⟨g, hmem, hfits⟩

/-- A first word selects no grammar exactly if it is no keyword. -/
theorem lacksKeyword_cons_iff {set : CommandSet} {w : String} {rest : List String} :
    set.LacksKeyword (w :: rest) ↔ set.select? w = none := by
  have hselect : set.select? w = none ↔ ∀ g ∈ set.grammars, g.answersTo w = false := by
    simp [select?, List.find?_eq_none, Grammar.answersTo]
  rw [hselect]
  constructor
  · intro h g hg
    by_contra hw
    rcases Grammar.answersTo_iff.1 (by simpa using hw) with ⟨k, hk, hkw⟩
    have hno := h w rfl k (List.mem_filterMap.2 ⟨g, hg, hk⟩)
    rw [hkw] at hno
    cases hno
  · rintro h v ⟨⟩ k hk
    rcases List.mem_filterMap.1 hk with ⟨g, hg, hgk⟩
    by_contra hkw
    have hw := Grammar.answersTo_iff.2 ⟨k, hgk, by simpa using hkw⟩
    rw [h g hg] at hw
    cases hw

/-- A line without a keyword is not accepted. -/
theorem not_accepts_of_lacksKeyword (h : standard.LacksKeyword (lineWords line)) :
    ¬ standard.Accepts line := by
  intro haccepts
  rcases accepts_standard_iff.1 haccepts with ⟨g, hg, hfits⟩
  rcases Grammar.exists_answersTo_of_fits (isKeyed_standard.positional g hg) hfits with
    ⟨w, rest, hline, hw⟩
  have hselect := (select?_eq_some_iff isKeyed_standard).2 ⟨hg, hw⟩
  rw [hline, lacksKeyword_cons_iff, hselect] at h
  cases h

/-- What reading a line that is no command reports. -/
theorem read_of_command?_eq_none {set : CommandSet} (h : set.command? line = none) :
    set.read line = .error ⟨(set.diagnose line).cause (normalize line), none⟩ := by
  rw [read, h]

/-- A line without a keyword is reported as an unknown command. -/
theorem diagnose_of_lacksKeyword {set : CommandSet} (h : set.LacksKeyword (lineWords line)) :
    set.diagnose line = .unknownCommand := by
  have hwords : (words line.toList).map String.ofList = lineWords line := rfl
  rw [diagnose, hwords]
  cases hline : lineWords line with
  | nil => rfl
  | cons w rest =>
    rw [hline, lacksKeyword_cons_iff] at h
    simp only [h]

/-- The diagnosis of a line with a keyword is a mistake. -/
theorem exists_mistake_of_not_lacksKeyword {set : CommandSet}
    (h : ¬ set.LacksKeyword (lineWords line)) :
    ∃ expected found, set.diagnose line = .mistake expected found := by
  have hwords : (words line.toList).map String.ofList = lineWords line := rfl
  rw [diagnose, hwords]
  cases hline : lineWords line with
  | nil =>
    rw [hline] at h
    exact absurd (by simp [LacksKeyword]) h
  | cons w rest =>
    rw [hline, lacksKeyword_cons_iff] at h
    rcases Option.ne_none_iff_exists'.1 h with ⟨g, hg⟩
    simp only [hg]
    cases divergence? g.elements (w :: rest) with
    | none => exact ⟨_, _, rfl⟩
    | some report => exact ⟨_, _, rfl⟩

/-- A line with a keyword that is not accepted diverges from the grammar of the keyword. -/
theorem exists_diagnose_eq_mistake (h : ¬ standard.Accepts line)
    (hkey : ¬ standard.LacksKeyword (lineWords line)) :
    ∃ w rest g expected found, lineWords line = w :: rest ∧ standard.select? w = some g
      ∧ divergence? g.elements (lineWords line) = some (expected, found)
      ∧ standard.diagnose line = .mistake expected found := by
  cases hline : lineWords line with
  | nil =>
    have hnone : standard.LacksKeyword [] := by
      intro w hw
      cases hw
    rw [hline] at hkey
    exact absurd hnone hkey
  | cons w rest =>
    rw [hline, lacksKeyword_cons_iff] at hkey
    rcases Option.ne_none_iff_exists'.1 hkey with ⟨g, hg⟩
    have hfits : ¬ fits g.elements (lineWords line) = true := by
      intro hfits
      exact h ((accepts_standard_iff_of_select? hg hline).2 hfits)
    rw [← divergence?_eq_none_iff] at hfits
    rcases Option.ne_none_iff_exists'.1 hfits with ⟨⟨expected, found⟩, hdiv⟩
    have hwords : (words line.toList).map String.ofList = lineWords line := rfl
    rw [hline] at hdiv hwords
    refine ⟨w, rest, g, expected, found, rfl, hg, hdiv, ?_⟩
    rw [diagnose, hwords]
    simp only [hg, hdiv]

/-! ## The point where a line stops being completable -/

/-- The word `found` is the first behind which no accepted line goes on, and `expected` is what the
grammar wants at its place. -/
def BreaksAt (g : Grammar) (ws : List String) (expected found : String) : Prop :=
  ∃ i, 1 ≤ i ∧ ws[i]? = some found ∧ standard.Completable (ws.take i)
    ∧ ¬ standard.Completable (ws.take (i + 1))
    ∧ expected = (g.elements[i]?.map Element.category).getD endOfLine

/-- Some longer line is accepted, and `expected` is the first required element behind the words. -/
def EndsEarly (g : Grammar) (ws : List String) (expected found : String) : Prop :=
  found = endOfLine
    ∧ (∃ line, standard.Accepts line ∧ ws <+: lineWords line ∧ ws ≠ lineWords line)
    ∧ ((g.elements.drop ws.length).find? (!·.isOptional)).map Element.category = some expected

section

variable {g : Grammar} {w : String} {rest : List String}

/-- Words that fit make an accepted line. -/
theorem exists_accepts_of_fits (hg : g ∈ standard.grammars) {ws : List String}
    (hws : ∀ w ∈ ws, IsWord w.toList) (h : fits g.elements ws = true) :
    ∃ line, standard.Accepts line ∧ lineWords line = ws := by
  have hline := lineWords_intercalate hws
  refine ⟨" ".intercalate ws, accepts_standard_iff.2 ⟨g, hg, ?_⟩, hline⟩
  rw [hline]
  exact h

/-- Words behind a keyword can be completed exactly if words behind them make all fit. -/
theorem completable_cons_iff (hg : standard.select? w = some g)
    (hws : ∀ v ∈ w :: rest, IsWord v.toList) :
    standard.Completable (w :: rest) ↔
      ∃ more, (∀ v ∈ more, IsWord v.toList) ∧ fits g.elements (w :: rest ++ more) = true := by
  constructor
  · -- what an accepted line has behind the words is made of words
    rintro ⟨line, hline, more, hmore⟩
    have hhead : lineWords line = w :: (rest ++ more) := by rw [← hmore]; rfl
    have hfits := (accepts_standard_iff_of_select? hg hhead).1 hline
    refine ⟨more, ?_, by rwa [hmore]⟩
    intro v hv
    have hmem : v ∈ lineWords line := by
      rw [← hmore]
      exact List.mem_append_right _ hv
    exact isWord_of_mem_lineWords hmem
  · rintro ⟨more, hmore, hfits⟩
    have hall := List.forall_mem_append.2 ⟨hws, hmore⟩
    rcases exists_accepts_of_fits (of_select?_eq_some hg).1 hall hfits with ⟨line, hline, hwords⟩
    exact ⟨line, hline, more, hwords.symm⟩

/-- A word that selects a grammar can be completed. -/
theorem completable_of_select? (hg : standard.select? w = some g) (hw : IsWord w.toList) :
    standard.Completable [w] := by
  rcases of_select?_eq_some hg with ⟨hmem, hkey⟩
  have hws : ∀ v ∈ [w], IsWord v.toList := by simpa using hw
  exact (completable_cons_iff hg hws).2
    ((isKeyed_standard.positional g hmem).exists_fits_of_answersTo hkey)

/-- The first word that does not fit is where the line stops being completable. -/
theorem breaksAt_of_misfits (hg : standard.select? w = some g)
    (hws : ∀ v ∈ w :: rest, IsWord v.toList) {expected found : String}
    (h : Misfits g.elements (w :: rest) expected found) :
    BreaksAt g (w :: rest) expected found := by
  rcases h with ⟨i, hi, hexp, ⟨more, hmore, hfits⟩, hno⟩
  have htake (j : Nat) : ∀ v ∈ w :: rest.take j, IsWord v.toList := by
    intro v hv
    rcases List.mem_cons.1 hv with rfl | hv
    · exact hws v (by simp)
    · exact hws v (List.mem_cons_of_mem _ (List.mem_of_mem_take hv))
  cases i with
  | zero =>
    -- the keyword itself fits
    have hw : standard.Completable (w :: rest.take 0) :=
      completable_of_select? hg (hws w (by simp))
    rcases (completable_cons_iff hg (htake 0)).1 hw with ⟨more, -, hfits⟩
    have hnone := hno more
    simp only [List.take_succ_cons] at hnone
    rw [hnone] at hfits
    cases hfits
  | succ i =>
    refine ⟨i + 1, by omega, hi, ?_, ?_, hexp⟩
    · rw [List.take_succ_cons] at hfits ⊢
      exact (completable_cons_iff hg (htake i)).2 ⟨more, hmore, hfits⟩
    · rw [List.take_succ_cons, completable_cons_iff hg (htake (i + 1))]
      rintro ⟨more, -, hfits⟩
      have hnone := hno more
      rw [List.take_succ_cons, hfits] at hnone
      cases hnone

/-- A line that fits but for its end is the start of an accepted line. -/
theorem endsEarly_of_stopsShort (hg : standard.select? w = some g)
    (hws : ∀ v ∈ w :: rest, IsWord v.toList) {expected found : String}
    (h : StopsShort g.elements (w :: rest) expected found) :
    EndsEarly g (w :: rest) expected found := by
  rcases h with ⟨hfound, ⟨more, hne, hmore, hfits⟩, hexp⟩
  refine ⟨hfound, ?_, hexp⟩
  have hall := List.forall_mem_append.2 ⟨hws, hmore⟩
  rcases exists_accepts_of_fits (of_select?_eq_some hg).1 hall hfits with ⟨line, hline, hwords⟩
  refine ⟨line, hline, ⟨more, hwords.symm⟩, ?_⟩
  intro heq
  apply hne
  rw [← heq] at hwords
  simpa using hwords

/-- A line does not both break at a word and end early. -/
theorem not_breaksAt_and_endsEarly {ws : List String} {expected found : String} :
    ¬ (BreaksAt g ws expected found ∧ EndsEarly g ws expected found) := by
  rintro ⟨⟨i, -, -, -, hno, -⟩, -, ⟨line, hline, hpre, -⟩, -⟩
  exact hno ⟨line, hline, (List.take_prefix (i + 1) ws).trans hpre⟩

/-- What is found is never the whole line. -/
theorem found_ne_normalize {expected found : String} (hg : standard.select? w = some g)
    (hline : lineWords line = w :: rest)
    (h : BreaksAt g (lineWords line) expected found ∨ EndsEarly g (lineWords line) expected found) :
    found ≠ normalize line := by
  rintro rfl
  rcases h with ⟨i, hi, hfound, -⟩ | ⟨hfound, -⟩
  · exact ne_normalize_of_getElem? hi hfound rfl
  · -- the first word of the message is no keyword
    have hwords := lineWords_normalize line
    rw [hfound, hline] at hwords
    have hend : lineWords endOfLine = ["end", "of", "line"] := by decide
    rcases List.cons.inj (hend.symm.trans hwords) with ⟨rfl, -⟩
    have hno : standard.select? "end" = none := rfl
    rw [hno] at hg
    cases hg

end

/-- The diagnosis of a line that is not accepted.  Without a keyword, it is an unknown command.
Otherwise it reports the first point where the line stops being completable: a word behind which no
accepted line goes on, or the end of a line that is too short.  The whole line is never held against the
usage line. -/
theorem read_of_not_accepts (h : ¬ standard.Accepts line) :
    (standard.read line = .error ⟨.unknownCommand (normalize line), none⟩
        ↔ standard.LacksKeyword (lineWords line))
      ∧ (¬ standard.LacksKeyword (lineWords line) → ∃ w g expected found,
        (lineWords line).head? = some w ∧ standard.select? w = some g
          ∧ standard.read line = .error ⟨.malformedCommand (normalize line) expected found, none⟩
          ∧ (BreaksAt g (lineWords line) expected found
            ∨ EndsEarly g (lineWords line) expected found)
          ∧ ¬ (BreaksAt g (lineWords line) expected found
            ∧ EndsEarly g (lineWords line) expected found)
          ∧ (expected, found) ≠ (g.usage, normalize line)) := by
  have hnone : standard.command? line = none := by
    cases hc : standard.command? line with
    | none => rfl
    | some c => exact absurd (Or.inl ⟨c, hc⟩) h
  have hread := read_of_command?_eq_none hnone
  constructor
  · constructor
    · intro hunknown
      by_contra hkey
      rcases exists_diagnose_eq_mistake h hkey with ⟨w, rest, g, expected, found, -, -, -, hdiag⟩
      rw [hread, hdiag] at hunknown
      cases hunknown
    · intro hkey
      rw [hread, diagnose_of_lacksKeyword hkey]
      rfl
  · intro hkey
    obtain ⟨w, rest, g, expected, found, hline, hg, hdiv, hdiag⟩ := exists_diagnose_eq_mistake h hkey
    have hws : ∀ v ∈ w :: rest, IsWord v.toList := by
      intro v hv
      rw [← hline] at hv
      exact isWord_of_mem_lineWords hv
    obtain ⟨text, es, hels, htext, hes⟩ :=
      isKeyed_standard.positional g (of_select?_eq_some hg).1
    have hpos : Positional g.elements := by
      rw [hels]
      exact .cons rfl htext hes
    have hcases : BreaksAt g (lineWords line) expected found
        ∨ EndsEarly g (lineWords line) expected found := by
      rw [hline] at hdiv ⊢
      rcases divergence?_cases hpos hdiv with hmis | hshort
      · exact Or.inl (breaksAt_of_misfits hg hws hmis)
      · exact Or.inr (endsEarly_of_stopsShort hg hws hshort)
    refine ⟨w, g, expected, found, by rw [hline]; rfl, hg, ?_, hcases, not_breaksAt_and_endsEarly,
      ?_⟩
    · rw [hread, hdiag]
      rfl
    · intro heq
      exact found_ne_normalize hg hline hcases (Prod.mk.inj heq).2

/-- A word behind the end of the session is where its line breaks. -/
theorem read_quit_now : ¬ standard.Accepts "quit now" ∧ ¬ standard.LacksKeyword (lineWords "quit now")
    ∧ ∃ g expected found, standard.read "quit now"
        = .error ⟨.malformedCommand (normalize "quit now") expected found, none⟩
      ∧ (BreaksAt g (lineWords "quit now") expected found
        ∨ EndsEarly g (lineWords "quit now") expected found) := by
  have hline : lineWords "quit now" = ["quit", "now"] := by decide
  have hselect : standard.select? "quit" = standard.get? .quit := by rfl
  have hnot : ¬ standard.Accepts "quit now" := by
    rw [accepts_standard_iff, hline]
    decide
  have hkey : ¬ standard.LacksKeyword (lineWords "quit now") := by
    rw [hline, lacksKeyword_cons_iff, hselect]
    decide
  rcases read_of_not_accepts hnot with ⟨-, h⟩
  rcases h hkey with ⟨w, g, expected, found, -, -, hread, hcases, -⟩
  exact ⟨hnot, hkey, g, expected, found, hread, hcases⟩
end CommandSet

end TextDesk
