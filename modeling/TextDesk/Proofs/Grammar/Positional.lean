import TextDesk.Diagnosis
import TextDesk.Proofs.Grammar.Language

/-! # Positional grammars

A grammar is positional if it starts with a fixed word, every further element but the last takes
exactly one word, and only the last one may be optional or take several words.  Whether a normal line
has the form of such a grammar can be told word by word:

* `fits_of_divides`, `exists_divides_of_fits`: a line of words can be divided among the elements
  exactly if the words fit the elements one by one;
* `Grammar.captures?_intercalate`: the captures of a line of words;
* `divergence?_eq_none_iff`: the diagnosis finds no divergence exactly if the words fit.
-/

namespace TextDesk

/-! ## Words and elements -/

/-- The ASCII case of a letter does not make it blank. -/
theorem isBlank_toLower (c : Char) : isBlank c.toLower = isBlank c := by
  unfold Char.toLower
  split
  · next h =>
    have hlow : 65 ≤ c.toNat := h.1
    have hhigh : c.toNat ≤ 90 := h.2
    have hval : (c.val + ('a'.val - 'A'.val)).toNat = c.toNat + 32 := by
      have hlt : c.val.toNat ≤ 90 := h.2
      have hsub : ('a'.val - 'A'.val).toNat = 32 := rfl
      rw [UInt32.toNat_add, hsub, Nat.mod_eq_of_lt (by omega)]
      rfl
    simp only [isBlank, blankRanges, List.any_cons, List.any_nil, Bool.or_false, Char.toNat, hval]
      at hlow hhigh ⊢
    rw [Bool.eq_iff_iff]
    simp only [Bool.or_eq_true, Bool.and_eq_true, decide_eq_true_eq]
    omega
  · rfl

/-- A text that is a word in another ASCII case is a word. -/
theorem isWord_of_lowered_eq {t u : List Char} (h : lowered t = lowered u) (hu : IsWord u) :
    IsWord t := by
  constructor
  · rintro rfl
    have hnil : u = [] := by simpa [lowered] using h.symm
    exact hu.1 hnil
  · intro c hc
    have hmem : c.toLower ∈ lowered u := by
      rw [← h]
      exact List.mem_map_of_mem hc
    rcases List.mem_map.1 hmem with ⟨d, hd, hlow⟩
    rw [← isBlank_toLower, ← hlow, isBlank_toLower, hu.2 d hd]

namespace Element

/-- Whether the element always takes exactly one word. -/
def isSingle (e : Element) : Bool := !e.isOptional && !e.absorbsRest

theorem isOptional_of_isSingle {e : Element} (h : e.isSingle = true) : e.isOptional = false := by
  simp only [isSingle, Bool.and_eq_true, Bool.not_eq_true'] at h
  exact h.1

theorem absorbsRest_of_isSingle {e : Element} (h : e.isSingle = true) : e.absorbsRest = false := by
  simp only [isSingle, Bool.and_eq_true, Bool.not_eq_true'] at h
  exact h.2

/-- Every fixed text in the element is a word. -/
def Proper : Element → Prop
  | literal text => IsWord text.toList
  | optional inner => inner.Proper
  | _ => True

theorem isEmpty_of_isWord {w : List Char} (hw : IsWord w) : w.isEmpty = false := by
  simpa using hw.1

/-- A line feed is blank, so no word holds one. -/
theorem newline_notMem_of_isWord {w : List Char} (hw : IsWord w) : '\n' ∉ w := by
  intro hmem
  have hblank := hw.2 _ hmem
  rw [isBlank_newline] at hblank
  cases hblank

/-- A word is accepted exactly if the element denotes it. -/
theorem accepts_iff {e : Element} {w : String} (hw : IsWord w.toList) :
    e.accepts w = true ↔ e.Denotes w.toList := by
  induction e with
  | literal text => exact sameName_iff
  | word =>
    simp only [accepts, Denotes, isEmpty_of_isWord hw, Bool.not_false, Bool.true_and, List.all_eq_true,
      Bool.not_eq_true']
    exact ⟨fun h => ⟨hw.1, h⟩, fun h => h.2⟩
  | number =>
    simp only [accepts, Denotes, isEmpty_of_isWord hw, Bool.not_false, Bool.true_and, List.all_eq_true]
    exact ⟨fun h => ⟨hw.1, h⟩, fun h => h.2⟩
  | wordOrNumber =>
    simp only [accepts, Denotes, isEmpty_of_isWord hw, Bool.not_false, true_iff]
    exact hw
  | direction =>
    simp only [accepts, Denotes, Bool.or_eq_true, beq_iff_eq, ← String.toList_inj]
    exact Or.comm
  | freeText =>
    have hnl := newline_notMem_of_isWord hw
    simp [accepts, Denotes, isEmpty_of_isWord hw, hw.1, hnl]
  | optional inner ih =>
    rw [accepts, ih, Denotes]
    exact ⟨Or.inl, fun h => h.resolve_right hw.1⟩

/-- What an element that takes one word denotes is a word. -/
theorem isWord_of_denotes {e : Element} {t : List Char} (hsingle : e.isSingle = true)
    (he : e.Proper) (h : e.Denotes t) : IsWord t := by
  cases e with
  | literal text => exact isWord_of_lowered_eq h he
  | word => exact h
  | number => exact ⟨h.1, fun c hc => isBlank_of_isDigit (h.2 c hc)⟩
  | wordOrNumber => exact h
  | direction => rcases h with rfl | rfl <;> decide
  | freeText => simp [isSingle, absorbsRest] at hsingle
  | optional inner => simp [isSingle, isOptional] at hsingle

theorem denotesAt_iff_of_isSingle {e : Element} {t : List Char} (h : e.isSingle = true) :
    e.DenotesAt false t ↔ e.DenotesSpaced t := by
  cases e with
  | optional inner => simp [isSingle, isOptional] at h
  | _ => rfl

/-- An element that takes one word leaves no room for a second. -/
theorem denotes_intercalate_of_isSingle {e : Element} (hsingle : e.isSingle = true) (he : e.Proper)
    {w : String} {ws : List String} (hws : ∀ v ∈ w :: ws, IsWord v.toList) :
    e.Denotes (" ".intercalate (w :: ws)).toList ↔ ws = [] ∧ e.accepts w = true := by
  have hw : IsWord w.toList := hws w (by simp)
  constructor
  · -- what is denoted is a word, so the line has no other words
    intro h
    have hline := lineWords_of_isWord (isWord_of_denotes hsingle he h)
    rw [lineWords_intercalate hws] at hline
    rcases List.cons.inj hline with ⟨hhead, htail⟩
    rw [← hhead] at h
    exact ⟨htail, (accepts_iff hw).2 h⟩
  · rintro ⟨rfl, hacc⟩
    rw [String.intercalate_singleton]
    exact (accepts_iff hw).1 hacc

/-- Words one space apart make a line that is not empty and holds no line feed. -/
theorem freeText_denotes_intercalate {w : String} {ws : List String}
    (hws : ∀ v ∈ w :: ws, IsWord v.toList) :
    freeText.Denotes (" ".intercalate (w :: ws)).toList := by
  rcases List.forall_mem_cons.1 hws with ⟨hw, hrest⟩
  constructor
  · exact intercalate_ne_nil hw ws
  · intro hmem
    rw [toList_intercalate_cons] at hmem
    rcases List.mem_append.1 hmem with h | h
    · exact newline_notMem_of_isWord hw h
    · -- behind the first word stand spaces and words
      rcases List.mem_flatMap.1 h with ⟨v, hv, hin⟩
      rcases List.mem_cons.1 hin with h | h
      · cases h
      · exact newline_notMem_of_isWord (hrest v hv) h

/-- An element denotes a line of words if it takes every word, or takes one and there is one. -/
theorem denotes_intercalate_iff {e : Element} (he : e.Proper) {w : String} {ws : List String}
    (hws : ∀ v ∈ w :: ws, IsWord v.toList) :
    e.Denotes (" ".intercalate (w :: ws)).toList
      ↔ e.absorbsRest = true ∨ ws = [] ∧ e.accepts w = true := by
  induction e with
  | freeText => simpa [absorbsRest] using freeText_denotes_intercalate hws
  | optional inner ih =>
    have hne := intercalate_ne_nil (hws w (by simp)) ws
    rw [Denotes, or_iff_left hne]
    exact ih he
  | _ => simpa [absorbsRest] using denotes_intercalate_of_isSingle rfl he hws

end Element

/-! ## Words that fit elements -/

/-- Only the last element may be optional or take several words. -/
inductive Positional : List Element → Prop where
  | nil : Positional []
  | last {e : Element} (he : e.Proper) : Positional [e]
  | cons {e : Element} {es : List Element} (hsingle : e.isSingle = true) (he : e.Proper)
      (hes : Positional es) : Positional (e :: es)

/-- Whether words fit the elements one by one. -/
def fits : List Element → List String → Bool
  | elements, [] => elements.all (·.isOptional)
  | [], _ :: _ => false
  | e :: es, w :: ws => if e.absorbsRest then es.all (·.isOptional) else e.accepts w && fits es ws

theorem fits_nil_iff {ws : List String} : fits [] ws = true ↔ ws = [] := by
  cases ws <;> simp [fits]

/-- An element that takes one word takes the first. -/
theorem fits_cons_iff {e : Element} (h : e.isSingle = true) {es : List Element}
    {ws : List String} :
    fits (e :: es) ws = true
      ↔ ∃ w rest, ws = w :: rest ∧ e.accepts w = true ∧ fits es rest = true := by
  cases ws with
  | nil => simp [fits, Element.isOptional_of_isSingle h]
  | cons w rest =>
    rw [fits, Element.absorbsRest_of_isSingle h, if_neg (by decide), Bool.and_eq_true]
    constructor
    · intro hfits
      exact ⟨w, rest, rfl, hfits⟩
    · rintro ⟨v, rest', hws, hfits⟩
      rcases List.cons.inj hws with ⟨rfl, rfl⟩
      exact hfits

/-- A last element that may be left out takes one word or none. -/
theorem fits_optional_iff {e : Element} (h : e.absorbsRest = false) {ws : List String} :
    fits [.optional e] ws = true ↔ ws = [] ∨ ∃ w, ws = [w] ∧ e.accepts w = true := by
  cases ws with
  | nil => simp [fits, Element.isOptional]
  | cons w rest =>
    rw [fits, Element.absorbsRest, h, if_neg (by decide), Bool.and_eq_true, fits_nil_iff]
    constructor
    · rintro ⟨hacc, rfl⟩
      exact Or.inr ⟨w, rfl, hacc⟩
    · rintro (hnil | ⟨v, hws, hacc⟩)
      · exact absurd hnil (List.cons_ne_nil w rest)
      · rcases List.cons.inj hws with ⟨rfl, rfl⟩
        exact ⟨hacc, rfl⟩

/-- The captures of elements from the words that fit them. -/
def wordCaptures : List Element → List String → List (Option String)
  | [], _ => []
  | e :: es, [] => e.captures [] ++ wordCaptures es []
  | e :: es, w :: ws =>
    if e.absorbsRest then e.captures (" ".intercalate (w :: ws)).toList ++ wordCaptures es []
    else e.captures w.toList ++ wordCaptures es ws

theorem missingElement?_eq_none_iff {es : List Element} :
    missingElement? es = none ↔ es.all (·.isOptional) = true := by
  simp [missingElement?]

/-- The diagnosis finds no divergence exactly if the words fit. -/
theorem divergence?_eq_none_iff {es : List Element} {ws : List String} :
    divergence? es ws = none ↔ fits es ws = true := by
  induction es generalizing ws with
  | nil =>
    cases ws with
    | nil => exact missingElement?_eq_none_iff
    | cons w ws => simp [divergence?, fits]
  | cons e es ih =>
    cases ws with
    | nil => exact missingElement?_eq_none_iff
    | cons w ws =>
      rw [divergence?, fits]
      split
      · exact missingElement?_eq_none_iff
      · split
        · next hacc => rw [hacc, Bool.true_and, ih]
        · next hacc => simp [hacc]

/-! ## Dividing a line of words -/

/-- The last element denotes the rest of a line exactly if the words of the rest fit it. -/
theorem denotesAt_spaced_iff {e : Element} (he : e.Proper) {ws : List String}
    (hws : ∀ w ∈ ws, IsWord w.toList) :
    e.DenotesAt false (spaced ws) ↔ fits [e] ws = true := by
  cases ws with
  | nil =>
    cases e with
    | optional inner => simp [spaced, Element.DenotesAt, fits, Element.isOptional]
    | _ => simp [spaced, Element.DenotesAt, Element.DenotesSpaced, fits, Element.isOptional]
  | cons w ws =>
    have hspaced (e : Element) : e.DenotesSpaced (spaced (w :: ws))
        ↔ e.Denotes (" ".intercalate (w :: ws)).toList := by
      rw [spaced_eq_cons (List.cons_ne_nil w ws)]
      simp [Element.DenotesSpaced]
    have hat : e.DenotesAt false (spaced (w :: ws))
        ↔ e.Denotes (" ".intercalate (w :: ws)).toList := by
      cases e with
      | optional inner =>
        have hne : spaced (w :: ws) ≠ [] := by simp [spaced_cons]
        have hline := intercalate_ne_nil (hws w (by simp)) ws
        rw [Element.DenotesAt, Element.Denotes, hspaced inner, or_iff_left hne, or_iff_left hline]
      | _ => exact hspaced _
    rw [hat, Element.denotes_intercalate_iff he hws, fits]
    cases e.absorbsRest <;> cases ws <;> simp [fits]

/-- What the last element captures of the rest of a line is what it captures of its words. -/
theorem capturesAt_spaced {e : Element} {ws : List String} (h : fits [e] ws = true) :
    e.capturesAt false (spaced ws) = wordCaptures [e] ws := by
  cases ws with
  | nil => simp [Element.capturesAt, Element.leadsWithSpace, spaced, wordCaptures]
  | cons w ws =>
    rw [Element.capturesAt, spaced_eq_cons (List.cons_ne_nil w ws), wordCaptures]
    cases habs : e.absorbsRest with
    | true => simp [Element.leadsWithSpace, wordCaptures]
    | false =>
      obtain rfl : ws = [] := by
        cases ws with
        | nil => rfl
        | cons v ws => simp [fits, habs] at h
      simp [Element.leadsWithSpace, wordCaptures]

/-- An element that takes one word and what stands behind it divide a line of words behind the first
word. -/
theorem eq_word_of_divides {e : Element} {es : List Element} {u : List Char}
    {ts : List (List Char)} {ws : List String} (hsingle : e.isSingle = true) (he : e.Proper)
    (hws : ∀ w ∈ ws, IsWord w.toList) (hu : e.Denotes u) (hts : Divides false es ts)
    (hflat : u ++ ts.flatten = (" ".intercalate ws).toList) :
    ∃ w ws', ws = w :: ws' ∧ u = w.toList ∧ ts.flatten = spaced ws' ∧ e.accepts w = true := by
  have hword := Element.isWord_of_denotes hsingle he hu
  cases ws with
  | nil => simp [hword.1] at hflat
  | cons w ws =>
    have hw : IsWord w.toList := hws w (by simp)
    -- both the first word and what is denoted end in front of a blank, so they are the same
    have hfront : BlankFront ts.flatten := by
      intro c hc
      rw [head?_flatten_of_divides hts c hc, isBlank_space]
    rw [toList_intercalate_cons] at hflat
    obtain ⟨rfl, hrest⟩ :=
      append_inj_of_blankFront hword.2 hw.2 hfront (blankFront_spaced ws) hflat
    exact ⟨w, ws, rfl, rfl, hrest, (Element.accepts_iff hw).2 hu⟩

/-- A line of words is divided among later elements only as the words fit them. -/
theorem fits_of_divides {es : List Element} {ts : List (List Char)} {ws : List String}
    (hes : Positional es) (hws : ∀ w ∈ ws, IsWord w.toList) (h : Divides false es ts)
    (hflat : ts.flatten = spaced ws) :
    fits es ws = true ∧ pieceCaptures false es ts = wordCaptures es ws := by
  induction hes generalizing ts ws with
  | nil =>
    cases ts with
    | nil =>
      cases ws with
      | nil => exact ⟨rfl, rfl⟩
      | cons w ws => simp [spaced_cons] at hflat
    | cons t ts => exact h.elim
  | last he =>
    -- the last element has the only piece
    rcases ts with - | ⟨t, - | ⟨t', ts⟩⟩
    · exact h.elim
    · obtain rfl : t = spaced ws := by simpa using hflat
      have hfits := (denotesAt_spaced_iff he hws).1 h.1
      exact ⟨hfits, by simp [pieceCaptures, capturesAt_spaced hfits]⟩
    · exact h.2.elim
  | @cons e es hsingle he hes ih =>
    cases ts with
    | nil => exact h.elim
    | cons t ts =>
      -- its piece is a space and the first word, and the induction is on the words behind it
      rcases (Element.denotesAt_iff_of_isSingle hsingle).1 h.1 with ⟨u, rfl, hu⟩
      have hne : ws ≠ [] := by
        rintro rfl
        simp [spaced] at hflat
      rw [spaced_eq_cons hne, List.flatten_cons, List.cons_append, List.cons.injEq] at hflat
      rcases eq_word_of_divides hsingle he hws hu h.2 hflat.2 with ⟨w, ws, rfl, rfl, hrest, hacc⟩
      have hfits := ih (List.forall_mem_cons.1 hws).2 h.2 hrest
      have habs := Element.absorbsRest_of_isSingle hsingle
      refine ⟨by simp [fits, habs, hacc, hfits.1], ?_⟩
      simp [pieceCaptures, hfits.2, wordCaptures, habs, Element.capturesAt,
        Element.leadsWithSpace]

/-- Words that fit later elements divide their line among them. -/
theorem exists_divides_of_fits {es : List Element} {ws : List String} (hes : Positional es)
    (hws : ∀ w ∈ ws, IsWord w.toList) (h : fits es ws = true) :
    ∃ ts, Divides false es ts ∧ ts.flatten = spaced ws := by
  induction hes generalizing ws with
  | nil =>
    cases ws with
    | nil => exact ⟨[], trivial, rfl⟩
    | cons w ws => simp [fits] at h
  | last he => exact ⟨[spaced ws], ⟨(denotesAt_spaced_iff he hws).2 h, trivial⟩, by simp⟩
  | @cons e es hsingle he hes ih =>
    have hopt := Element.isOptional_of_isSingle hsingle
    have habs := Element.absorbsRest_of_isSingle hsingle
    cases ws with
    | nil => simp [fits, hopt] at h
    | cons w ws =>
      simp only [fits, habs, Bool.false_eq_true, if_false, Bool.and_eq_true] at h
      rcases List.forall_mem_cons.1 hws with ⟨hw, hrest⟩
      rcases ih hrest h.2 with ⟨ts, hts, hflat⟩
      have hden := (Element.accepts_iff hw).1 h.1
      refine ⟨(' ' :: w.toList) :: ts, ⟨?_, hts⟩, by simp [hflat, spaced_cons]⟩
      exact (Element.denotesAt_iff_of_isSingle hsingle).2 ⟨w.toList, rfl, hden⟩

namespace Grammar

/-- The grammar starts with a fixed word, and only its last element may be optional or take several
words. -/
def IsPositional (g : Grammar) : Prop :=
  ∃ text es, g.elements = .literal text :: es ∧ IsWord text.toList ∧ Positional es

variable {g : Grammar} {ws : List String}

/-- What a positional grammar captures of a line of words is captured of the words, which fit. -/
theorem fits_of_captures? (hg : g.IsPositional) (hws : ∀ w ∈ ws, IsWord w.toList)
    {captures : List (Option String)} (h : g.captures? (" ".intercalate ws) = some captures) :
    fits g.elements ws = true ∧ captures = wordCaptures g.elements ws := by
  rcases hg with ⟨text, es, hels, htext, hes⟩
  rcases exists_divides_of_captures? h with ⟨ts, hts, hflat, rfl⟩
  rw [hels] at hts ⊢
  cases ts with
  | nil => exact hts.elim
  | cons t ts =>
    have hproper : (Element.literal text).Proper := htext
    rcases eq_word_of_divides rfl hproper hws hts.1 hts.2 hflat with ⟨w, ws, rfl, rfl, hrest, hacc⟩
    have hfits := fits_of_divides hes (List.forall_mem_cons.1 hws).2 hts.2 hrest
    refine ⟨by simp [fits, Element.absorbsRest, hacc, hfits.1], ?_⟩
    simp [pieceCaptures, hfits.2, wordCaptures, Element.absorbsRest, Element.capturesAt,
      Element.captures]

/-- A line of words that fit a positional grammar has captures. -/
theorem isSome_captures?_of_fits (hg : g.IsPositional) (hws : ∀ w ∈ ws, IsWord w.toList)
    (h : fits g.elements ws = true) : (g.captures? (" ".intercalate ws)).isSome = true := by
  rcases hg with ⟨text, es, hels, -, hes⟩
  rw [hels] at h
  cases ws with
  | nil => simp [fits, Element.isOptional] at h
  | cons w ws =>
    simp only [fits, Element.absorbsRest, Bool.false_eq_true, if_false, Bool.and_eq_true] at h
    rcases List.forall_mem_cons.1 hws with ⟨hw, hrest⟩
    rcases exists_divides_of_fits hes hrest h.2 with ⟨ts, hts, hflat⟩
    have hden := (Element.accepts_iff hw).1 h.1
    have hdiv : Divides true g.elements (w.toList :: ts) := by
      rw [hels]
      exact ⟨hden, hts⟩
    refine isSome_captures? hdiv ?_
    rw [List.flatten_cons, hflat, toList_intercalate_cons]

/-- The captures of a line of words in a positional grammar are those of the words, if these fit. -/
theorem captures?_intercalate (hg : g.IsPositional) (hws : ∀ w ∈ ws, IsWord w.toList) :
    g.captures? (" ".intercalate ws)
      = if fits g.elements ws then some (wordCaptures g.elements ws) else none := by
  split
  · next h =>
    obtain ⟨captures, hcaptures⟩ :=
      Option.isSome_iff_exists.1 (isSome_captures?_of_fits hg hws h)
    rw [hcaptures, (fits_of_captures? hg hws hcaptures).2]
  · next h =>
    cases hcaptures : g.captures? (" ".intercalate ws) with
    | none => rfl
    | some captures => exact absurd (fits_of_captures? hg hws hcaptures).1 h

/-- Whether a line has the form of a positional grammar is told by its words. -/
theorem captures?_normalize (hg : g.IsPositional) (line : String) :
    g.captures? (normalize line)
      = if fits g.elements (lineWords line) then some (wordCaptures g.elements (lineWords line))
        else none := by
  have hws : ∀ w ∈ lineWords line, IsWord w.toList := by
    intro w hw
    exact isWord_of_mem_lineWords hw
  rw [normalize_eq, captures?_intercalate hg hws]

end Grammar

end TextDesk
