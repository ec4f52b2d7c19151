import TextDesk.Words

/-! # Words and normal lines

What cutting a line into words gives, and how words are put together again.

* `isWord_of_mem_words`: every word of a text is non-empty and holds no blank;
* `lineWords_intercalate`: words put one space apart are the words of the line they make;
* `normalize_eq`, `lineWords_normalize`: the normal form of a line has the words of the line.
-/

namespace TextDesk

/-- A word: at least one character, none of them blank. -/
def IsWord (w : List Char) : Prop := w ≠ [] ∧ ∀ c ∈ w, isBlank c = false

instance (w : List Char) : Decidable (IsWord w) :=
  @instDecidableAnd _ _ inferInstance (List.decidableBAll (isBlank · = false) w)

/-- A text is blank in front if it is empty or starts with a blank. -/
def BlankFront (s : List Char) : Prop := ∀ c ∈ s.head?, isBlank c = true

/-- No digit is blank. -/
theorem isBlank_of_isDigit {c : Char} (h : c.isDigit = true) : isBlank c = false := by
  simp only [Char.isDigit, Bool.and_eq_true, decide_eq_true_eq] at h
  rcases h with ⟨hlow, hhigh⟩
  have hge : 48 ≤ c.toNat := hlow
  have hle : c.toNat ≤ 57 := hhigh
  simp only [isBlank, blankRanges, List.any_cons, List.any_nil, Bool.or_false, Bool.or_eq_false_iff,
    Bool.and_eq_false_iff, decide_eq_false_iff_not]
  omega

/-- What is left behind dropped members starts with none of them. -/
theorem head_dropWhile {α : Type} (p : α → Bool) (s : List α) :
    ∀ c ∈ (s.dropWhile p).head?, p c = false := by
  intro c hc
  have hnot := List.head?_dropWhile_not p s
  rw [Option.mem_def.1 hc] at hnot
  simpa using hnot

/-- What is left behind the characters of a word is blank in front. -/
theorem blankFront_dropWhile (s : List Char) : BlankFront (s.dropWhile (!isBlank ·)) := by
  intro c hc
  simpa using head_dropWhile (!isBlank ·) s c hc

/-! ## Runs -/

/-- Within a run, `p` has one value. -/
theorem uniform_of_mem_runs {α : Type} {p : α → Bool} {s run : List α} (h : run ∈ runs p s) :
    ∀ c ∈ run, ∀ d ∈ run, p c = p d := by
  induction s generalizing run with
  | nil => simp [runs] at h
  | cons a s ih =>
    unfold runs at h
    split at h
    · next b first rest hruns =>
      rw [hruns] at ih
      have hfirst : ∀ c ∈ b :: first, p c = p b := by
        intro c hc
        exact ih (by simp) c hc b (by simp)
      split at h
      · -- the new head joins the first run, whose members all have the value of its old head
        next hab =>
        rcases List.mem_cons.1 h with rfl | h
        · intro c hc d hd
          have hval : ∀ e ∈ a :: b :: first, p e = p b := by
            intro e he
            rcases List.mem_cons.1 he with rfl | he
            · exact hab
            · exact hfirst e he
          rw [hval c hc, hval d hd]
        · exact ih (List.mem_cons_of_mem _ h)
      · -- the new head is a run of its own
        rcases List.mem_cons.1 h with rfl | h
        · simp
        · exact ih h
    · rcases List.mem_cons.1 h with rfl | h
      · simp
      · exact ih h

/-- The first run starts with the first member. -/
theorem head_of_runs_eq_cons {α : Type} {p : α → Bool} {s run : List α} {rest : List (List α)}
    (h : runs p s = run :: rest) : run.head? = s.head? := by
  have hne : run ≠ [] := fun hnil => nil_notMem_runs p s (by simp [h, hnil])
  rcases List.exists_cons_of_ne_nil hne with ⟨c, run, rfl⟩
  rw [← flatten_runs p s, h]
  rfl

/-- A uniform stretch that ends where `p` changes its value is a run. -/
theorem runs_append {α : Type} {p : α → Bool} {b : Bool} {w s : List α} (hne : w ≠ [])
    (hw : ∀ c ∈ w, p c = b) (hs : ∀ c ∈ s.head?, p c ≠ b) :
    runs p (w ++ s) = w :: runs p s := by
  induction w with
  | nil => exact absurd rfl hne
  | cons a w ih =>
    rcases List.forall_mem_cons.1 hw with ⟨ha, hrest⟩
    by_cases hnil : w = []
    · -- the last member of the stretch: the run behind it, if there is one, has the other value
      subst hnil
      rw [List.cons_append, List.nil_append, runs]
      split
      · next d run rest hruns =>
        have hhead := head_of_runs_eq_cons hruns
        have hd : p d ≠ b := hs d (by simp [← hhead])
        have hne : p a ≠ p d := by
          rw [ha]
          exact hd.symm
        rw [if_neg hne, hruns]
      · rfl
    · have hruns := ih hnil hrest
      rcases List.exists_cons_of_ne_nil hnil with ⟨d, w', rfl⟩
      have hd : p d = b := hrest d (by simp)
      rw [List.cons_append, runs, hruns]
      simp [ha, hd]

/-! ## The words of a text -/

/-- Every word of a text is a word. -/
theorem isWord_of_mem_words {s w : List Char} (h : w ∈ words s) : IsWord w := by
  rcases List.mem_filter.1 h with ⟨hrun, hblank⟩
  constructor
  · rintro rfl
    exact nil_notMem_runs isBlank s hrun
  · -- one character is not blank, and all of a run have one value
    obtain ⟨d, hd, hdblank⟩ : ∃ d ∈ w, isBlank d = false := by simpa using hblank
    intro c hc
    rw [uniform_of_mem_runs hrun c hc d hd, hdblank]

/-- A word in front of a blank is the first word. -/
theorem words_append {w s : List Char} (hw : IsWord w) (hs : BlankFront s) :
    words (w ++ s) = w :: words s := by
  have hend : ∀ c ∈ s.head?, isBlank c ≠ false := by
    intro c hc
    simp [hs c hc]
  have hruns := runs_append hw.1 hw.2 hend
  rcases List.exists_mem_of_ne_nil w hw.1 with ⟨d, hd⟩
  have hnot : (!w.all isBlank) = true := by simpa using ⟨d, hd, hw.2 d hd⟩
  simp only [words, hruns, List.filter_cons, hnot, if_true]

/-- Blanks in front do not change the words. -/
theorem words_trimStart (s : List Char) : words (trimStart s) = words s := by
  by_cases hnil : s.takeWhile isBlank = []
  · have hs := List.takeWhile_append_dropWhile (p := isBlank) (l := s)
    rw [hnil, List.nil_append] at hs
    rw [trimStart, hs]
  · -- the blanks are the first run, which is no word
    have hblank : ∀ c ∈ s.takeWhile isBlank, isBlank c = true :=
      List.all_eq_true.1 List.all_takeWhile
    have hend : ∀ c ∈ (s.dropWhile isBlank).head?, isBlank c ≠ true := by
      intro c hc
      simp [head_dropWhile isBlank s c hc]
    have hruns := runs_append hnil hblank hend
    rw [List.takeWhile_append_dropWhile] at hruns
    rw [words, words, hruns, List.filter_cons_of_neg (by simp), trimStart]

/-- A blank in front does not change the words. -/
theorem words_cons_of_isBlank {c : Char} (hc : isBlank c = true) (s : List Char) :
    words (c :: s) = words s := by
  rw [← words_trimStart (c :: s), ← words_trimStart s, trimStart, trimStart,
    List.dropWhile_cons_of_pos hc]

/-- Any number of blanks in front do not change the words. -/
theorem words_append_of_blank {blanks : List Char} (h : ∀ c ∈ blanks, isBlank c = true)
    (s : List Char) : words (blanks ++ s) = words s := by
  induction blanks with
  | nil => rfl
  | cons c blanks ih =>
    rcases List.forall_mem_cons.1 h with ⟨hc, hrest⟩
    rw [List.cons_append, words_cons_of_isBlank hc, ih hrest]

/-- A text without a word is blank throughout. -/
theorem words_eq_nil_iff {s : List Char} : words s = [] ↔ s.all isBlank = true := by
  constructor
  · intro h
    rw [← flatten_runs isBlank s, List.all_flatten]
    simpa [words, List.filter_eq_nil_iff] using h
  · intro h
    induction s with
    | nil => rfl
    | cons c s ih =>
      rw [List.all_cons, Bool.and_eq_true] at h
      rw [words_cons_of_isBlank h.1, ih h.2]

/-! ## The first word of a text -/

/-- A text is cut around its first word: the blanks before the word, the word, and what stands behind
it. -/
structure CutAtWord (s blanks w rest : List Char) : Prop where
  eq_append : s = blanks ++ (w ++ rest)
  blank : ∀ c ∈ blanks, isBlank c = true
  word : IsWord w
  front : BlankFront rest

/-- A text that is not blank throughout can be cut around its first word. -/
theorem exists_cutAtWord {s : List Char} (h : s.all isBlank = false) :
    ∃ blanks w rest, CutAtWord s blanks w rest := by
  have hblank : ∀ c ∈ s.takeWhile isBlank, isBlank c = true := List.all_eq_true.1 List.all_takeWhile
  have hs := List.takeWhile_append_dropWhile (p := isBlank) (l := s)
  cases htrim : s.dropWhile isBlank with
  | nil =>
    rw [htrim, List.append_nil] at hs
    rw [← hs, List.all_eq_false] at h
    rcases h with ⟨c, hc, hcblank⟩
    exact absurd (hblank c hc) hcblank
  | cons c behind =>
    have hc : isBlank c = false := head_dropWhile isBlank s c (by simp [htrim])
    refine ⟨s.takeWhile isBlank, (c :: behind).takeWhile (!isBlank ·),
      (c :: behind).dropWhile (!isBlank ·), ?_, hblank, ⟨?_, ?_⟩, blankFront_dropWhile _⟩
    · rw [List.takeWhile_append_dropWhile, ← htrim, hs]
    · simp [hc]
    · have hword : ∀ d ∈ (c :: behind).takeWhile (!isBlank ·), (!isBlank d) = true :=
        List.all_eq_true.1 List.all_takeWhile
      simpa using hword

/-- The word that a text is cut around is the first of its words. -/
theorem CutAtWord.words_eq {s blanks w rest : List Char} (h : CutAtWord s blanks w rest) :
    words s = w :: words rest := by
  rw [h.eq_append, words_append_of_blank h.blank, words_append h.word h.front]

/-- A word does not start with a blank. -/
theorem head_of_isWord_append {w : List Char} (hw : IsWord w) (s : List Char) :
    ∀ c ∈ (w ++ s).head?, isBlank c = false := by
  rcases List.exists_cons_of_ne_nil hw.1 with ⟨d, w, rfl⟩
  simpa using hw.2 d (by simp)

/-- The blanks in front of a text are dropped up to the first other character. -/
theorem trimStart_append {blanks s : List Char} (hblank : ∀ c ∈ blanks, isBlank c = true)
    (hs : ∀ c ∈ s.head?, isBlank c = false) : trimStart (blanks ++ s) = s := by
  rw [trimStart, List.dropWhile_append_of_pos hblank]
  cases s with
  | nil => rfl
  | cons c s => exact List.dropWhile_cons_of_neg (by simpa using hs c rfl)

/-- What holds of blank texts, and of a text if it holds of what stands behind the first word, holds of
all texts. -/
theorem induction_on_words {P : List Char → Prop} (blank : ∀ s, (∀ c ∈ s, isBlank c = true) → P s)
    (word : ∀ s blanks w rest, CutAtWord s blanks w rest → P rest → P s) (s : List Char) : P s := by
  -- what stands behind the first word is shorter than the text
  induction hlen : s.length using Nat.strongRecOn generalizing s with
  | _ n ih =>
    cases hall : s.all isBlank with
    | true => exact blank s (List.all_eq_true.1 hall)
    | false =>
      rcases exists_cutAtWord hall with ⟨blanks, w, rest, hcut⟩
      have hpos := List.length_pos_iff.2 hcut.word.1
      have hs := congrArg List.length hcut.eq_append
      simp only [List.length_append] at hs
      exact word s blanks w rest hcut (ih rest.length (by omega) rest rfl)

/-! ## Words behind spaces -/

/-- The text of words, each behind a space. -/
def spaced (ws : List String) : List Char := ws.flatMap fun w => ' ' :: w.toList

theorem spaced_cons (w : String) (ws : List String) :
    spaced (w :: ws) = ' ' :: (w.toList ++ spaced ws) := rfl

theorem blankFront_spaced (ws : List String) : BlankFront (spaced ws) := by
  cases ws with
  | nil =>
    intro c hc
    simp [spaced] at hc
  | cons w ws =>
    intro c hc
    obtain rfl : ' ' = c := by simpa [spaced_cons] using hc
    exact isBlank_space

/-- Words one space apart: the first, and then each behind a space. -/
theorem toList_intercalate_cons (w : String) (ws : List String) :
    (" ".intercalate (w :: ws)).toList = w.toList ++ spaced ws := by
  induction ws generalizing w with
  | nil => simp [spaced]
  | cons v ws ih =>
    rw [String.intercalate_cons_cons, String.toList_append, ih v, spaced_cons]
    simp

/-- A line that starts with a word is not empty. -/
theorem intercalate_ne_nil {w : String} (hw : IsWord w.toList) (ws : List String) :
    (" ".intercalate (w :: ws)).toList ≠ [] := by
  intro hnil
  rw [toList_intercalate_cons] at hnil
  exact hw.1 (List.append_eq_nil_iff.1 hnil).1

theorem spaced_eq_cons {ws : List String} (h : ws ≠ []) :
    spaced ws = ' ' :: (" ".intercalate ws).toList := by
  rcases List.exists_cons_of_ne_nil h with ⟨w, ws, rfl⟩
  rw [toList_intercalate_cons, spaced_cons]

/-! ## The words of a line -/

/-- The words of a line, as strings. -/
def lineWords (line : String) : List String := (words line.toList).map String.ofList

theorem isWord_of_mem_lineWords {line w : String} (h : w ∈ lineWords line) : IsWord w.toList := by
  rcases List.mem_map.1 h with ⟨v, hv, rfl⟩
  rw [String.toList_ofList]
  exact isWord_of_mem_words hv

theorem words_spaced {ws : List String} (h : ∀ w ∈ ws, IsWord w.toList) :
    words (spaced ws) = ws.map String.toList := by
  induction ws with
  | nil => rfl
  | cons w ws ih =>
    rcases List.forall_mem_cons.1 h with ⟨hw, hws⟩
    rw [spaced_cons, words_cons_of_isBlank isBlank_space, words_append hw (blankFront_spaced ws),
      ih hws, List.map_cons]

/-- Words put one space apart make a line with these words. -/
theorem lineWords_intercalate {ws : List String} (h : ∀ w ∈ ws, IsWord w.toList) :
    lineWords (" ".intercalate ws) = ws := by
  cases ws with
  | nil => rfl
  | cons w ws =>
    have hwords := words_spaced h
    rw [spaced_cons, words_cons_of_isBlank isBlank_space] at hwords
    rw [lineWords, toList_intercalate_cons, hwords]
    simp [Function.comp_def]

/-- The normal form of a line: its words, one space apart. -/
theorem normalize_eq (line : String) : normalize line = " ".intercalate (lineWords line) := by
  rw [← String.toList_inj, normalize, String.toList_ofList, String.toList_intercalate, unwords,
    lineWords]
  simp [Function.comp_def]

/-- Normalizing a line does not change its words. -/
theorem lineWords_normalize (line : String) : lineWords (normalize line) = lineWords line := by
  have hws : ∀ w ∈ lineWords line, IsWord w.toList := by
    intro w hw
    exact isWord_of_mem_lineWords hw
  rw [normalize_eq, lineWords_intercalate hws]

/-- Words put one space apart are in normal form. -/
theorem normalize_intercalate {ws : List String} (h : ∀ w ∈ ws, IsWord w.toList) :
    normalize (" ".intercalate ws) = " ".intercalate ws := by
  rw [normalize_eq, lineWords_intercalate h]

/-- A line has no word exactly if it is blank. -/
theorem lineWords_eq_nil_iff {line : String} : lineWords line = [] ↔ isBlankLine line = true := by
  rw [lineWords, List.map_eq_nil_iff, words_eq_nil_iff, isBlankLine]

/-- A word is the only word of its line. -/
theorem lineWords_of_isWord {w : String} (h : IsWord w.toList) : lineWords w = [w] := by
  have hws : ∀ v ∈ [w], IsWord v.toList := by simpa using h
  simpa using lineWords_intercalate hws

/-! ## Cutting in front of a blank -/

/-- Where a text without blanks ends in front of a blank, there is only one cut. -/
theorem append_inj_of_blankFront {u v s t : List Char} (hu : ∀ c ∈ u, isBlank c = false)
    (hv : ∀ c ∈ v, isBlank c = false) (hs : BlankFront s) (ht : BlankFront t)
    (h : u ++ s = v ++ t) : u = v ∧ s = t := by
  induction u generalizing v with
  | nil =>
    cases v with
    | nil => exact ⟨rfl, h⟩
    | cons d v =>
      have hd := hs d (by simp_all)
      rw [hv d (by simp)] at hd
      cases hd
  | cons c u ih =>
    cases v with
    | nil =>
      have hc := ht c (by simp [← show c :: u ++ s = t from h])
      rw [hu c (by simp)] at hc
      cases hc
    | cons d v =>
      rcases List.cons.inj h with ⟨rfl, hrest⟩
      have huv := ih (fun e he => hu e (List.mem_cons_of_mem _ he))
        (fun e he => hv e (List.mem_cons_of_mem _ he)) hrest
      exact ⟨by rw [huv.1], huv.2⟩

end TextDesk
