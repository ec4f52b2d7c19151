import Mathlib.Data.List.Chain
import TextDesk.Proofs.Words

/-! # Words and their places

The words of a line are found twice: in the line as typed they stand between blanks of any kind, and in
its normal form between spaces.  Main statements:

* `cutIntoWords_iff`: the words of a text are its longest runs without a blank;
* `normalize_eq_self_iff`: a line is its own normal form exactly if its blanks are single spaces between
  other characters;
* `tokenize_places_words`: the words found between the spaces are the words of the line, and each stands
  in the normal line at its offset.
-/

namespace TextDesk

variable {s t w rest : List Char} {ws : List (List Char)} {line : String}

/-! ## The longest runs without a blank -/

/-- The words `ws` are the longest runs of a text without a blank, in order. -/
inductive CutIntoWords : List Char → List (List Char) → Prop
  | blank {s : List Char} (h : ∀ c ∈ s, isBlank c = true) : CutIntoWords s []
  | word {s blanks w rest : List Char} {ws : List (List Char)} (h : CutAtWord s blanks w rest)
    (hrest : CutIntoWords rest ws) : CutIntoWords s (w :: ws)

/-- The words of a text are its longest runs without a blank. -/
theorem cutIntoWords_iff : CutIntoWords s ws ↔ words s = ws := by
  constructor
  · intro h
    induction h with
    | blank h => exact words_eq_nil_iff.2 (List.all_eq_true.2 h)
    | word h _ ih => rw [h.words_eq, ih]
  · rintro rfl
    induction s using induction_on_words with
    | blank s h =>
      rw [words_eq_nil_iff.2 (List.all_eq_true.2 h)]
      exact .blank h
    | word s blanks w rest h ih =>
      rw [h.words_eq]
      exact .word h ih

/-! ## Normal texts -/

/-- A text is in normal form: no blank stands at either end, and each run of blanks in it is a single
space. -/
structure IsNormal (s : List Char) : Prop where
  front : ∀ c ∈ s.head?, isBlank c = false
  back : ∀ c ∈ s.getLast?, isBlank c = false
  gaps : ∀ run, run <:+: s → run ≠ [] → (∀ c ∈ run, isBlank c = true) → run = [' ']

theorem isNormal_nil : IsNormal [] := by
  refine ⟨by simp, by simp, ?_⟩
  intro run hrun hne
  exact absurd (List.infix_nil.1 hrun) hne

/-- A run of blanks does not start within a word. -/
theorem infix_of_infix_append {run : List Char} (hw : ∀ c ∈ w, isBlank c = false)
    (hne : run ≠ []) (hblank : ∀ c ∈ run, isBlank c = true) (h : run <:+: w ++ s) : run <:+: s := by
  induction w with
  | nil => exact h
  | cons c w ih =>
    rcases List.forall_mem_cons.1 hw with ⟨hc, hw⟩
    rcases List.infix_cons_iff.1 h with hfront | hbehind
    · rcases List.prefix_cons_iff.1 hfront with rfl | ⟨run, rfl, -⟩
      · exact absurd rfl hne
      · rw [hblank c (by simp)] at hc
        cases hc
    · exact ih hw hbehind

/-- A word is in normal form. -/
theorem isNormal_of_isWord (hw : IsWord w) : IsNormal w := by
  refine ⟨fun c hc => hw.2 c (List.mem_of_mem_head? hc),
    fun c hc => hw.2 c (List.mem_of_getLast? hc), ?_⟩
  intro run hrun hne hblank
  have h := infix_of_infix_append (s := []) hw.2 hne hblank (by simpa using hrun)
  exact absurd (List.infix_nil.1 h) hne

/-- A word, a space and a normal text behind it make a normal text. -/
theorem IsNormal.append_word (hw : IsWord w) (ht : IsNormal t) (hne : t ≠ []) :
    IsNormal (w ++ ' ' :: t) := by
  rcases List.exists_cons_of_ne_nil hne with ⟨d, t', rfl⟩
  have hlast : (w ++ ' ' :: d :: t').getLast? = (d :: t').getLast? := by
    rw [List.getLast?_append_of_ne_nil w (by simp), List.getLast?_cons_cons]
  refine ⟨head_of_isWord_append hw _, ?_, ?_⟩
  · rw [hlast]
    exact ht.back
  · intro run hrun hrunne hblank
    rcases List.infix_cons_iff.1 (infix_of_infix_append hw.2 hrunne hblank hrun) with hfront | hbehind
    · -- the run starts at the space, and the character behind it is not blank
      rcases List.prefix_cons_iff.1 hfront with rfl | ⟨more, rfl, hmore⟩
      · exact absurd rfl hrunne
      · rcases List.prefix_cons_iff.1 hmore with rfl | ⟨more, rfl, -⟩
        · rfl
        · have hd := ht.front d rfl
          rw [hblank d (by simp)] at hd
          cases hd
    · exact ht.gaps run hbehind hrunne hblank

/-- Behind the first word of a normal text stands nothing, or a space and a normal text. -/
theorem IsNormal.behind_word (h : IsNormal (w ++ rest)) (hrest : BlankFront rest) :
    rest = [] ∨ ∃ t, rest = ' ' :: t ∧ t ≠ [] ∧ IsNormal t := by
  cases rest with
  | nil => exact Or.inl rfl
  | cons c t =>
    have hc : isBlank c = true := hrest c rfl
    have hspace : [c] = [' '] := h.gaps [c] ⟨w, t, by simp⟩ (by simp) (by simpa using hc)
    obtain rfl : c = ' ' := List.singleton_inj.1 hspace
    have hne : t ≠ [] := by
      rintro rfl
      have hback := h.back ' ' (by simp)
      rw [hc] at hback
      cases hback
    rcases List.exists_cons_of_ne_nil hne with ⟨d, t', rfl⟩
    refine Or.inr ⟨d :: t', rfl, hne, ?_, ?_, ?_⟩
    · -- a blank behind the space would make a run of two
      rintro e ⟨⟩
      by_contra hblank
      have hrun := h.gaps [' ', d] ⟨w, t', by simp⟩ (by simp) (by simpa [hc] using hblank)
      cases hrun
    · intro e he
      exact h.back e (by simpa using he)
    · intro run hrun
      exact h.gaps run (hrun.trans ⟨w ++ [' '], [], by simp⟩)

/-! ## Words one space apart -/

theorem unwords_singleton (w : List Char) : unwords [w] = w := by simp [unwords]

theorem unwords_cons (w : List Char) (hws : ws ≠ []) :
    unwords (w :: ws) = w ++ ' ' :: unwords ws := by
  rcases List.exists_cons_of_ne_nil hws with ⟨v, ws, rfl⟩
  rw [unwords, List.intercalate_cons_cons, List.append_assoc]
  rfl

theorem exists_unwords_cons (w : List Char) (ws : List (List Char)) :
    ∃ t, unwords (w :: ws) = w ++ t := by
  by_cases hnil : ws = []
  · exact ⟨[], by rw [hnil, unwords_singleton, List.append_nil]⟩
  · exact ⟨_, unwords_cons w hnil⟩

theorem unwords_ne_nil (h : ∀ w ∈ ws, IsWord w) (hws : ws ≠ []) : unwords ws ≠ [] := by
  rcases List.exists_cons_of_ne_nil hws with ⟨w, ws, rfl⟩
  rcases exists_unwords_cons w ws with ⟨t, ht⟩
  rw [ht]
  exact List.append_ne_nil_of_left_ne_nil (h w (by simp)).1 t

/-- Words one space apart make a normal text. -/
theorem isNormal_unwords (h : ∀ w ∈ ws, IsWord w) : IsNormal (unwords ws) := by
  induction ws with
  | nil => exact isNormal_nil
  | cons w ws ih =>
    rcases List.forall_mem_cons.1 h with ⟨hw, hws⟩
    by_cases hnil : ws = []
    · rw [hnil, unwords_singleton]
      exact isNormal_of_isWord hw
    · rw [unwords_cons w hnil]
      exact (ih hws).append_word hw (unwords_ne_nil hws hnil)

/-- A text that is normal from its first word on is from there on its words one space apart. -/
theorem unwords_words_of_isNormal (h : IsNormal (trimStart s)) :
    unwords (words s) = trimStart s := by
  induction s using induction_on_words with
  | blank s hblank =>
    have htrim : trimStart (s ++ []) = [] := trimStart_append hblank (by simp)
    rw [List.append_nil] at htrim
    rw [words_eq_nil_iff.2 (List.all_eq_true.2 hblank), htrim]
    rfl
  | word s blanks w rest hcut ih =>
    have htrim : trimStart s = w ++ rest := by
      rw [hcut.eq_append, trimStart_append hcut.blank (head_of_isWord_append hcut.word rest)]
    rw [htrim] at h ⊢
    rw [hcut.words_eq]
    rcases h.behind_word hcut.front with rfl | ⟨t, rfl, hne, ht⟩
    · rw [List.append_nil, show words [] = [] from rfl, unwords_singleton]
    · have hspace : ∀ c ∈ [' '], isBlank c = true := by simp [isBlank_space]
      have hbehind : trimStart (' ' :: t) = t := trimStart_append hspace ht.front
      rw [hbehind] at ih
      have hwords : words (' ' :: t) ≠ [] := by
        intro hnil
        rw [hnil] at ih
        exact hne (ih ht).symm
      rw [unwords_cons w hwords, ih ht]

/-- A line is its own normal form exactly if it is normal. -/
theorem normalize_eq_self_iff : normalize line = line ↔ IsNormal line.toList := by
  rw [← String.toList_inj, normalize, String.toList_ofList]
  constructor
  · intro h
    rw [← h]
    exact isNormal_unwords fun w hw => isWord_of_mem_words hw
  · intro h
    have htrim : trimStart ([] ++ line.toList) = line.toList := trimStart_append (by simp) h.front
    rw [List.nil_append] at htrim
    rw [← htrim] at h
    rw [unwords_words_of_isNormal h, htrim]

/-- Normalizing twice is normalizing once. -/
theorem normalize_normalize (line : String) : normalize (normalize line) = normalize line := by
  rw [normalize_eq line]
  exact normalize_intercalate fun w hw => isWord_of_mem_lineWords hw

/-! ## Places in the normal line -/

/-- The stretches between the spaces of a normal line are the words of the line. -/
theorem splitOn_normalize (line : String) :
    ((normalize line).toList.splitOn ' ').filter (!·.isEmpty) = words line.toList := by
  have hwords : ∀ w ∈ words line.toList, IsWord w := fun w hw => isWord_of_mem_words hw
  rw [normalize, String.toList_ofList]
  by_cases hnil : words line.toList = []
  · rw [hnil]
    rfl
  · have hspace : ∀ w ∈ words line.toList, ' ' ∉ w := by
      intro w hw hmem
      have hblank := (hwords w hw).2 ' ' hmem
      cases hblank
    rw [unwords, List.splitOn_intercalate ' ' hspace hnil, List.filter_eq_self]
    intro w hw
    simpa using (hwords w hw).1

/-- The words of a line are placed one after the other. -/
theorem tokenize_eq (line : String) : tokenize line = placeWords 0 0 (words line.toList) := by
  rw [tokenize, splitOn_normalize]

section

variable {position offset : Nat} {before : List Char}

theorem map_text_placeWords :
    (placeWords position offset ws).map Word.text = ws.map String.ofList := by
  induction ws generalizing position offset with
  | nil => rfl
  | cons w ws ih => rw [placeWords, List.map_cons, List.map_cons, ih]

/-- Words are counted from the given position on. -/
theorem map_position_placeWords :
    (placeWords position offset ws).map Word.position = List.range' position ws.length := by
  induction ws generalizing position offset with
  | nil => rfl
  | cons w ws ih => rw [placeWords, List.map_cons, ih, List.length_cons, List.range'_succ]

/-- Between the offsets of a word and of the next stand the word and a space. -/
theorem isChain_placeWords :
    (placeWords position offset ws).IsChain fun v w => w.offset = v.offset + v.text.length + 1 := by
  induction ws generalizing position offset with
  | nil => exact List.isChain_nil
  | cons w ws ih =>
    cases ws with
    | nil => exact List.isChain_singleton _
    | cons v ws =>
      refine List.isChain_cons_cons.2 ⟨?_, ih⟩
      rw [String.length_ofList]

/-- Behind a text that ends where the words start, each word stands at its offset. -/
theorem take_drop_of_mem_placeWords {v : Word} (hbefore : before.length = offset)
    (hv : v ∈ placeWords position offset ws) :
    ((before ++ unwords ws).drop v.offset).take v.text.length = v.text.toList := by
  induction ws generalizing position offset before with
  | nil => cases hv
  | cons w ws ih =>
    rcases List.mem_cons.1 hv with rfl | hv
    · rcases exists_unwords_cons w ws with ⟨t, ht⟩
      simp [ht, ← hbefore]
    · -- the later words stand behind the word and a space
      have hws : ws ≠ [] := by
        rintro rfl
        cases hv
      have hlen : (before ++ (w ++ [' '])).length = offset + w.length + 1 := by
        simp [← hbefore, Nat.add_assoc]
      have h := ih hlen hv
      rw [unwords_cons w hws]
      simpa using h

/-- The last word ends where the words end. -/
theorem end_of_getLast?_placeWords {v : Word}
    (hv : v ∈ (placeWords position offset ws).getLast?) :
    v.offset + v.text.length = offset + (unwords ws).length := by
  induction ws generalizing position offset with
  | nil => cases hv
  | cons w ws ih =>
    cases ws with
    | nil =>
      obtain rfl : Word.mk (String.ofList w) position offset = v := by simpa [placeWords] using hv
      rw [unwords_singleton, String.length_ofList]
    | cons u ws =>
      have h := ih (List.getLast?_cons_cons ▸ hv)
      rw [h, unwords_cons w (List.cons_ne_nil u ws), List.length_append, List.length_cons]
      omega

end

/-- The words found between the spaces of the normal line are the longest runs without a blank of the line
as typed, counted from zero; one space apart they make the normal line, in which each stands at its
offset and is followed by one space or the end.  A line is its own normal form exactly if it is normal,
so that normalizing twice changes nothing, nor does normalizing before the words are looked for. -/
theorem tokenize_places_words (line : String) :
    CutIntoWords line.toList ((tokenize line).map (·.text.toList))
      ∧ (tokenize line).map (·.position) = List.range (tokenize line).length
      ∧ " ".intercalate ((tokenize line).map (·.text)) = normalize line
      ∧ (∀ w ∈ tokenize line,
        ((normalize line).toList.drop w.offset).take w.text.length = w.text.toList)
      ∧ (tokenize line).IsChain (fun v w => w.offset = v.offset + v.text.length + 1)
      ∧ (∀ w ∈ (tokenize line).getLast?, w.offset + w.text.length = (normalize line).length)
      ∧ (normalize line = line ↔ IsNormal line.toList)
      ∧ normalize (normalize line) = normalize line
      ∧ tokenize (normalize line) = tokenize line := by
  have htext : (tokenize line).map Word.text = lineWords line := by
    rw [tokenize_eq, map_text_placeWords, lineWords]
  have hnormal : (normalize line).toList = unwords (words line.toList) := by
    rw [normalize, String.toList_ofList]
  refine ⟨?_, ?_, ?_, ?_, ?_, ?_, normalize_eq_self_iff, normalize_normalize line, ?_⟩
  · have hruns : (tokenize line).map (·.text.toList) = words line.toList := by
      rw [← Function.comp_def String.toList Word.text, ← List.map_map, htext, lineWords]
      simp [Function.comp_def]
    rw [hruns]
    exact cutIntoWords_iff.2 rfl
  · have hlen : (tokenize line).length = (words line.toList).length := by
      rw [← List.length_map Word.text, htext, lineWords, List.length_map]
    rw [hlen, tokenize_eq, List.range_eq_range']
    exact map_position_placeWords
  · rw [normalize_eq]
    exact congrArg _ htext
  · intro w hw
    rw [tokenize_eq] at hw
    rw [hnormal]
    have hempty : ([] : List Char).length = 0 := rfl
    exact take_drop_of_mem_placeWords hempty hw
  · rw [tokenize_eq]
    exact isChain_placeWords
  · intro w hw
    rw [tokenize_eq] at hw
    rw [end_of_getLast?_placeWords hw, ← String.length_toList, hnormal, Nat.zero_add]
  · rw [tokenize, normalize_normalize, ← tokenize]

/-- A line with an ideographic space and a tab is not normal; its second word stands in the normal line
behind one space. -/
theorem tokenize_places_words_behind_tab :
    Word.mk "né" 1 2 ∈ tokenize "\u3000a \t né"
      ∧ ((normalize "\u3000a \t né").toList.drop 2).take 2 = "né".toList
      ∧ ¬ IsNormal "\u3000a \t né".toList := by
  rcases tokenize_places_words "\u3000a \t né" with ⟨-, -, -, hplace, -, -, hnormal, -⟩
  have hword : Word.mk "né" 1 2 ∈ tokenize "\u3000a \t né" := by decide +kernel
  have hchanges : normalize "\u3000a \t né" ≠ "\u3000a \t né" := by decide +kernel
  exact ⟨hword, hplace _ hword, fun h => hchanges (hnormal.2 h)⟩

end TextDesk
