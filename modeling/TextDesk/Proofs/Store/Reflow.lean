import TextDesk.Store.Reflow
import TextDesk.Words

/-! # What breaking a text into lines gives

The rule that `reflow` follows looks at one character after the other.  Main statement: what it gives are
the pieces of the text between the separators, each on a line of its own, if no separator is blank.  It
follows what a broken text keeps of the text, and what stands behind the separators in it.
-/

namespace TextDesk

variable {separator : Char → Bool} {broken : Bool} {c : Char} {s rest : List Char}

/-! ## Breaking at one character -/

/-- Behind a separator, blanks are dropped. -/
theorem breakLines_of_blank (hc : isBlank c = true) :
    breakLines separator true (c :: rest) = breakLines separator true rest := by
  rw [breakLines, hc, if_pos (by decide)]

/-- Behind a separator, the next character that is not blank starts a line. -/
theorem breakLines_of_not_blank (hc : isBlank c = false) :
    breakLines separator true (c :: rest) = '\n' :: c :: breakLines separator (separator c) rest := by
  rw [breakLines, hc, if_neg (by decide)]
  rfl

/-- Behind another character, the next one is kept as it is. -/
theorem breakLines_false_cons :
    breakLines separator false (c :: rest) = c :: breakLines separator (separator c) rest := rfl

/-! ## Lines of pieces -/

/-- A text cut behind every separator; the last piece is what no separator ends, possibly nothing. -/
def cutBehind (separator : Char → Bool) : List Char → List (List Char)
  | [] => [[]]
  | c :: rest =>
    if separator c then [c] :: cutBehind separator rest
    else (cutBehind separator rest).modifyHead (c :: ·)

/-- Pieces without the last one, if it is empty. -/
def dropEmptyLast (pieces : List (List Char)) : List (List Char) :=
  if pieces.getLast? = some [] then pieces.dropLast else pieces

/-- The lines of a text: its pieces, those behind a cut without the blanks in front, and without the last
of these if nothing is left of it. -/
def brokenLines (separator : Char → Bool) (s : List Char) : List (List Char) :=
  match cutBehind separator s with
  | [] => []
  | first :: later => first :: dropEmptyLast (later.map trimStart)

theorem cutBehind_of_separator (hc : separator c = true) :
    cutBehind separator (c :: rest) = [c] :: cutBehind separator rest :=
  if_pos hc

theorem cutBehind_of_not_separator (hc : separator c = false) {first : List Char}
    {later : List (List Char)} (hrest : cutBehind separator rest = first :: later) :
    cutBehind separator (c :: rest) = (c :: first) :: later := by
  rw [cutBehind, hc, if_neg (by decide), hrest, List.modifyHead_cons]

/-- A text is at least one piece. -/
theorem exists_cutBehind_eq_cons (separator : Char → Bool) (s : List Char) :
    ∃ first later, cutBehind separator s = first :: later := by
  induction s with
  | nil => exact ⟨[], [], rfl⟩
  | cons c rest ih =>
    rcases ih with ⟨first, later, hrest⟩
    cases hc : separator c with
    | true => exact ⟨[c], _, cutBehind_of_separator hc⟩
    | false => exact ⟨c :: first, later, cutBehind_of_not_separator hc hrest⟩

/-- A piece that is not empty is not dropped. -/
theorem dropEmptyLast_cons (piece : List Char) (pieces : List (List Char)) :
    dropEmptyLast ((c :: piece) :: pieces) = (c :: piece) :: dropEmptyLast pieces := by
  cases pieces with
  | nil => simp [dropEmptyLast]
  | cons next pieces =>
    rw [dropEmptyLast, dropEmptyLast, List.getLast?_cons_cons, List.dropLast_cons_cons]
    split <;> rfl

theorem trimStart_of_blank (hc : isBlank c = true) : trimStart (c :: s) = trimStart s :=
  List.dropWhile_cons_of_pos hc

theorem trimStart_of_not_blank (hc : isBlank c = false) : trimStart (c :: s) = c :: s :=
  List.dropWhile_cons_of_neg (by simp [hc])

/-- Breaking the rest of a text: behind a separator every piece starts a line, and otherwise every piece
but the first does. -/
theorem breakLines_eq_flatMap (h : ∀ c, separator c = true → isBlank c = false) (s : List Char) :
    breakLines separator true s
        = (dropEmptyLast ((cutBehind separator s).map trimStart)).flatMap ('\n' :: ·)
      ∧ ∀ first later, cutBehind separator s = first :: later →
        breakLines separator false s
          = first ++ (dropEmptyLast (later.map trimStart)).flatMap ('\n' :: ·) := by
  induction s with
  | nil =>
    refine ⟨rfl, ?_⟩
    intro first later hcut
    rcases List.cons.inj hcut with ⟨rfl, rfl⟩
    rfl
  | cons c rest ih =>
    rcases exists_cutBehind_eq_cons separator rest with ⟨first, later, hrest⟩
    rcases ih with ⟨hbroken, hunbroken⟩
    cases hc : separator c with
    | true =>
      rw [cutBehind_of_separator hc]
      constructor
      · rw [breakLines_of_not_blank (h c hc), hc, hbroken, List.map_cons,
          trimStart_of_not_blank (h c hc), dropEmptyLast_cons, List.flatMap_cons]
        rfl
      · intro first' later' hcut
        rcases List.cons.inj hcut with ⟨rfl, rfl⟩
        rw [breakLines_false_cons, hc, hbroken]
        rfl
    | false =>
      rw [cutBehind_of_not_separator hc hrest]
      constructor
      · rw [List.map_cons]
        cases hblank : isBlank c with
        | true =>
          -- the blank is dropped on one side and trimmed from the piece on the other
          rw [breakLines_of_blank hblank, hbroken, trimStart_of_blank hblank, hrest, List.map_cons]
        | false =>
          rw [breakLines_of_not_blank hblank, hc, hunbroken first later hrest,
            trimStart_of_not_blank hblank, dropEmptyLast_cons, List.flatMap_cons]
          rfl
      · intro first' later' hcut
        rcases List.cons.inj hcut with ⟨rfl, rfl⟩
        rw [breakLines_false_cons, hc, hunbroken first later hrest]
        rfl

/-- Lines joined: every line but the first stands behind a line feed. -/
theorem intercalate_newline_cons (first : List Char) (later : List (List Char)) :
    ['\n'].intercalate (first :: later) = first ++ later.flatMap ('\n' :: ·) := by
  induction later generalizing first with
  | nil => simp
  | cons next later ih =>
    rw [List.intercalate_cons_cons, ih, List.flatMap_cons]
    simp

/-- A text with its lines broken is its lines, joined by line feeds. -/
theorem breakLines_eq_intercalate (h : ∀ c, separator c = true → isBlank c = false) (s : List Char) :
    breakLines separator false s = ['\n'].intercalate (brokenLines separator s) := by
  rcases exists_cutBehind_eq_cons separator s with ⟨first, later, hcut⟩
  rw [brokenLines, hcut, (breakLines_eq_flatMap h s).2 first later hcut, intercalate_newline_cons]

/-! ## What a broken text keeps -/

/-- Breaking a text adds and drops blanks only. -/
theorem filter_breakLines (separator : Char → Bool) (broken : Bool) (s : List Char) :
    (breakLines separator broken s).filter (!isBlank ·) = s.filter (!isBlank ·) := by
  induction s generalizing broken with
  | nil => rfl
  | cons c rest ih =>
    cases broken with
    | false => rw [breakLines_false_cons, List.filter_cons, List.filter_cons, ih]
    | true =>
      cases hc : isBlank c with
      | true => rw [breakLines_of_blank hc, ih, List.filter_cons_of_neg (by simp [hc])]
      | false =>
        rw [breakLines_of_not_blank hc, List.filter_cons_of_neg (by decide), List.filter_cons,
          List.filter_cons, ih]

/-- Nothing changes before the first separator. -/
theorem breakLines_append_of_not_separator (hs : ∀ c ∈ s, separator c = false) (rest : List Char) :
    breakLines separator false (s ++ rest) = s ++ breakLines separator false rest := by
  induction s with
  | nil => rfl
  | cons c s ih =>
    rcases List.forall_mem_cons.1 hs with ⟨hc, hs⟩
    rw [List.cons_append, breakLines_false_cons, hc, ih hs, List.cons_append]

/-! ## What stands behind the separators -/

/-- Behind a separator stands nothing, or a line feed in front of a character that is not blank. -/
def BreaksOrEnds (s : List Char) : Prop := s = [] ∨ ∃ d rest, s = '\n' :: d :: rest ∧ isBlank d = false

/-- Directly behind a separator, a text is at its end or a new line starts. -/
theorem breaksOrEnds_breakLines (separator : Char → Bool) (s : List Char) :
    BreaksOrEnds (breakLines separator true s) := by
  induction s with
  | nil => exact Or.inl rfl
  | cons c rest ih =>
    cases hc : isBlank c with
    | true =>
      rw [breakLines_of_blank hc]
      exact ih
    | false =>
      rw [breakLines_of_not_blank hc]
      exact Or.inr ⟨c, _, rfl, hc⟩

/-- Behind every separator in a broken text, it ends or a new line starts. -/
theorem breaksOrEnds_of_suffix (h : ∀ c, separator c = true → isBlank c = false)
    (hc : separator c = true) {after : List Char}
    (hafter : c :: after <:+ breakLines separator broken s) : BreaksOrEnds after := by
  induction s generalizing broken with
  | nil => simp [breakLines] at hafter
  | cons d rest ih =>
    have hkept (hsuffix : c :: after <:+ d :: breakLines separator (separator d) rest) :
        BreaksOrEnds after := by
      rcases List.suffix_cons_iff.1 hsuffix with hsame | hlater
      · rcases List.cons.inj hsame with ⟨rfl, rfl⟩
        rw [hc]
        exact breaksOrEnds_breakLines separator rest
      · exact ih hlater
    cases broken with
    | false => exact hkept hafter
    | true =>
      cases hd : isBlank d with
      | true =>
        rw [breakLines_of_blank hd] at hafter
        exact ih hafter
      | false =>
        rw [breakLines_of_not_blank hd] at hafter
        rcases List.suffix_cons_iff.1 hafter with hsame | hsuffix
        · -- the line feed of a new line does not separate
          have hblank := h c hc
          rw [(List.cons.inj hsame).1] at hblank
          cases hblank
        · exact hkept hsuffix

/-- Up to a separator, a text is broken without regard to what follows. -/
theorem exists_breakLines_eq_append (h : ∀ c, separator c = true → isBlank c = false)
    (hc : separator c = true) (rest : List Char) :
    ∃ made, breakLines separator broken (s ++ c :: rest) = made ++ c :: breakLines separator true rest := by
  induction s generalizing broken with
  | nil =>
    rw [List.nil_append]
    cases broken with
    | false => exact ⟨[], by rw [breakLines_false_cons, hc, List.nil_append]⟩
    | true => exact ⟨['\n'], by rw [breakLines_of_not_blank (h c hc), hc, List.singleton_append]⟩
  | cons d s ih =>
    rw [List.cons_append, breakLines]
    split
    · exact ih
    · rcases @ih (separator d) with ⟨made, hmade⟩
      rw [hmade]
      exact ⟨_ ++ made, (List.append_assoc _ _ _).symm⟩

/-- Nothing but blanks behind a separator starts no line. -/
theorem breakLines_eq_nil (hs : ∀ c ∈ s, isBlank c = true) : breakLines separator true s = [] := by
  induction s with
  | nil => rfl
  | cons c s ih =>
    rcases List.forall_mem_cons.1 hs with ⟨hc, hs⟩
    rw [breakLines_of_blank hc, ih hs]

/-! ## Reflowed texts -/

variable {separators : List String}

/-- The separators that separate are those of one character. -/
theorem contains_separatorMarks (separators : List String) :
    (separatorMarks separators).contains = fun c => decide (String.singleton c ∈ separators) := by
  funext c
  rw [Bool.eq_iff_iff, List.contains_iff_mem, decide_eq_true_iff, separatorMarks, List.mem_filterMap]
  have hmark (mark : String) : separatorMark? mark = some c ↔ mark = String.singleton c := by
    rw [← String.toList_inj, String.toList_singleton, separatorMark?]
    split
    · next d hd => simp [hd]
    · next hlen => simpa using hlen c
  constructor
  · rintro ⟨mark, hmem, hsome⟩
    rwa [← (hmark mark).1 hsome]
  · intro hmem
    exact ⟨_, hmem, (hmark _).2 rfl⟩

/-- A text is reflowed by cutting it behind every separator, trimming the pieces behind a cut in front,
dropping the last of them if nothing is left of it, and joining all by line feeds.  So it keeps the
characters that are not blank and what stands before the first separator; every separator ends it or stands
in front of exactly one line feed; and if nothing but blanks follow a separator in the text, it ends the
reflowed text. -/
theorem reflow_joins_broken_lines (h : ∀ c, String.singleton c ∈ separators → isBlank c = false)
    (data : String) :
    (reflow separators data).toList
        = ['\n'].intercalate (brokenLines (fun c => String.singleton c ∈ separators) data.toList)
      ∧ (reflow separators data).toList.filter (!isBlank ·) = data.toList.filter (!isBlank ·)
      ∧ (∀ before rest, data = before ++ rest →
          (∀ c ∈ before.toList, String.singleton c ∉ separators) →
          reflow separators data = before ++ reflow separators rest)
      ∧ (∀ c after, String.singleton c ∈ separators →
          c :: after <:+ (reflow separators data).toList → BreaksOrEnds after)
      ∧ (∀ before c blanks, String.singleton c ∈ separators → data.toList = before ++ c :: blanks →
          (∀ d ∈ blanks, isBlank d = true) →
          (reflow separators data).toList.getLast? = some c) := by
  have hblank : ∀ c, decide (String.singleton c ∈ separators) = true → isBlank c = false := by
    simpa using h
  have hreflow (data : String) : (reflow separators data).toList
      = breakLines (fun c => String.singleton c ∈ separators) false data.toList := by
    rw [reflow_eq, contains_separatorMarks]
  refine ⟨?_, ?_, ?_, ?_, ?_⟩
  · rw [hreflow, breakLines_eq_intercalate hblank]
  · rw [hreflow, filter_breakLines]
  · rintro before rest rfl hbefore
    rw [← String.toList_inj, String.toList_append, hreflow, hreflow, String.toList_append]
    exact breakLines_append_of_not_separator (by simpa using hbefore) rest.toList
  · intro c after hc hafter
    rw [hreflow] at hafter
    exact breaksOrEnds_of_suffix hblank (decide_eq_true hc) hafter
  · intro before c blanks hc hdata hblanks
    rcases exists_breakLines_eq_append hblank (decide_eq_true hc) blanks with ⟨made, hmade⟩
    rw [hreflow, hdata, hmade, breakLines_eq_nil hblanks, List.getLast?_concat]

/-- Separators of no or two characters break nothing, and the blanks at the end start no line. -/
theorem reflow_of_odd_separators :
    (∀ c, String.singleton c ∈ [".", "; ", "", "!"] → isBlank c = false)
      ∧ brokenLines (fun c => String.singleton c ∈ [".", "; ", "", "!"]) " a; b.\r\n \n c!.  \n".toList
        = [" a; b.".toList, "c!".toList, ".".toList]
      ∧ reflow [".", "; ", "", "!"] " a; b.\r\n \n c!.  \n" = " a; b.\nc!\n." := by
  have hblank : ∀ c, String.singleton c ∈ [".", "; ", "", "!"] → isBlank c = false := by
    intro c hc
    have hlist := List.mem_map_of_mem (f := String.toList) hc
    rw [String.toList_singleton] at hlist
    have hmark : c = '.' ∨ c = '!' := by simpa using hlist
    rcases hmark with rfl | rfl <;> decide
  have hlines : brokenLines (fun c => String.singleton c ∈ [".", "; ", "", "!"])
      " a; b.\r\n \n c!.  \n".toList = [" a; b.".toList, "c!".toList, ".".toList] := by decide
  refine ⟨hblank, hlines, ?_⟩
  rw [← String.toList_inj, (reflow_joins_broken_lines hblank _).1, hlines]
  rfl

end TextDesk
