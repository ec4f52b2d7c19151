import TextDesk.Proofs.Highlight

/-! # What highlighting adds to a line

Highlighting puts colours around words and changes nothing else.  `Decorated` says so word by word, without
running through the line as the highlighter does; main statement `highlight_only_decorates`: what is shown
of a line is decorated in this sense, and without its escape sequences it is the line.
-/

namespace TextDesk.Highlight

variable {s t w shown : List Char} {first : Bool} {colour : Colour} {line : String}

/-! ## Escape sequences -/

/-- The character that starts an escape sequence. -/
def escape : Char := '\x1b'

/-- A text without its escape sequences, each of which starts with `escape` and a bracket and ends with the
next `m`; `inside` says whether the text starts within one. -/
def withoutEscapes (inside : Bool) : List Char → List Char
  | [] => []
  | c :: rest =>
    if inside then withoutEscapes (c != 'm') rest
    else if c = escape ∧ rest.head? = some '[' then withoutEscapes true rest
    else c :: withoutEscapes false rest

/-- Characters that start no escape sequence stay. -/
theorem withoutEscapes_append (h : escape ∉ s) :
    withoutEscapes false (s ++ t) = s ++ withoutEscapes false t := by
  induction s with
  | nil => rfl
  | cons c s ih =>
    rw [List.mem_cons, not_or] at h
    have hc : ¬ (c = escape ∧ (s ++ t).head? = some '[') := fun hescape => h.1 hescape.1.symm
    rw [List.cons_append, withoutEscapes, if_neg (by decide), if_neg hc, ih h.2, List.cons_append]

theorem withoutEscapes_start (colour : Colour) (t : List Char) :
    withoutEscapes false (colour.start ++ t) = withoutEscapes false t := by
  cases colour <;> rfl

theorem withoutEscapes_reset (t : List Char) :
    withoutEscapes false (reset ++ t) = withoutEscapes false t := rfl

/-- Of a word in a colour the word stays. -/
theorem withoutEscapes_coloured (hw : escape ∉ w) :
    withoutEscapes false (colour.start ++ w ++ reset ++ t) = w ++ withoutEscapes false t := by
  rw [List.append_assoc, List.append_assoc, withoutEscapes_start, withoutEscapes_append hw,
    withoutEscapes_reset]

/-! ## Decorated texts -/

/-- How a word is shown, the first of a line and a later one: in one colour as a whole, or as typed. -/
inductive ShownAs : Bool → List Char → List Char → Prop
  | keyword {w : List Char}
    (h : ∃ k ∈ CommandSet.standard.keywords, sameName k (String.ofList w) = true) :
    ShownAs true w (Colour.boldGreen.start ++ w ++ reset)
  | noKeyword {w : List Char}
    (h : ∀ k ∈ CommandSet.standard.keywords, sameName k (String.ofList w) = false) :
    ShownAs true w (Colour.red.start ++ w ++ reset)
  | direction {w : List Char} (h : String.ofList w = "->" ∨ String.ofList w = "<-") :
    ShownAs false w (Colour.cyan.start ++ w ++ reset)
  | number {w : List Char} (h : ∀ c ∈ w, c.isDigit = true) :
    ShownAs false w (Colour.magenta.start ++ w ++ reset)
  | plain {w : List Char} (hdirection : ¬ (String.ofList w = "->" ∨ String.ofList w = "<-"))
    (hnumber : ¬ ∀ c ∈ w, c.isDigit = true) : ShownAs false w w

/-- A text is shown with each of its words as it should be and every blank as typed; `first` says whether
its first word is the first of the line. -/
inductive Decorated : Bool → List Char → List Char → Prop
  | blank {first : Bool} {s : List Char} (h : ∀ c ∈ s, isBlank c = true) : Decorated first s s
  | word {first : Bool} {s blanks w rest t shown : List Char} (h : CutAtWord s blanks w rest)
    (hw : ShownAs first w t) (hrest : Decorated false rest shown) :
    Decorated first s (blanks ++ (t ++ shown))

/-- Of a shown word the word stays. -/
theorem ShownAs.withoutEscapes_append (h : ShownAs first w shown) (hw : escape ∉ w) :
    withoutEscapes false (shown ++ t) = w ++ withoutEscapes false t := by
  cases h with
  | keyword | noKeyword | direction | number => exact withoutEscapes_coloured hw
  | plain => exact Highlight.withoutEscapes_append hw

/-- Without its escape sequences a decorated text is the text. -/
theorem Decorated.withoutEscapes_eq (h : Decorated first s shown) (hs : escape ∉ s) :
    withoutEscapes false shown = s := by
  induction h with
  | blank _ => simpa [withoutEscapes] using withoutEscapes_append (t := []) hs
  | @word first s blanks w rest t shown hcut hw hrest ih =>
    rw [hcut.eq_append, List.mem_append, List.mem_append, not_or, not_or] at hs
    rw [Highlight.withoutEscapes_append hs.1, hw.withoutEscapes_append hs.2.1, ih hs.2.2,
      hcut.eq_append]

/-! ## Highlighted lines -/

/-- A first word is painted as it should be shown. -/
theorem shownAs_head (w : List Char) : ShownAs true w (paint (some (headColour w)) w) := by
  have hselect : CommandSet.standard.select? (String.ofList w) = none
      ↔ CommandSet.standard.LacksKeyword [String.ofList w] := CommandSet.lacksKeyword_cons_iff.symm
  by_cases h : CommandSet.standard.select? (String.ofList w) = none
  · rw [headColour_eq_red_iff.2 h]
    exact .noKeyword (hselect.1 h _ rfl)
  · rw [headColour_eq_boldGreen_iff.2 h]
    rw [hselect] at h
    exact .keyword (by simpa [CommandSet.LacksKeyword] using h)

/-- A later word is painted as it should be shown. -/
theorem shownAs_tail (w : List Char) : ShownAs false w (paint (tailColour? w) w) := by
  have hmark (mark : String) : String.ofList w = mark ↔ w = mark.toList := by
    rw [← String.toList_inj, String.toList_ofList]
  have hdirection : (String.ofList w = "->" ∨ String.ofList w = "<-")
      ↔ (w = forwardMark.toList ∨ w = backwardMark.toList) := by
    rw [hmark, hmark]
    rfl
  unfold tailColour?
  split
  · next h => exact .direction (hdirection.2 h)
  · next h =>
    rw [← hdirection] at h
    split
    · next hall => exact .number (List.all_eq_true.1 hall)
    · next hall => exact .plain h (fun hnumber => hall (List.all_eq_true.2 hnumber))

/-- A blank text is shown as typed. -/
theorem paintRuns_of_blank (h : ∀ c ∈ s, isBlank c = true) :
    paintRuns first (runs isBlank s) = s := by
  have hs : paintRuns first (runs isBlank (s ++ [])) = s ++ paintRuns first (runs isBlank []) :=
    paintRuns_append_of_blank h (by simp)
  simpa [runs, paintRuns] using hs

/-- The highlighter decorates a text word by word. -/
theorem decorated_paintRuns (first : Bool) (s : List Char) :
    Decorated first s (paintRuns first (runs isBlank s)) := by
  induction s using induction_on_words generalizing first with
  | blank s h =>
    rw [paintRuns_of_blank h]
    exact .blank h
  | word s blanks w rest h ih =>
    rw [paintRuns_of_cutAtWord h]
    refine .word h ?_ (ih false)
    cases first with
    | true => exact shownAs_head w
    | false => exact shownAs_tail w

/-- Highlighting only decorates: without its escape sequences what is shown of a line is the line, the first
word and the directions and numbers behind it are each in one colour as a whole and all else is as typed,
and a blank line is shown as it is. -/
theorem highlight_only_decorates (line : String) :
    (escape ∉ line.toList → withoutEscapes false (highlight line).toList = line.toList)
      ∧ Decorated true line.toList (highlight line).toList
      ∧ (isBlankLine line = true → highlight line = line) := by
  have hshown : (highlight line).toList = paintRuns true (runs isBlank line.toList) := by
    rw [highlight, String.toList_ofList]
  have hdecorated : Decorated true line.toList (highlight line).toList := by
    rw [hshown]
    exact decorated_paintRuns true line.toList
  refine ⟨fun h => hdecorated.withoutEscapes_eq h, hdecorated, ?_⟩
  intro hblank
  rw [← String.toList_inj, hshown]
  exact paintRuns_of_blank (List.all_eq_true.1 hblank)

/-- A keyword in capitals, a direction and a number among wide blanks are decorated, `é7` is not. -/
theorem highlight_only_decorates_among_wide_blanks :
    escape ∉ "\u3000CURSOR\t-> é7  07".toList
      ∧ highlight "\u3000CURSOR\t-> é7  07"
        = "\u3000\x1b[1;32mCURSOR\x1b[0m\t\x1b[36m->\x1b[0m é7  \x1b[35m07\x1b[0m"
      ∧ withoutEscapes false (highlight "\u3000CURSOR\t-> é7  07").toList
        = "\u3000CURSOR\t-> é7  07".toList := by
  have hescape : escape ∉ "\u3000CURSOR\t-> é7  07".toList := by decide +kernel
  refine ⟨hescape, by decide +kernel, ?_⟩
  exact (highlight_only_decorates "\u3000CURSOR\t-> é7  07").1 hescape

end TextDesk.Highlight
