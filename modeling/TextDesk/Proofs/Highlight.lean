import TextDesk.Highlight
import TextDesk.Proofs.Diagnosis

/-! # What the colour of the first word says

The colours of a line are found from its runs as typed, while a line is read from its normal form.  Main
statement: both agree on what a command is.  The first word is red exactly if the line is reported as an
unknown command, and bold green exactly if it is a command, ends the session or is reported as malformed.
-/

namespace TextDesk

/-! ## Reports of lines with and without a keyword -/

namespace CommandSet

variable {set : CommandSet} {line : String}

/-- A line without a keyword is reported as an unknown command. -/
theorem read_standard_of_lacksKeyword (h : standard.LacksKeyword (lineWords line)) :
    standard.read line = .error ⟨.unknownCommand (normalize line), none⟩ := by
  have hnone : standard.command? line = none := by
    rw [← Option.not_isSome_iff_eq_none, Option.isSome_iff_exists]
    intro hcommand
    exact not_accepts_of_lacksKeyword h (Or.inl hcommand)
  rw [read_of_command?_eq_none hnone, diagnose_of_lacksKeyword h]
  rfl

/-- A line with a keyword is a command or is reported as malformed. -/
theorem read_of_not_lacksKeyword (h : ¬ set.LacksKeyword (lineWords line)) :
    (∃ c, set.read line = .ok c)
      ∨ ∃ expected found,
        set.read line = .error ⟨.malformedCommand (normalize line) expected found, none⟩ := by
  cases hcommand : set.command? line with
  | some c => exact Or.inl ⟨c, by rw [read, hcommand]⟩
  | none =>
    rcases exists_mistake_of_not_lacksKeyword h with ⟨expected, found, hmistake⟩
    refine Or.inr ⟨expected, found, ?_⟩
    rw [read_of_command?_eq_none hcommand, hmistake]
    rfl

/-- A line lacks a keyword exactly if it is reported as an unknown command. -/
theorem lacksKeyword_iff_read : standard.LacksKeyword (lineWords line)
    ↔ ∃ failure text, standard.read line = .error failure ∧ failure.cause = .unknownCommand text := by
  constructor
  · intro h
    exact ⟨_, _, read_standard_of_lacksKeyword h, rfl⟩
  · rintro ⟨failure, text, hread, hcause⟩
    by_contra h
    rcases read_of_not_lacksKeyword h with ⟨c, hok⟩ | ⟨expected, found, hmalformed⟩
    · rw [hok] at hread
      cases hread
    · rw [hmalformed] at hread
      cases hread
      cases hcause

/-- A line has a keyword exactly if it is a command, ends the session or is reported as malformed. -/
theorem not_lacksKeyword_iff_read : ¬ standard.LacksKeyword (lineWords line)
    ↔ (∃ c, standard.read line = .ok c) ∨ standard.isQuit line = true
      ∨ ∃ failure text expected found, standard.read line = .error failure
        ∧ failure.cause = .malformedCommand text expected found := by
  constructor
  · intro h
    rcases read_of_not_lacksKeyword h with hok | ⟨expected, found, hmalformed⟩
    · exact Or.inl hok
    · exact Or.inr (Or.inr ⟨_, _, expected, found, hmalformed, rfl⟩)
  · rintro (⟨c, hok⟩ | hquit | ⟨failure, text, expected, found, hread, hcause⟩) h
    · rw [read_standard_of_lacksKeyword h] at hok
      cases hok
    · exact not_accepts_of_lacksKeyword h (Or.inr hquit)
    · rw [read_standard_of_lacksKeyword h] at hread
      cases hread
      cases hcause

end CommandSet

/-! ## The colours of a line cut around its first word -/

namespace Highlight

variable {s blanks w rest : List Char} {first : Bool} {colour : Colour} {line : String}

/-- Blanks in front of a word are shown as typed. -/
theorem paintRuns_append_of_blank (hblank : ∀ c ∈ blanks, isBlank c = true)
    (hs : ∀ c ∈ s.head?, isBlank c = false) :
    paintRuns first (runs isBlank (blanks ++ s)) = blanks ++ paintRuns first (runs isBlank s) := by
  by_cases hnil : blanks = []
  · rw [hnil, List.nil_append, List.nil_append]
  · have hend : ∀ c ∈ s.head?, isBlank c ≠ true := by
      intro c hc
      simp [hs c hc]
    have hall : blanks.all isBlank = true := List.all_eq_true.2 hblank
    rw [runs_append hnil hblank hend, paintRuns, if_pos hall]

/-- A word in front of a blank is shown in its colour, and no later word is the first. -/
theorem paintRuns_append_of_isWord (hw : IsWord w) (hs : BlankFront s) :
    paintRuns first (runs isBlank (w ++ s))
      = paint (if first then some (headColour w) else tailColour? w) w
        ++ paintRuns false (runs isBlank s) := by
  have hend : ∀ c ∈ s.head?, isBlank c ≠ false := by
    intro c hc
    simp [hs c hc]
  have hnot : ¬ w.all isBlank = true := by
    rcases List.exists_mem_of_ne_nil w hw.1 with ⟨c, hc⟩
    simpa using ⟨c, hc, hw.2 c hc⟩
  rw [runs_append hw.1 hw.2 hend, paintRuns, if_neg hnot]

/-- What is shown of a text that is cut around its first word. -/
theorem paintRuns_of_cutAtWord (h : CutAtWord s blanks w rest) :
    paintRuns first (runs isBlank s)
      = blanks ++ (paint (if first then some (headColour w) else tailColour? w) w
        ++ paintRuns false (runs isBlank rest)) := by
  rw [h.eq_append, paintRuns_append_of_blank h.blank (head_of_isWord_append h.word rest),
    paintRuns_append_of_isWord h.word h.front]

/-- What is shown of a line that is cut around its first word. -/
theorem toList_highlight (h : CutAtWord line.toList blanks w rest) :
    (highlight line).toList
      = blanks ++ ((headColour w).start ++ w ++ reset ++ paintRuns false (runs isBlank rest)) := by
  rw [highlight, String.toList_ofList, paintRuns_of_cutAtWord h, if_pos rfl, paint]

/-- The escape sequences of two colours differ in their first four characters. -/
theorem start_append_inj {colour' : Colour} {t : List Char}
    (h : colour.start ++ s = colour'.start ++ t) : colour = colour' := by
  have hlen (c : Colour) : 4 ≤ c.start.length := by cases c <;> decide
  have htake := congrArg (List.take 4) h
  rw [List.take_append_of_le_length (hlen _), List.take_append_of_le_length (hlen _)] at htake
  revert htake
  cases colour <;> cases colour' <;> decide

/-- The first word of a line is shown in the colour: behind the blanks before it stand the escape
sequence of the colour, the word and the reset. -/
def ShowsFirstWord (colour : Colour) (line : String) : Prop :=
  ∃ blanks w rest shown, CutAtWord line.toList blanks w rest
    ∧ (highlight line).toList = blanks ++ (colour.start ++ w ++ reset ++ shown)

/-- The first word is shown in the colour of a first word. -/
theorem showsFirstWord_iff (h : CutAtWord line.toList blanks w rest) :
    ShowsFirstWord colour line ↔ headColour w = colour := by
  constructor
  · rintro ⟨blanks', w', rest', shown, h', hshown⟩
    -- a line has only one first word
    have hwords := h.words_eq
    rw [h'.words_eq] at hwords
    obtain rfl : w' = w := (List.cons.inj hwords).1
    rw [toList_highlight h'] at hshown
    have hsame := List.append_cancel_left hshown
    simp only [List.append_assoc] at hsame
    exact start_append_inj hsame
  · rintro rfl
    exact ⟨blanks, w, rest, _, h, toList_highlight h⟩

/-- The colour of a first word says whether it is a keyword. -/
theorem headColour_eq_red_iff :
    headColour w = .red ↔ CommandSet.standard.select? (String.ofList w) = none := by
  unfold headColour
  cases CommandSet.standard.select? (String.ofList w) <;> simp

theorem headColour_eq_boldGreen_iff :
    headColour w = .boldGreen ↔ ¬ CommandSet.standard.select? (String.ofList w) = none := by
  unfold headColour
  cases CommandSet.standard.select? (String.ofList w) <;> simp

/-- The colour of the first word agrees with how the line is read: red for unknown commands, and bold
green for commands, for the end of the session and for malformed commands. -/
theorem showsFirstWord_iff_read (h : isBlankLine line = false) :
    (ShowsFirstWord .red line ↔ ∃ failure text, CommandSet.standard.read line = .error failure
        ∧ failure.cause = .unknownCommand text)
      ∧ (ShowsFirstWord .boldGreen line ↔ (∃ c, CommandSet.standard.read line = .ok c)
        ∨ CommandSet.standard.isQuit line = true
        ∨ ∃ failure text expected found, CommandSet.standard.read line = .error failure
          ∧ failure.cause = .malformedCommand text expected found) := by
  rcases exists_cutAtWord h with ⟨blanks, w, rest, hcut⟩
  have hline : lineWords line = String.ofList w :: (words rest).map String.ofList := by
    rw [lineWords, hcut.words_eq, List.map_cons]
  rw [showsFirstWord_iff hcut, showsFirstWord_iff hcut, headColour_eq_red_iff,
    headColour_eq_boldGreen_iff, ← CommandSet.lacksKeyword_iff_read,
    ← CommandSet.not_lacksKeyword_iff_read, hline, CommandSet.lacksKeyword_cons_iff]
  exact ⟨Iff.rfl, Iff.rfl⟩

/-- A long `ſ` is no spelling of `s`, so the first word behind an ideographic space is shown in red. -/
theorem showsFirstWord_of_long_s : isBlankLine "\u3000 ſend a b" = false
    ∧ ShowsFirstWord .red "\u3000 ſend a b"
    ∧ CommandSet.standard.read "\u3000 ſend a b" = .error ⟨.unknownCommand "ſend a b", none⟩ := by
  have hblank : isBlankLine "\u3000 ſend a b" = false := by decide +kernel
  have hnone : CommandSet.standard.command? "\u3000 ſend a b" = none := by decide +kernel
  have hunknown : CommandSet.standard.diagnose "\u3000 ſend a b" = .unknownCommand := by
    decide +kernel
  have hnormal : normalize "\u3000 ſend a b" = "ſend a b" := by decide +kernel
  have hread : CommandSet.standard.read "\u3000 ſend a b"
      = .error ⟨.unknownCommand "ſend a b", none⟩ := by
    rw [CommandSet.read_of_command?_eq_none hnone, hunknown, hnormal]
    rfl
  exact ⟨hblank, (showsFirstWord_iff_read hblank).1.2 ⟨_, _, hread, rfl⟩, hread⟩

end Highlight

end TextDesk
