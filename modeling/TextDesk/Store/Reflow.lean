import TextDesk.Chars.Blank

/-! # Breaking a text into lines

A text is broken behind every separator: what follows it starts a new line, without the blanks
before it.  Nothing is broken behind a separator that only blanks follow.

`breakLines` states the rule by recursion on the characters.  `reflow` runs from left to right and adds to
the text made so far; it starts a line as soon as it meets a separator, and at the end takes back a line in
which nothing came to stand.  Main statement: `reflow_eq`, by which both give the same text.
-/

namespace TextDesk

/-- The separators of a format command that names none. -/
def standardSeparators : List String := [".", "!", "?"]

/-- The character of a separator; a string of any other length than one has none. -/
def separatorMark? (separator : String) : Option Char :=
  match separator.toList with
  | [c] => some c
  | _ => none

/-- The characters that separate. -/
def separatorMarks (separators : List String) : List Char := separators.filterMap separatorMark?

/-- Breaks the rest of a text into lines; `broken` says whether a separator stands directly before
it, apart from blanks that were dropped. -/
def breakLines (separator : Char → Bool) : (broken : Bool) → List Char → List Char
  | _, [] => []
  | broken, c :: rest =>
    if broken && isBlank c then breakLines separator broken rest
    else (if broken then ['\n', c] else [c]) ++ breakLines separator (separator c) rest

/-- What was made of the front of a text: the characters, and whether a line was started for what follows a
separator. -/
abbrev MadeLines := String × Bool

/-- Takes one character more of a text.  Behind a separator a line is started at once, and blanks in front
of it are dropped. -/
def breakStep (separator : Char → Bool) (made : MadeLines) (c : Char) : MadeLines :=
  if made.2 && isBlank c then made
  else if separator c then ((made.1.push c).push '\n', true)
  else (made.1.push c, false)

/-- The lines of the whole text: a line that was started and got nothing is taken back. -/
def MadeLines.finish (made : MadeLines) : String :=
  if made.2 then String.ofList made.1.toList.dropLast else made.1

/-- A text broken into lines behind the separators. -/
def reflow (separators : List String) (data : String) : String :=
  let marks := separatorMarks separators
  (data.foldl (breakStep marks.contains) ("", false)).finish

/-- What was made, with a line started behind it if a separator stands there. -/
def madeLines (made : String) (broken : Bool) : MadeLines :=
  (if broken then made.push '\n' else made, broken)

theorem breakStep_madeLines_of_blank (separator : Char → Bool) (made : String) {c : Char}
    (hc : isBlank c = true) : breakStep separator (madeLines made true) c = madeLines made true :=
  if_pos hc

/-- A character that is kept stands behind the line feed of the line that was started for it. -/
theorem breakStep_madeLines (separator : Char → Bool) (made : String) {broken : Bool} {c : Char}
    (hkept : (broken && isBlank c) = false) :
    breakStep separator (madeLines made broken) c
      = madeLines ((madeLines made broken).1.push c) (separator c) := by
  unfold breakStep
  rw [show (madeLines made broken).2 = broken from rfl, hkept, if_neg (by decide)]
  unfold madeLines
  cases separator c <;> rfl

/-- The loop puts a line feed behind a separator at once, while the rule puts it in front of the next
character that is kept.  They agree once the last line feed is taken back. -/
theorem toList_finish_foldl_breakStep (separator : Char → Bool) (made : String) (broken : Bool)
    (cs : List Char) :
    (MadeLines.finish (cs.foldl (breakStep separator) (madeLines made broken))).toList
      = made.toList ++ breakLines separator broken cs := by
  induction cs generalizing made broken with
  | nil =>
    cases broken with
    | false => simp [madeLines, MadeLines.finish, breakLines]
    | true => simp [madeLines, MadeLines.finish, breakLines]
  | cons c rest ih =>
    rw [List.foldl_cons, breakLines]
    cases hdrop : broken && isBlank c with
    | true =>
      rcases Bool.and_eq_true_iff.1 hdrop with ⟨rfl, hc⟩
      rw [breakStep_madeLines_of_blank separator made hc, ih]
      rfl
    | false =>
      rw [breakStep_madeLines separator made hdrop, ih]
      cases broken <;> simp [madeLines]

/-- The characters of a reflowed text are those of the text with its lines broken. -/
theorem reflow_eq (separators : List String) (data : String) :
    (reflow separators data).toList =
      breakLines (separatorMarks separators).contains false data.toList := by
  have hloop := toList_finish_foldl_breakStep (separatorMarks separators).contains "" false data.toList
  rw [reflow, String.foldl_eq_foldl_toList]
  exact hloop

example : separatorMarks [".", "", "ab", "!"] = ['.', '!'] := by decide

example : reflow standardSeparators " one. two!  ?three. " = " one.\ntwo!\n?\nthree." := by
  rw [← String.toList_inj, reflow_eq]
  decide

end TextDesk
