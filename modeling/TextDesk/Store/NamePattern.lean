import TextDesk.Chars.SimpleFold
import TextDesk.Tails

/-! # Name patterns

A reference to texts may hold stars.  A star stands for any run of characters on one line, also for
none; every other character stands for itself, in any spelling of the same letter.

`fits` says which names a pattern fits.  Tried as it stands, it would try the stars' runs anew for each
other, so `covers` answers from a table over the tails of the name, whose letters it folds only once.
Main statement: both agree.
-/

namespace TextDesk.NamePattern

/-- Whether the test holds for what is left of `s` behind some run without a line feed. -/
def holdsBehindRun (test : List Char → Bool) : List Char → Bool
  | [] => test []
  | c :: s => test (c :: s) || (c != '\n' && holdsBehindRun test s)

/-- Whether a pattern fits a whole name. -/
def fits : List Char → List Char → Bool
  | [], s => s.isEmpty
  | q :: pattern, s =>
    if q = '*' then holdsBehindRun (fits pattern) s
    else
      match s with
      | [] => false
      | c :: rest => sameLetter q c && fits pattern rest

/-! ## Tables -/

/-- From the table of a test, that of the test behind a run without a line feed. -/
def starTable : List Char → List Bool → List Bool
  | c :: s, here :: table =>
    let later := starTable s table
    (here || (c != '\n' && later.headD false)) :: later
  | _, table => table

/-- From the table of a test, that of the test behind a letter whose folding is `q`, over the
foldings of the letters. -/
def letterTable (q : Char) : List Char → List Bool → List Bool
  | c :: folded, _ :: table => (q == c && table.headD false) :: letterTable q folded table
  | _, _ => [false]

/-- Which tails of a name a pattern fits, from the letters of the name and their foldings. -/
def fitTable (s folded : List Char) : List Char → List Bool
  | [] => onTails List.isEmpty s
  | q :: pattern =>
    if q = '*' then starTable s (fitTable s folded pattern)
    else letterTable (simpleFold q) folded (fitTable s folded pattern)

/-- Whether a pattern fits a whole name, found by way of the tails of the name. -/
def covers (pattern name : List Char) : Bool :=
  (fitTable name (name.map simpleFold) pattern).headD false

/-- The table for a star holds the answers for a star. -/
theorem starTable_onTails (test : List Char → Bool) (s : List Char) :
    starTable s (onTails test s) = onTails (holdsBehindRun test) s := by
  induction s with
  | nil => rfl
  | cons c s ih =>
    simp only [onTails, starTable, ih, List.headD_eq_head?_getD, head?_onTails, Option.getD_some,
      holdsBehindRun]

/-- The table for a letter holds the answers for a letter. -/
theorem letterTable_onTails (q : Char) (test : List Char → Bool) (s : List Char) :
    letterTable (simpleFold q) (s.map simpleFold) (onTails test s)
      = onTails (fun | [] => false | c :: rest => sameLetter q c && test rest) s := by
  induction s with
  | nil => rfl
  | cons c s ih =>
    simp only [onTails, List.map_cons, letterTable, ih, List.headD_eq_head?_getD, head?_onTails,
      Option.getD_some, sameLetter]

/-- The table of a pattern says of every tail whether the pattern fits it. -/
theorem fitTable_eq (pattern s : List Char) :
    fitTable s (s.map simpleFold) pattern = onTails (fits pattern) s := by
  induction pattern with
  | nil => rfl
  | cons q pattern ih =>
    by_cases hq : q = '*'
    · have hfits : fits (q :: pattern) = holdsBehindRun (fits pattern) := by
        funext t
        simp [fits, hq]
      rw [hfits, ← starTable_onTails, ← ih]
      simp [fitTable, hq]
    · have hfits : fits (q :: pattern)
          = fun | [] => false | c :: rest => sameLetter q c && fits pattern rest := by
        funext t
        cases t <;> simp [fits, hq]
      rw [hfits, ← letterTable_onTails, ← ih]
      simp [fitTable, hq]

/-- A pattern covers the names that it fits. -/
theorem covers_eq_fits (pattern name : List Char) : covers pattern name = fits pattern name := by
  simp [covers, fitTable_eq, head?_onTails]

/-- Whether a reference is a pattern, that is, holds a star. -/
def isPattern (reference : String) : Bool := reference.toList.contains '*'

end TextDesk.NamePattern
