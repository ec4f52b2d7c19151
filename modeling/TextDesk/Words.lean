import TextDesk.Chars.Blank

/-! # Words of a line

A line is cut into runs of blank and of other characters; the runs that are not blank are its words.
A line is *normal* if its words stand one space apart and nothing else surrounds them.  Main
statements: the runs of a text join to the text, and no run is empty.
-/

namespace TextDesk

/-! ## Runs -/

/-- Cuts a text into the longest runs of neighbours on which `p` has one value. -/
def runs {α : Type} (p : α → Bool) : List α → List (List α)
  | [] => []
  | c :: cs =>
    match runs p cs with
    | (d :: run) :: rest =>
      if p c = p d then (c :: d :: run) :: rest else [c] :: (d :: run) :: rest
    | rest => [c] :: rest

/-- No run is empty. -/
theorem nil_notMem_runs {α : Type} (p : α → Bool) (s : List α) : [] ∉ runs p s := by
  induction s with
  | nil => simp [runs]
  | cons c cs ih =>
    unfold runs
    split
    · next d run rest h =>
      rw [h] at ih
      split <;> simp_all
    · simp [ih]

/-- The runs of a text join to the text. -/
theorem flatten_runs {α : Type} (p : α → Bool) (s : List α) : (runs p s).flatten = s := by
  induction s with
  | nil => rfl
  | cons c cs ih =>
    unfold runs
    split
    · next d run rest h =>
      rw [h] at ih
      split <;> simpa using ih
    · simp [ih]

/-! ## Words and normal lines -/

/-- The words of a text: its longest runs without a blank, in order. -/
def words (s : List Char) : List (List Char) :=
  (runs isBlank s).filter fun run => !run.all isBlank

/-- Words put one space apart. -/
def unwords (ws : List (List Char)) : List Char := [' '].intercalate ws

/-- The normal form of a line: its words, one space apart. -/
def normalize (line : String) : String := String.ofList (unwords (words line.toList))

/-- A word and where it stands in the normal form of its line. -/
structure Word where
  /-- The word itself. -/
  text : String
  /-- How many words stand before it. -/
  position : Nat
  /-- How many characters of the normal line stand before it. -/
  offset : Nat
  deriving DecidableEq, Repr

/-- Places words one after the other, the first at the given position and offset. -/
def placeWords (position offset : Nat) : List (List Char) → List Word
  | [] => []
  | w :: ws => ⟨String.ofList w, position, offset⟩ :: placeWords (position + 1) (offset + w.length + 1) ws

/-- The words of a line, each with its place in the normal line: what stands between the spaces of the
normal line, where that is not empty. -/
def tokenize (line : String) : List Word :=
  placeWords 0 0 (((normalize line).toList.splitOn ' ').filter (!·.isEmpty))

/-! ## Blank edges -/

/-- A text without the blanks before its first word. -/
def trimStart (s : List Char) : List Char := s.dropWhile isBlank

/-- A text without the blanks at either end. -/
def trim (s : List Char) : List Char := ((trimStart s).reverse.dropWhile isBlank).reverse

/-- Whether a line has no word. -/
def isBlankLine (line : String) : Bool := line.toList.all isBlank

/-- Whether a line holds nothing but `mark` and blanks around it. -/
def holdsOnly (mark line : String) : Bool := trim line.toList == mark.toList

end TextDesk
