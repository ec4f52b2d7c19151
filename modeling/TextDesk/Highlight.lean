import TextDesk.Grammar
import TextDesk.Words

/-! # Colours of a command line

A command line is shown with its first word in bold green if it is a keyword and in red if not, with
directions in cyan and numbers in magenta.  Blanks and all other words are shown as typed.
-/

namespace TextDesk.Highlight

/-- A colour, by the parameters of its escape sequence. -/
inductive Colour where
  /-- A keyword. -/
  | boldGreen
  /-- A first word that is no keyword. -/
  | red
  /-- A direction. -/
  | cyan
  /-- A number. -/
  | magenta
  deriving DecidableEq, Repr

/-- The escape sequence that turns a colour on. -/
def Colour.start : Colour → List Char
  | boldGreen => "\x1b[1;32m".toList
  | red => "\x1b[31m".toList
  | cyan => "\x1b[36m".toList
  | magenta => "\x1b[35m".toList

/-- The escape sequence that turns colours off. -/
def reset : List Char := "\x1b[0m".toList

/-- The colour of a first word. -/
def headColour (word : List Char) : Colour :=
  if (CommandSet.standard.select? (String.ofList word)).isSome then .boldGreen else .red

/-- The colour of a later word, if it has one. -/
def tailColour? (word : List Char) : Option Colour :=
  if word = forwardMark.toList ∨ word = backwardMark.toList then some .cyan
  else if word.all Char.isDigit then some .magenta
  else none

/-- A word in its colour, if it has one. -/
def paint (colour? : Option Colour) (word : List Char) : List Char :=
  match colour? with
  | some colour => colour.start ++ word ++ reset
  | none => word

/-- The runs of a line in their colours; `first` says whether the first word is still to come. -/
def paintRuns (first : Bool) : List (List Char) → List Char
  | [] => []
  | run :: rest =>
    if run.all isBlank then run ++ paintRuns first rest
    else paint (if first then some (headColour run) else tailColour? run) run ++ paintRuns false rest

/-- A command line in its colours. -/
def highlight (line : String) : String :=
  String.ofList (paintRuns true (runs isBlank line.toList))

end TextDesk.Highlight
