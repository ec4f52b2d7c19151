import TextDesk.Grammar.CutTable

/-! # Grammars

A grammar is the description of one kind of command: its elements in order, the first of which is as
a rule the keyword.  A command set holds grammars in the order in which they are tried.
-/

namespace TextDesk

/-- The kinds of command. -/
inductive Kind where
  /-- Create or replace a text. -/
  | input
  /-- Break a text into lines. -/
  | format
  /-- Place a cursor. -/
  | cursor
  /-- Append one text to another. -/
  | send
  /-- Print texts. -/
  | print
  /-- End the session. -/
  | quit
  deriving DecidableEq, Repr

/-- The name of a kind. -/
def Kind.name : Kind → String
  | input => "Input"
  | format => "Format"
  | cursor => "Cursor"
  | send => "Send"
  | print => "Print"
  | quit => "End"

/-- How deep the parts of a pattern may be nested. -/
def maxPatternDepth : Nat := 250

/-- The description of one kind of command. -/
structure Grammar where
  /-- What a line of this form means. -/
  kind : Kind
  /-- The elements of the line, in order. -/
  elements : List Element
  /-- No part of its pattern is nested too deep. -/
  shallow : elements.all (·.placedDepth ≤ maxPatternDepth) = true := by decide

namespace Grammar

/-- The grammar of a kind with the given elements, unless its pattern is nested too deep. -/
def ofElements? (kind : Kind) (elements : List Element) : Option Grammar :=
  if h : elements.all (·.placedDepth ≤ maxPatternDepth) = true then some ⟨kind, elements, h⟩ else none

/-- The pattern of one element at its place, its leading space included. -/
def placedFragment (first : Bool) : Element → String
  | .optional inner => "(?: " ++ inner.fragment ++ ")?"
  | e => if first then e.fragment else " " ++ e.fragment

/-- The pattern of the elements from some place on. -/
def patternFrom (first : Bool) : List Element → String
  | [] => ""
  | e :: es => placedFragment first e ++ patternFrom false es

/-- The pattern of whole lines of this form. -/
def pattern (g : Grammar) : String := "(?i)^" ++ patternFrom true g.elements ++ "$"

/-- The keyword, if the grammar starts with a fixed text. -/
def keyword? (g : Grammar) : Option String :=
  match g.elements with
  | .literal text :: _ => some text
  | _ => none

/-- The usage line: every element as it is shown to the user. -/
def usage (g : Grammar) : String := " ".intercalate (g.elements.map Element.render)

/-- The captures of a line of this form, one for each placeholder. -/
def captures? (g : Grammar) (line : String) : Option (List (Option String)) :=
  (cutTable true g.elements line.toList).whole.map fun cuts =>
    capturesAlong true g.elements cuts line.toList

/-- The captures of a line are those along its cuts. -/
theorem captures?_eq (g : Grammar) (line : String) :
    g.captures? line
      = (cuts? true g.elements line.toList).map (capturesAlong true g.elements · line.toList) := by
  rw [captures?, whole_cutTable]

/-- Whether a line has this form. -/
def recognizes (g : Grammar) (line : String) : Bool := (g.captures? line).isSome

end Grammar

/-! ## Command sets -/

/-- Grammars in the order in which they are tried. -/
structure CommandSet where
  grammars : List Grammar

namespace CommandSet

/-- The commands of the text desk. -/
def standard : CommandSet where
  grammars := [
    { kind := .input, elements := [.literal "input", .word, .optional .freeText] },
    { kind := .format, elements := [.literal "format", .word, .optional .word] },
    { kind := .cursor,
      elements := [.literal "cursor", .word, .word, .wordOrNumber, .direction, .wordOrNumber] },
    { kind := .send, elements := [.literal "send", .word, .word] },
    { kind := .print, elements := [.literal "print", .optional .word] },
    { kind := .quit, elements := [.literal "quit"] }]

/-- The first grammar of a kind. -/
def get? (set : CommandSet) (kind : Kind) : Option Grammar :=
  set.grammars.find? (·.kind = kind)

/-- The first grammar with the given keyword, in any ASCII case. -/
def select? (set : CommandSet) (word : String) : Option Grammar :=
  set.grammars.find? fun g => g.keyword?.any (sameName · word)

/-- The keywords, in order. -/
def keywords (set : CommandSet) : List String := set.grammars.filterMap Grammar.keyword?

end CommandSet

end TextDesk
