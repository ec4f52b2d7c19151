/-! # Texts and cursors

The values that commands create and change: named texts, the cursors placed in them, and the two ends
of a cursor.  A token that is a number of at most 64 bits denotes a position, any other a word.
-/

namespace TextDesk

/-- One end of a cursor: a character position or a word.

A token of a command line sets at most one of the two; a state file may set both. -/
structure Destination where
  /-- The position, if the end is given as a number. -/
  position : Option UInt64 := none
  /-- The word, if the end is given as any other token. -/
  word : Option String := none
  deriving DecidableEq, Repr, Inhabited

namespace Destination

/-- The number that a run of decimal digits denotes. -/
def digitsValue (digits : List Char) : Nat := Nat.ofDigitChars 10 digits 0

/-- Whether a token is a run of ASCII digits whose value fits in 64 bits. -/
def isPosition (token : List Char) : Bool :=
  !token.isEmpty && token.all Char.isDigit && digitsValue token < UInt64.size

/-- The end that a token denotes: a position if it is a number of at most 64 bits, nothing if it is
empty, and otherwise the word itself. -/
def ofToken (token : String) : Destination :=
  if token.toList.isEmpty then {}
  else if isPosition token.toList then { position := some (UInt64.ofNat (digitsValue token.toList)) }
  else { word := some token }

/-- Whether neither field is set. -/
def isEmpty (d : Destination) : Bool := d.position.isNone && d.word.isNone

/-- How an end is written in a command line. -/
def render (d : Destination) : String :=
  match d.position, d.word with
  | some n, _ => n.toNat.repr
  | none, some w => w
  | none, none => "<none>"

end Destination

/-- A cursor spans two ends inside a text. -/
structure Cursor where
  /-- The name of the cursor. -/
  name : String
  /-- The name of the text it was placed in, if that was found. -/
  target : Option String := none
  /-- Where it starts. -/
  start : Destination
  /-- Whether it points forward. -/
  ahead : Bool
  /-- Where it ends. -/
  stop : Destination
  deriving DecidableEq, Repr, Inhabited

/-- A named text with the cursors placed in it. -/
structure Text where
  /-- The name by which commands address it. -/
  name : String
  /-- What it holds. -/
  data : String
  /-- The cursors in it, oldest first. -/
  cursors : List Cursor := []
  deriving DecidableEq, Repr, Inhabited

/-- The marker of a cursor that points forward. -/
def forwardMark : String := "->"

/-- The marker of a cursor that points backward. -/
def backwardMark : String := "<-"

end TextDesk
