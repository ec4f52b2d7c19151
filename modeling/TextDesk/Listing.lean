import TextDesk.Text

/-! # The printed form of texts

Texts are printed as an indented JSON array, one object for each text, followed by a line feed.
Members stand two spaces further in than their container, one on a line; an empty array is `[]`.
In strings, quotes, backslashes and the control characters below the space are escaped, and all
other characters are written as they are.
-/

namespace TextDesk.Listing

/-! ## Values -/

/-- The control characters with an escape of one letter. -/
def shortEscapes : List (Char × Char) :=
  [('"', '"'), ('\\', '\\'), ('\x08', 'b'), ('\t', 't'), ('\n', 'n'), ('\x0c', 'f'), ('\r', 'r')]

/-- The digit of a number below 16, small letters from ten on. -/
def hexDigit (n : Nat) : Char := "0123456789abcdef".toList.getD n '0'

/-- A character as it is written inside a string. -/
def escape (c : Char) : List Char :=
  match shortEscapes.lookup c with
  | some letter => ['\\', letter]
  | none =>
    if c.toNat < 0x20 then ['\\', 'u', '0', '0', hexDigit (c.toNat / 16), hexDigit (c.toNat % 16)]
    else [c]

/-- A string in quotes. -/
def quoted (s : String) : List Char := '"' :: (s.toList.flatMap escape ++ ['"'])

/-- An optional value, which is `null` if it is missing. -/
def nullable {α : Type} (write : α → List Char) : Option α → List Char
  | none => "null".toList
  | some a => write a

/-- A truth value. -/
def boolean (b : Bool) : List Char := (if b then "true" else "false").toList

/-- A position, in decimal. -/
def position (n : UInt64) : List Char := Nat.toDigits 10 n.toNat

/-! ## Containers -/

/-- The start of a line, `indent` spaces in. -/
def newLine (indent : Nat) : List Char := '\n' :: List.replicate indent ' '

/-- Members between brackets, each on a line of its own two spaces further in. -/
def bracketed (opening closing : Char) (indent : Nat) (members : List (List Char)) : List Char :=
  if members.isEmpty then [opening, closing]
  else
    opening :: ([','].intercalate (members.map (newLine (indent + 2) ++ ·))
      ++ newLine indent ++ [closing])

/-- A named member of an object. -/
def field (name : String) (value : List Char) : List Char := quoted name ++ ": ".toList ++ value

/-- An object of named members, in order. -/
def object (indent : Nat) (fields : List (List Char)) : List Char :=
  bracketed '\x7b' '\x7d' indent fields

/-- An array. -/
def array (indent : Nat) (items : List (List Char)) : List Char := bracketed '[' ']' indent items

/-! ## Texts -/

/-- One end of a cursor. -/
def destination (indent : Nat) (d : Destination) : List Char :=
  object indent [
    field "position" (nullable position d.position),
    field "word" (nullable quoted d.word)]

/-- A cursor. -/
def cursor (indent : Nat) (c : Cursor) : List Char :=
  object indent [
    field "name" (quoted c.name),
    field "target" (nullable quoted c.target),
    field "from" (destination (indent + 2) c.start),
    field "ahead" (boolean c.ahead),
    field "to" (destination (indent + 2) c.stop)]

/-- A text. -/
def text (indent : Nat) (t : Text) : List Char :=
  object indent [
    field "name" (quoted t.name),
    field "data" (quoted t.data),
    field "cursors" (array (indent + 2) (t.cursors.map (cursor (indent + 4))))]

/-- What a print command writes for the given texts. -/
def render (texts : List Text) : String :=
  String.ofList (array 0 (texts.map (text 2)) ++ ['\n'])

end TextDesk.Listing
