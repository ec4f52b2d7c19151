import TextDesk.Chars.AsciiCase
import TextDesk.Chars.Blank
import TextDesk.Text

/-! # Elements of a command

A command line is described by a list of elements: fixed words, and placeholders for words, numbers,
directions and free text, any of which may be optional.  This module says what one element stands
for, how it is named in messages, and how it is written as a pattern.
-/

namespace TextDesk

/-- One element of a command line. -/
inductive Element where
  /-- A fixed text, in any ASCII case. -/
  | literal (text : String)
  /-- Any word. -/
  | word
  /-- A run of digits. -/
  | number
  /-- A run of digits or any other word. -/
  | wordOrNumber
  /-- One of the two direction marks. -/
  | direction
  /-- The rest of the line. -/
  | freeText
  /-- The inner element or nothing. -/
  | optional (inner : Element)
  deriving DecidableEq, Repr

namespace Element

/-! ## Names and kinds -/

/-- What messages call the element. -/
def category : Element → String
  | literal text => text
  | word => "word"
  | number => "number"
  | wordOrNumber => "word or number"
  | direction => "direction"
  | freeText => "text"
  | optional inner => inner.category

/-- How a usage line shows the element. -/
def render : Element → String
  | literal text => text
  | optional inner => "[" ++ inner.render ++ "]"
  | e => "<" ++ e.category ++ ">"

/-- Whether the element may be left out. -/
def isOptional : Element → Bool
  | optional _ => true
  | _ => false

/-- Whether the element takes every word that is left. -/
def absorbsRest : Element → Bool
  | freeText => true
  | optional inner => inner.absorbsRest
  | _ => false

/-- Whether a single word can stand for the element. -/
def accepts : Element → String → Bool
  | literal text, token => sameName token text
  | word, token => !token.toList.isEmpty && token.toList.all (!isBlank ·)
  | number, token => !token.toList.isEmpty && token.toList.all Char.isDigit
  | wordOrNumber, token | freeText, token => !token.toList.isEmpty
  | direction, token => token == forwardMark || token == backwardMark
  | optional inner, token => inner.accepts token

/-! ## The element as a pattern -/

/-- The characters that have a meaning of their own in a pattern. -/
def patternSigns : List Char := "\\.+*?()|[]\x7b\x7d^$#&-~".toList

/-- A text as the pattern that only it matches. -/
def escape (text : String) : String :=
  String.ofList (text.toList.flatMap fun c => if c ∈ patternSigns then ['\\', c] else [c])

/-- The pattern of an element; every placeholder is a capture group. -/
def fragment : Element → String
  | literal text => "(?-u:" ++ escape text ++ ")"
  | word => "(\\S+)"
  | number => "([0-9]+)"
  | wordOrNumber => "([0-9]+|\\S+)"
  | direction => "(" ++ escape backwardMark ++ "|" ++ escape forwardMark ++ ")"
  | freeText => "(.+)"
  | optional inner => "(?:" ++ inner.fragment ++ ")?"

/-- How deep groups, repetitions, choices and sequences are nested in the element's pattern. -/
def depth : Element → Nat
  | literal text => if text.toList.length ≤ 1 then 1 else 2
  | word | freeText => 2
  | number | direction => 3
  | wordOrNumber => 4
  | optional inner => inner.depth + 2

/-- The depth of an element's pattern inside that of a whole line.  The line is a sequence, and so are
an optional element and its leading space. -/
def placedDepth (e : Element) : Nat := e.depth + if e.isOptional then 2 else 1

end Element

end TextDesk
