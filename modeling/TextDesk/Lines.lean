/-! # Lines

A text is cut into lines at line feeds.  A line does not hold the line feed that ends it, nor one
carriage return directly before that line feed.  The last line may lack its line feed, and then keeps
a carriage return at its end; a text that ends with a line feed has no empty line behind it.

The cut is the same for characters and for bytes, so it is stated for any type of symbols.
-/

namespace TextDesk

/-- Cuts a text into lines, for the given line feed and carriage return. -/
def cutLines {α : Type} [DecidableEq α] (lineFeed carriageReturn : α) : List α → List (List α)
  | [] => []
  | c :: rest =>
    if c = lineFeed then [] :: cutLines lineFeed carriageReturn rest
    else if c = carriageReturn ∧ rest.head? = some lineFeed then cutLines lineFeed carriageReturn rest
    else
      match cutLines lineFeed carriageReturn rest with
      | [] => [[c]]
      | line :: more => (c :: line) :: more

/-- The lines of a text. -/
def textLines (text : String) : List String := (cutLines '\n' '\r' text.toList).map String.ofList

/-- The lines of a byte stream. -/
def byteLines (bytes : List UInt8) : List (List UInt8) := cutLines 10 13 bytes

/-- Lines joined by line feeds, none behind the last. -/
def joinLines (lines : List String) : String :=
  String.ofList (['\n'].intercalate (lines.map String.toList))

example : textLines "a\r\n\nb\r\r\nc\r" = ["a", "", "b\r", "c\r"] := by decide

end TextDesk
