import TextDesk.Grammar
import TextDesk.Words

/-! # Completion of keywords

While the first word of a line is being typed, the keywords that start with what is typed so far are
offered.  Places in the line are counted in bytes of UTF-8.
-/

namespace TextDesk.Completion

/-- A keyword on offer. -/
structure Candidate where
  /-- How it is listed. -/
  display : String
  /-- What is put into the line for it. -/
  replacement : String
  deriving DecidableEq, Repr

/-- What is offered while the cursor stands at byte `cursor` of a line: where the part of the line starts
that is replaced, which ends at the cursor, and the candidates for it. -/
def candidates (line : String) (cursor : Nat) : Nat × List Candidate :=
  let head := String.Pos.Raw.extract line 0 ⟨cursor⟩
  let word := trimStart head.toList
  if word.any isBlank then (cursor, [])
  else
    let keywords := CommandSet.standard.keywords.filter fun keyword =>
      (lowered word).isPrefixOf keyword.toList
    (head.utf8ByteSize - (String.ofList word).utf8ByteSize,
      keywords.map fun keyword => ⟨keyword, keyword ++ " "⟩)

/-- A line with its bytes from `start` up to `stop` replaced. -/
def replaceBytes (line : String) (start stop : Nat) (replacement : String) : String :=
  String.Pos.Raw.extract line 0 ⟨start⟩ ++ replacement
    ++ String.Pos.Raw.extract line ⟨stop⟩ line.rawEndPos

/-- The lines that the candidates make of `head` and `tail`, the parts of a line before and behind the
cursor, in order. -/
def completions (head tail : String) : List String :=
  let line := head ++ tail
  let cursor := head.utf8ByteSize
  let (start, offers) := candidates line cursor
  offers.map fun offer => replaceBytes line start cursor offer.replacement

end TextDesk.Completion
