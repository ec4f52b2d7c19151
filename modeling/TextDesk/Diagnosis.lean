import TextDesk.Command
import TextDesk.Failure

/-! # Diagnosis of a line

What is wrong with a line that gives no command: its first word is no keyword, or some word is the
first that does not fit the grammar of that keyword.
-/

namespace TextDesk

/-- What is wrong with a line. -/
inductive Diagnosis where
  /-- The first word is no keyword. -/
  | unknownCommand
  /-- The line has `found` where its grammar wants `expected`. -/
  | mistake (expected found : String)
  deriving DecidableEq, Repr

/-- The cause of failure that a diagnosis of the given normal line amounts to. -/
def Diagnosis.cause (line : String) : Diagnosis → Cause
  | unknownCommand => .unknownCommand line
  | mistake expected found => .malformedCommand line expected found

/-- What a message calls the end of a line. -/
def endOfLine : String := "end of line"

/-- The first required element, which a line that ends here lacks. -/
def missingElement? (elements : List Element) : Option (String × String) :=
  (elements.find? (!·.isOptional)).map fun e => (e.category, endOfLine)

/-- The first place where the words of a line leave the elements: what was expected there, and what
was found. -/
def divergence? : List Element → List String → Option (String × String)
  | elements, [] => missingElement? elements
  | [], word :: _ => some (endOfLine, word)
  | e :: elements, word :: rest =>
    if e.absorbsRest then missingElement? elements
    else if e.accepts word then divergence? elements rest
    else some (e.category, word)

namespace CommandSet

/-- Diagnoses a line by the grammar that its first word selects.  If every word fits its element, the
whole line is held against the usage line. -/
def diagnose (set : CommandSet) (line : String) : Diagnosis :=
  match (words line.toList).map String.ofList with
  | [] => .unknownCommand
  | first :: rest =>
    match set.select? first with
    | none => .unknownCommand
    | some g =>
      match divergence? g.elements (first :: rest) with
      | some (expected, found) => .mistake expected found
      | none => .mistake g.usage (normalize line)

/-- The command that a line gives, or what is wrong with the line. -/
def read (set : CommandSet) (line : String) : Except Failure Command :=
  match set.command? line with
  | some command => .ok command
  | none => .error ⟨(set.diagnose line).cause (normalize line), none⟩

end CommandSet

end TextDesk
