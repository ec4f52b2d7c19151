/-! # Failures

Why a line, a script or a file operation failed, where that happened, and how it is told.
-/

namespace TextDesk

/-- The cause of a failure. -/
inductive Cause where
  /-- The first word of the line is no keyword. -/
  | unknownCommand (line : String)
  /-- The keyword is known, and `found` stands where the command wants `expected`. -/
  | malformedCommand (line expected found : String)
  /-- No text answers to the name. -/
  | textNotFound (name : String)
  /-- A file or an output stream refused an operation. -/
  | io (detail : String)
  /-- A state could not be written or read. -/
  | serialization (detail : String)
  /-- The input ended or broke off where it must not. -/
  | internal (detail : String)
  deriving DecidableEq, Repr

namespace Cause

/-- How a cause is told. -/
def message : Cause → String
  | unknownCommand line => "unknown command: \"" ++ line ++ "\""
  | malformedCommand line expected found =>
    "\"" ++ line ++ "\" expected " ++ expected ++ ", found " ++ found
  | textNotFound name => "text not found: " ++ name
  | io detail => "I/O error: " ++ detail
  | serialization detail => "serialization error: " ++ detail
  | internal detail => "internal error: " ++ detail

/-- Whether the cause lies in how the command line is written. -/
def isCommandError : Cause → Bool
  | unknownCommand _ | malformedCommand .. => true
  | _ => false

end Cause

/-- The place of a failure: a script, a line, both or neither. -/
structure Site where
  /-- The script the line came from. -/
  source : Option String := none
  /-- The number of the line, counted from 1. -/
  line : Option Nat := none
  deriving DecidableEq, Repr

/-- How a place is told; nothing, if nothing is known of it. -/
def Site.render (s : Site) : String :=
  match s.source, s.line with
  | some source, some line => "at " ++ source ++ ":" ++ line.repr
  | some source, none => "at " ++ source
  | none, some line => "at line " ++ line.repr
  | none, none => ""

/-- A failure: its cause and, once it is known, its place. -/
structure Failure where
  /-- Why it happened. -/
  cause : Cause
  /-- Where it happened. -/
  site : Option Site := none
  deriving DecidableEq, Repr

namespace Failure

/-- The failure with its place set; a place known before gives way. -/
def placedAt (f : Failure) (site : Site) : Failure := { f with site := some site }

/-- The failure that no text answers to `name`. -/
def textNotFound (name : String) : Failure := ⟨.textNotFound name, none⟩

/-- The failure of a file or an output stream. -/
def io (detail : String) : Failure := ⟨.io detail, none⟩

/-- The failure of an input that ended or broke off. -/
def internal (detail : String) : Failure := ⟨.internal detail, none⟩

/-- The failure as a line for the terminal: red, with the place in brackets if it is known. -/
def report (f : Failure) : String :=
  let place := match f.site with
    | some site => " (" ++ site.render ++ ")"
    | none => ""
  "\x1b[31mError: " ++ f.cause.message ++ place ++ "\x1b[0m\n"

end Failure

end TextDesk
