/-! # Settings of a dialogue

Prompts, banner, area terminator and history length of a dialogue with the user.
-/

namespace TextDesk

/-- How a dialogue with the user is held. -/
structure DialogueSettings where
  /-- The prompt for a command line. -/
  prompt : String := "quill> "
  /-- The prompt for a line of a text area. -/
  continuationPrompt : String := "..... "
  /-- Whether a banner opens the dialogue. -/
  banner : Bool := true
  /-- The line that closes a text area. -/
  areaTerminator : String := "."
  /-- How many lines the history keeps. -/
  historySize : Nat := 1000
  deriving DecidableEq, Repr

end TextDesk
