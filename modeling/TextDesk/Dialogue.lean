import TextDesk.Dialogue.Settings
import TextDesk.Lines
import TextDesk.Session

/-! # Dialogues

A dialogue reads one event after the other from the user and answers each: it prints, reports
failures and remembers lines.  Commands never end it by failing; it ends at `quit`, at the end of the
input, or if reading a command line breaks off.  A dialogue is a state machine: while it is open, it
consumes every event by exactly one read, of a command line or of a line of a text area.
-/

namespace TextDesk

/-- What comes from the user. -/
inductive Event where
  /-- A line. -/
  | line (text : String)
  /-- The user interrupted the entry. -/
  | interrupt
  /-- The input has ended. -/
  | eof
  /-- Reading failed. -/
  | broken (failure : Failure)
  deriving DecidableEq, Repr

/-- What a dialogue does in answer to events, and the reads by which it gets them. -/
inductive Effect where
  /-- Reads a command line, with the given prompt. -/
  | readCommand (prompt : String)
  /-- Reads a line of a text area, with the given prompt. -/
  | readArea (prompt : String)
  /-- Prints to the standard output. -/
  | print (text : String)
  /-- Prints to the standard error stream. -/
  | complain (text : String)
  /-- Adds a line to the history. -/
  | remember (line : String)
  deriving DecidableEq, Repr

/-- What a dialogue makes of the next event. -/
inductive DialogueMode where
  /-- A command line. -/
  | command
  /-- A line of the data of the text `name`; `lines` were entered so far. -/
  | area (name : String) (lines : List String)
  /-- Nothing: the dialogue is over, with the given result. -/
  | closed (result : Except Failure Unit)

/-- A dialogue: its settings, the texts, and where it stands. -/
structure Dialogue where
  settings : DialogueSettings
  store : Store
  mode : DialogueMode := .command

/-- The failure of a text area whose entry the user interrupted. -/
def cancelledArea : Failure := .internal "text entry cancelled"

/-- The failure of a text area that the end of the input cuts off. -/
def cutOffArea : Failure := .internal "unexpected EOF in text area"

namespace Dialogue

/-! ## Messages -/

/-- The banner that opens a dialogue. -/
def bannerText (terminator : String) : String :=
  "\x1b[1;36mQuill\x1b[0m v0.1.0\n"
    ++ "Commands: input, format, cursor, send, print. Type quit or Ctrl+D to exit.\n"
    ++ "A text area is ended by a line holding only '" ++ terminator ++ "'.\n\n"

/-- The words that close a dialogue. -/
def farewell : String := "\nGoodbye!\n"

/-- The invitation to enter the data of a text, which shows what it holds now. -/
def areaInvitation (terminator name : String) (existing : Option String) : String :=
  "Enter text for '" ++ name ++ "', end with '" ++ terminator ++ "':\n"
    ++ (match existing with
        | some data => "\x1b[2m" ++ data ++ "\x1b[0m\n"
        | none => "")

/-! ## Answers -/

/-- Back to command lines. -/
def toCommand (d : Dialogue) : Dialogue := { d with mode := .command }

/-- Reports a failure and goes back to command lines. -/
def complain (d : Dialogue) (failure : Failure) : Dialogue × List Effect :=
  (d.toCommand, [.complain failure.report])

/-- Ends the dialogue in good order. -/
def leave (d : Dialogue) : Dialogue × List Effect :=
  ({ d with mode := .closed (.ok ()) }, [.print farewell])

/-- Carries out a command. -/
def obey (d : Dialogue) (command : Command) : Dialogue × List Effect :=
  match d.store.obey command with
  | .error failure => d.complain failure
  | .ok (.done, store) => ({ d with store }, [])
  | .ok (.listing texts, store) => ({ d with store }, [.print (Listing.render texts)])
  | .ok (.wantsArea name existing, store) =>
    ({ d with store, mode := .area name [] },
      [.print (areaInvitation d.settings.areaTerminator name existing)])

/-- Answers a command line that is not blank. -/
def answer (d : Dialogue) (line : String) : Dialogue × List Effect :=
  match Instruction.ofLine line with
  | .nothing => (d, [])
  | .quit => d.leave
  | .reject failure => d.complain failure
  | .obey command => d.obey command

/-- Answers an event where a command line was to be read. -/
def onCommand (d : Dialogue) : Event → Dialogue × List Effect
  | .line line =>
    if isBlankLine line then (d, [])
    else
      let (next, effects) := d.answer line
      (next, .remember line :: effects)
  | .interrupt => (d, [.print "\n"])
  | .eof => d.leave
  | .broken failure => ({ d with mode := .closed (.error failure) }, [])

/-- Answers an event where a line of the text `name` was to be read. -/
def onArea (d : Dialogue) (name : String) (lines : List String) : Event → Dialogue × List Effect
  | .line line =>
    if holdsOnly d.settings.areaTerminator line then
      ({ d.toCommand with store := d.store.addText (enteredText name (joinLines lines)) }, [])
    else ({ d with mode := .area name (lines ++ [line]) }, [])
  | .interrupt => d.complain cancelledArea
  | .eof => d.complain cutOffArea
  | .broken failure => d.complain failure

/-- Reads an event and answers it; a closed dialogue reads nothing. -/
def step (d : Dialogue) (event : Event) : Dialogue × List Effect :=
  match d.mode with
  | .closed _ => (d, [])
  | .command =>
    let (next, effects) := d.onCommand event
    (next, .readCommand d.settings.prompt :: effects)
  | .area name lines =>
    let (next, effects) := d.onArea name lines event
    (next, .readArea d.settings.continuationPrompt :: effects)

/-- The prompt for the next read; none, if the dialogue is closed. -/
def prompt? (d : Dialogue) : Option String :=
  match d.mode with
  | .closed _ => none
  | .command => some d.settings.prompt
  | .area .. => some d.settings.continuationPrompt

/-! ## Whole dialogues -/

/-- Reads and answers events, in order. -/
def steps (d : Dialogue) : List Event → Dialogue × List Effect
  | [] => (d, [])
  | event :: events =>
    let (next, effects) := d.step event
    let (last, more) := next.steps events
    (last, effects ++ more)

/-- What a dialogue prints before it reads anything. -/
def opening (settings : DialogueSettings) : List Effect :=
  if settings.banner then [.print (bannerText settings.areaTerminator)] else []

/-- Holds a dialogue over the given events, behind which the input has ended.

The end of the input closes a text area first, if one is open, and then the dialogue; so it is read
at most twice. -/
def hold (settings : DialogueSettings) (store : Store) (events : List Event) :
    Dialogue × List Effect :=
  let start : Dialogue := { settings, store }
  let (last, effects) := start.steps (events ++ [.eof, .eof])
  (last, opening settings ++ effects)

/-- How a dialogue came out; one that is still open counts as ended in good order. -/
def result (d : Dialogue) : Except Failure Unit :=
  match d.mode with
  | .closed result => result
  | _ => .ok ()

end Dialogue

/-! ## What effects amount to -/

/-- What effects print to the standard output. -/
def printed (effects : List Effect) : String :=
  String.join (effects.filterMap fun | .print text => some text | _ => none)

/-- What effects print to the standard error stream. -/
def complaints (effects : List Effect) : String :=
  String.join (effects.filterMap fun | .complain text => some text | _ => none)

end TextDesk
