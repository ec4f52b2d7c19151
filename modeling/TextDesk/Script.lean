import TextDesk.Lines
import TextDesk.Session

/-! # Scripts

A script is a text whose lines are executed in order.  Lines that start with `#` are comments.  An
input command without data takes the lines behind it, up to one that holds only the terminator.  A
failing line ends the run, or is noted and passed over if the run keeps going; either way the failure
names the script and the line on which the failing command stands.
-/

namespace TextDesk

/-- The failure of a text area that no terminator closes. -/
def unclosedArea (terminator : String) : Failure :=
  .internal ("text area not closed with '" ++ terminator ++ "'")

/-- Whether a script line is a comment. -/
def isComment (line : String) : Bool := (trimStart line.toList).head? = some '#'

/-- What a script run has to tell at its end. -/
structure Report where
  /-- How many commands were carried out. -/
  executed : Nat := 0
  /-- The failures that were passed over, in order. -/
  failures : List Failure := []
  /-- Whether the script ended the session. -/
  ended : Bool := false
  deriving DecidableEq, Repr

/-- How a script is run. -/
structure ScriptSettings where
  /-- What failures call the script. -/
  name : String
  /-- The line that closes a text area. -/
  terminator : String
  /-- Whether failing lines are passed over. -/
  keepGoing : Bool

/-- What a script run makes of its next line. -/
inductive ScriptMode where
  /-- A command line. -/
  | command
  /-- A line of the data of the text `name`, wanted by the command on line `start`; `lines` were
  entered so far. -/
  | area (start : Nat) (name : String) (lines : List String)
  /-- Nothing: the script ended the session. -/
  | ended
  /-- Nothing: a failure ended the run. -/
  | stopped (failure : Failure)
  deriving DecidableEq, Repr

/-- A script run: where it stands and what it did so far. -/
structure ScriptRun (ω : Type) where
  /-- The texts. -/
  store : Store
  /-- Where printed texts go. -/
  out : ω
  /-- How many commands were carried out. -/
  executed : Nat := 0
  /-- The failures that were passed over, in order. -/
  failures : List Failure := []
  /-- What the next line is. -/
  mode : ScriptMode := .command

namespace ScriptRun

variable {ω : Type}

/-- Takes up a failure of the command on the line `number`. -/
def fail (settings : ScriptSettings) (number : Nat) (failure : Failure) (run : ScriptRun ω) :
    ScriptRun ω :=
  let placed := failure.placedAt ⟨some settings.name, some number⟩
  if settings.keepGoing then
    { run with failures := run.failures ++ [placed], mode := .command }
  else { run with mode := .stopped placed }

/-- Counts a command that was carried out and left the given store. -/
def count (store : Store) (run : ScriptRun ω) : ScriptRun ω :=
  { run with store, executed := run.executed + 1, mode := .command }

/-- Carries out the command on the line `number`. -/
def obey [Outlet ω] (settings : ScriptSettings) (number : Nat) (command : Command)
    (run : ScriptRun ω) : ScriptRun ω :=
  match run.store.obey command with
  | .error failure => run.fail settings number failure
  | .ok (.done, store) => run.count store
  | .ok (.listing texts, store) =>
    match Outlet.write (Listing.render texts) run.out with
    | (.ok (), out) => { run with out }.count store
    | (.error reason, out) => { run with out }.fail settings number (.io reason)
  | .ok (.wantsArea name _, _) => { run with mode := .area number name [] }

/-- Takes the next line, which has the given number. -/
def step [Outlet ω] (settings : ScriptSettings) (run : ScriptRun ω) (line : String) (number : Nat) :
    ScriptRun ω :=
  match run.mode with
  | .ended | .stopped _ => run
  | .area start name lines =>
    if holdsOnly settings.terminator line then
      run.count (run.store.addText (enteredText name (joinLines lines)))
    else { run with mode := .area start name (lines ++ [line]) }
  | .command =>
    if isComment line then run
    else
      match Instruction.ofLine line with
      | .nothing => run
      | .quit => { run with mode := .ended }
      | .reject failure => run.fail settings number failure
      | .obey command => run.obey settings number command

/-- Takes lines, the first of which has the given number. -/
def steps [Outlet ω] (settings : ScriptSettings) (number : Nat) (run : ScriptRun ω) :
    List String → ScriptRun ω
  | [] => run
  | line :: lines => (run.step settings line number).steps settings (number + 1) lines

/-- Takes note that there are no more lines. -/
def finish (settings : ScriptSettings) (run : ScriptRun ω) : ScriptRun ω :=
  match run.mode with
  | .area start _ _ => run.fail settings start (unclosedArea settings.terminator)
  | _ => run

/-- What a finished run comes to. -/
def result (run : ScriptRun ω) : Except Failure Report :=
  match run.mode with
  | .stopped failure => .error failure
  | mode => .ok ⟨run.executed, run.failures, mode = .ended⟩

end ScriptRun

/-- Runs the lines of a script on a store: its report or the failure that ended it, and in both cases
the store and the output it leaves. -/
def runScript {ω : Type} [Outlet ω] (settings : ScriptSettings) (source : String) (store : Store)
    (out : ω) : Except Failure Report × Store × ω :=
  let start : ScriptRun ω := { store, out }
  let run := (start.steps settings 1 (textLines source)).finish settings
  (run.result, run.store, run.out)

end TextDesk
