import TextDesk.CommandLine.Options
import TextDesk.Dialogue
import TextDesk.Folder
import TextDesk.Lines.Erasure

/-! # The command line

A run of the program: it loads the state file if there is one, runs the scripts in order, holds a
dialogue over the standard input unless the run is a batch or a script has ended the session, and
saves the state file whatever happened in between.  The exit code tells whether all of it went well.
-/

namespace TextDesk.CommandLine

/-! ## Texts of the program -/

/-- What the version option shows. -/
def versionText : String := "quill 0.1.0\n"

/-- What the help option shows. -/
def helpText : String :=
  "Usage: quill [OPTIONS] [FILES]...\n\n"
    ++ "Runs the script FILES, then reads commands.\n\n"
    ++ "Options:\n"
    ++ "  -b, --batch       Run the files and exit\n"
    ++ "      --state PATH  Load texts from PATH at start and save them on exit\n"
    ++ "      --keep-going  Continue past failing script lines\n"
    ++ "      --no-banner   Hide the banner\n"
    ++ "  -v, --verbose     Increase log verbosity\n"
    ++ "  -h, --help        Print help\n"
    ++ "  -V, --version     Print version\n"

/-! ## Scripts -/

/-- What a session did up to some point. -/
structure Progress where
  /-- The texts. -/
  store : Store
  /-- What went to the standard output. -/
  stdout : String := ""
  /-- What went to the standard error stream. -/
  stderr : String := ""
  deriving DecidableEq, Repr

/-- How the scripts of a session came out. -/
inductive ScriptsOutcome where
  /-- All of them ran to their end. -/
  | finished
  /-- One of them ended the session. -/
  | quit
  /-- A failure ended the session. -/
  | failed (failure : Failure)
  deriving DecidableEq, Repr

/-- The settings of a dialogue that follows the scripts of the options. -/
def dialogueSettings (o : Options) : DialogueSettings :=
  { banner := !o.noBanner && o.files.isEmpty }

/-- Runs scripts, given as their paths and what opening them came to, until one of them ends the
session or fails.  The failures that a script passed over are reported once it has ended. -/
def runScripts (o : Options) (p : Progress) : List (String × Opened) → ScriptsOutcome × Progress
  | [] => (.finished, p)
  | (path, opened) :: scripts =>
    let settings : ScriptSettings :=
      { name := path, terminator := (dialogueSettings o).areaTerminator, keepGoing := o.keepGoing }
    match runScriptFile settings opened p.store p.stdout with
    | (.error failure, store, stdout) => (.failed failure, { p with store, stdout })
    | (.ok report, store, stdout) =>
      let stderr := p.stderr ++ String.join (report.failures.map Failure.report)
      let next : Progress := { store, stdout, stderr }
      if report.ended then (.quit, next) else runScripts o next scripts

/-! ## The dialogue -/

/-- The event of a line of the standard input, in which backspaces have erased what they erase. -/
def lineEvent (bytes : Bytes) : Event :=
  match ofUtf8? bytes with
  | some line => .line (erased line)
  | none => .broken (.internal notUtf8)

/-- The events of the whole standard input. -/
def stdinEvents (stdin : Bytes) : List Event := (byteLines stdin).map lineEvent

/-- Holds the dialogue of a session over the standard input. -/
def holdDialogue (o : Options) (p : Progress) (stdin : Bytes) : Except Failure Unit × Progress :=
  let (d, effects) := Dialogue.hold (dialogueSettings o) p.store (stdinEvents stdin)
  (d.result,
    { store := d.store, stdout := p.stdout ++ printed effects,
      stderr := p.stderr ++ complaints effects })

/-! ## Whole runs -/

/-- The result of a session that ends with its scripts; none, if a dialogue follows. -/
def ScriptsOutcome.result? (o : Options) : ScriptsOutcome → Option (Except Failure Unit)
  | failed failure => some (.error failure)
  | quit => some (.ok ())
  | finished => if o.batch then some (.ok ()) else none

/-- The scripts of a session and its dialogue. -/
def runSession (o : Options) (scripts : List (String × Opened)) (store : Store) (stdin : Bytes) :
    Except Failure Unit × Progress :=
  let (outcome, p) := runScripts o { store } scripts
  match outcome.result? o with
  | some result => (result, p)
  | none => holdDialogue o p stdin

/-- What a run leaves behind. -/
structure Exit where
  /-- The exit code: 0 if all went well, 1 after a failure, 2 if the arguments were refused. -/
  code : Nat
  /-- What went to the standard output. -/
  stdout : String := ""
  /-- What went to the standard error stream. -/
  stderr : String := ""
  /-- The files. -/
  folder : Folder
  deriving DecidableEq, Repr

/-- The exit of a session: a failure that ended it is reported last. -/
def exitOf (outcome : Except Failure Unit) (p : Progress) (folder : Folder) : Exit :=
  match outcome with
  | .ok () => { code := 0, stdout := p.stdout, stderr := p.stderr, folder }
  | .error failure =>
    { code := 1, stdout := p.stdout, stderr := p.stderr ++ failure.report, folder }

/-- The store that a session starts with: that of the state file if there is one, or an empty one.
The state file is given as its path and what opening it came to. -/
def initialStore : Option (String × Opened) → Except Failure Store
  | some (path, opened) => if opened.isPresent then loadStore path opened else .ok {}
  | none => .ok {}

/-- A session in a folder. -/
def runIn (o : Options) (folder : Folder) (stdin : Bytes) : Exit :=
  let opened (path : String) : String × Opened := (path, folder.open? path)
  match initialStore (o.state.map opened) with
  | .error failure => exitOf (.error failure) { store := {} } folder
  | .ok store =>
    let (outcome, p) := runSession o (o.files.map opened) store stdin
    let (final, saved) := folder.saveAfter o.state p.store outcome
    exitOf final p saved

/-- A run of the program with the given arguments, files and standard input. -/
def run (arguments : List String) (folder : Folder) (stdin : Bytes) : Exit :=
  match Arguments.ofList arguments with
  | .session o => runIn o folder stdin
  | .version => { code := 0, stdout := versionText, folder }
  | .help => { code := 0, stdout := helpText, folder }
  | .refused => { code := 2, folder }

end TextDesk.CommandLine
