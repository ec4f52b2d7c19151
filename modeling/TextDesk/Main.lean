import TextDesk.CommandLine

/-! # The program

Runs the command line on the files and streams of the system.  What happens is decided by
`TextDesk.CommandLine`; this module opens files, passes lines on, and carries out effects.
-/

namespace TextDesk.Program

/-- The system error with a number as the system gives it, which may be negated in 32 bits. -/
def numberedError (code : UInt32) (text : String) : SystemError :=
  let number := if code.toNat < 0x80000000 then code.toNat else 0x100000000 - code.toNat
  let known := [SystemError.notFound, .notFolder, .isFolder, .nameTooLong]
  (known.find? (·.code = some number)).getD ⟨some number, text.capitalize⟩

/-- The system error of a failed file operation. -/
def systemError : IO.Error → SystemError
  | .noFileOrDirectory _ code text | .interrupted _ code text => numberedError code text
  | .alreadyExists _ code text | .invalidArgument _ code text | .permissionDenied _ code text
  | .resourceExhausted _ code text | .inappropriateType _ code text | .noSuchThing _ code text =>
    numberedError code text
  | .otherError code text | .resourceBusy code text | .resourceVanished code text
  | .unsupportedOperation code text | .hardwareFault code text | .unsatisfiedConstraints code text
  | .illegalOperation code text | .protocolError code text | .timeExpired code text =>
    numberedError code text
  | e => ⟨none, e.toString⟩

/-- Opens a path for reading. -/
def openPath (path : String) : IO Opened := do
  if let some flaw := Folder.flaw? path then return .refused flaw
  try
    let bytes ← IO.FS.readBinFile path
    return .file bytes.data.toList
  catch e =>
    let refusal := systemError e
    return if refusal = .isFolder then .unreadable refusal else .refused refusal

/-- Opens a path for reading and keeps it with the answer. -/
def openNamed (path : String) : IO (String × Opened) := do
  return (path, ← openPath path)

/-- Saves a store to a path. -/
def saveTo (path : String) (store : Store) : IO (Except Failure Unit) := do
  if let some flaw := Folder.flaw? path then return .error (createFailure path flaw)
  try
    IO.FS.writeBinFile path ⟨(StateFile.encode store).toArray⟩
    return .ok ()
  catch e => return .error (createFailure path (systemError e))

/-- Reads bytes up to the next line feed, which is the last of them, or to the end of the input. -/
partial def readLine (stdin : IO.FS.Stream) (read : ByteArray) : IO ByteArray := do
  let next ← stdin.read 1
  if next.isEmpty then return read
  else if next = ⟨#[10]⟩ then return read ++ next
  else readLine stdin (read ++ next)

/-- Reads the next event from the standard input. -/
def nextEvent (stdin : IO.FS.Stream) : IO Event := do
  let bytes ← readLine stdin .empty
  match CommandLine.stdinEvents bytes.data.toList with
  | [] => return .eof
  | event :: _ => return event

/-- Carries out effects on the standard streams. -/
def carryOut (effects : List Effect) : IO Unit := do
  IO.print (printed effects)
  (← IO.getStdout).flush
  IO.eprint (complaints effects)

/-- Holds a dialogue until it is closed.  Prompts are shown to a terminal only. -/
partial def hold (stdin : IO.FS.Stream) (interactive : Bool) (d : Dialogue) : IO Dialogue := do
  match d.prompt? with
  | none => return d
  | some prompt =>
    if interactive then
      IO.print prompt
      (← IO.getStdout).flush
    let (next, effects) := d.step (← nextEvent stdin)
    carryOut effects
    hold stdin interactive next

/-- Holds the dialogue of a session on the standard input. -/
def dialogue (o : Options) (store : Store) : IO (Except Failure Unit × Store) := do
  let settings := CommandLine.dialogueSettings o
  carryOut (Dialogue.opening settings)
  let stdin ← IO.getStdin
  let last ← hold stdin (← stdin.isTty) { settings, store }
  return (last.result, last.store)

/-- Tells a failure and gives the exit code of an outcome. -/
def exitCode (outcome : Except Failure Unit) : IO UInt32 := do
  match outcome with
  | .ok () => return 0
  | .error failure =>
    IO.eprint failure.report
    return 1

/-- Runs a session. -/
def session (o : Options) : IO UInt32 := do
  match CommandLine.initialStore (← o.state.mapM openNamed) with
  | .error failure => exitCode (.error failure)
  | .ok store =>
    let (scripts, p) := CommandLine.runScripts o { store } (← o.files.mapM openNamed)
    IO.print p.stdout
    (← IO.getStdout).flush
    IO.eprint p.stderr
    let (outcome, store) ← match scripts.result? o with
      | some result => pure (result, p.store)
      | none => dialogue o p.store
    match o.state with
    | none => exitCode outcome
    | some path =>
      let saved ← saveTo path store
      exitCode (outcomeAfterSave outcome saved)

end TextDesk.Program

/-- Runs the program with the given arguments. -/
def main (arguments : List String) : IO UInt32 := do
  match TextDesk.Arguments.ofList arguments with
  | .session o => TextDesk.Program.session o
  | .version =>
    IO.print TextDesk.CommandLine.versionText
    return 0
  | .help =>
    IO.print TextDesk.CommandLine.helpText
    return 0
  | .refused =>
    IO.eprint TextDesk.CommandLine.helpText
    return 2
