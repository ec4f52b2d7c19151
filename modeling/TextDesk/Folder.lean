import TextDesk.Chars.Utf8
import TextDesk.Script
import TextDesk.StateFile

/-! # Files

The files that scripts and states are kept in: a folder of files and further folders, addressed by
paths.  This module says what opening, reading and writing a path comes to, how
scripts are run and states are loaded and saved by path, and how each of these is told to fail.
-/

namespace TextDesk

/-! ## What a file operation answers -/

/-- Why a file operation was refused. -/
structure SystemError where
  /-- The number of the error; none, if the operation was not even tried. -/
  code : Option Nat
  /-- Its text. -/
  text : String
  deriving DecidableEq, Repr

namespace SystemError

/-- How a system error is told. -/
def message (e : SystemError) : String :=
  match e.code with
  | some code => e.text ++ " (os error " ++ code.repr ++ ")"
  | none => e.text

/-- Nothing has the path. -/
def notFound : SystemError := ⟨some 2, "No such file or directory"⟩

/-- The path goes through a file as if it were a folder. -/
def notFolder : SystemError := ⟨some 20, "Not a directory"⟩

/-- A folder stands where a file must stand. -/
def isFolder : SystemError := ⟨some 21, "Is a directory"⟩

/-- The path, or a name in it, is longer than the system allows. -/
def nameTooLong : SystemError := ⟨some 36, "File name too long"⟩

/-- The path holds the character that ends a path for the system. -/
def nulInPath : SystemError := ⟨none, "file name contained an unexpected NUL byte"⟩

/-- The errors of a path that leads to nothing. -/
def absences : List SystemError := [notFound, notFolder, nameTooLong, nulInPath]

end SystemError

/-- What opening a path for reading comes to. -/
inductive Opened where
  /-- The path cannot be opened. -/
  | refused (e : SystemError)
  /-- The path can be opened but not read. -/
  | unreadable (e : SystemError)
  /-- A file with these bytes. -/
  | file (bytes : Bytes)
  deriving DecidableEq, Repr

/-- Whether there is anything at a path. -/
def Opened.isPresent : Opened → Bool
  | refused e => e ∉ SystemError.absences
  | _ => true

/-! ## Scripts and states -/

/-- What bytes that are no text are told to be. -/
def notUtf8 : String := "stream did not contain valid UTF-8"

/-- The text of a script, from what opening its path came to. -/
def scriptSource (path : String) (opened : Opened) : Except Failure String :=
  let refuse (reason : String) : Except Failure String :=
    .error (.io ("failed to read " ++ path ++ ": " ++ reason))
  match opened with
  | .refused e | .unreadable e => refuse e.message
  | .file bytes =>
    match ofUtf8? bytes with
    | some source => .ok source
    | none => refuse notUtf8

/-- Runs the script of a path.  A script that cannot be read changes nothing, and its failure has no
place. -/
def runScriptFile {ω : Type} [Outlet ω] (settings : ScriptSettings) (opened : Opened) (store : Store)
    (out : ω) : Except Failure Report × Store × ω :=
  match scriptSource settings.name opened with
  | .error failure => (.error failure, store, out)
  | .ok source => runScript settings source store out

/-- The store that bytes hold. -/
def storeOfBytes (bytes : Bytes) : Except Failure Store :=
  (StateFile.decode bytes).mapError fun e => ⟨.serialization e.message, none⟩

/-- Loads the store of a path, from what opening the path came to. -/
def loadStore (path : String) (opened : Opened) : Except Failure Store :=
  match opened with
  | .refused e => .error (.io ("failed to open file '" ++ path ++ "': " ++ e.message))
  | .unreadable e => .error (.io ("failed to read file '" ++ path ++ "': " ++ e.message))
  | .file bytes => storeOfBytes bytes

/-- The failure to create a file. -/
def createFailure (path : String) (e : SystemError) : Failure :=
  .io ("failed to create file '" ++ path ++ "': " ++ e.message)

/-- The outcome of a session whose state was saved behind it: a failure of the session goes before a
failure to save. -/
def outcomeAfterSave {α : Type} (outcome : Except Failure α) (saved : Except Failure Unit) :
    Except Failure α := do
  let a ← outcome
  saved
  return a

/-! ## Folders -/

/-- What a path can lead to. -/
inductive Entry where
  | file (bytes : Bytes)
  | folder
  deriving DecidableEq, Repr

/-- A folder in the tree of all folders: the entries of the tree, each with the names that lead to it
from the root.  Paths start at the folder itself, or at the root if they start with a slash. -/
structure Folder where
  entries : List (List String × Entry) := []
  deriving DecidableEq, Repr

/-- Where a path leads. -/
inductive Place where
  /-- To a folder. -/
  | folder
  /-- To a file. -/
  | file (names : List String) (bytes : Bytes)
  /-- To nothing, in a folder that could hold it. -/
  | free (names : List String)

/-- How many bytes a name may have. -/
def maxNameSize : Nat := 255

/-- How many bytes a path may have. -/
def maxPathSize : Nat := 4095

namespace Folder

/-- The names that lead from the root to the folder.  No step of a path can spell this name, so a path
that leaves the folder does not find the way back by name. -/
def home : List String := ["."]

/-- What the names lead to, from the root. -/
def entry? (f : Folder) (names : List String) : Option Entry :=
  if names = [] ∨ names = home then some .folder else f.entries.lookup names

/-- Where a step leads from the place that `names` lead to.  Above the root is the root. -/
def advance (names : List String) (step : String) : List String :=
  if step = "." then names
  else if step = ".." then names.dropLast
  else names ++ [step]

/-- Follows the steps of a path, from the place that `names` lead to. -/
def follow (f : Folder) (names : List String) : List String → Except SystemError Place
  | [] =>
    match f.entry? names with
    | some .folder => .ok .folder
    | some (.file bytes) => .ok (.file names bytes)
    | none => .ok (.free names)
  | step :: steps =>
    match f.entry? names with
    | some (.file _) => .error .notFolder
    | none => .error .notFound
    | some .folder =>
      if maxNameSize < step.utf8ByteSize then .error .nameTooLong
      else f.follow (advance names step) steps

/-- The steps of a path: what stands between its slashes. -/
def pathSteps (path : String) : List String :=
  ((path.toList.splitOn '/').filter (!·.isEmpty)).map String.ofList

/-- Where a path starts. -/
def pathStart (path : String) : List String := if path.toList.head? = some '/' then [] else home

/-- Whether a path ends with a slash, and so can only mean a folder. -/
def endsWithSlash (path : String) : Bool := path.toList.getLast? = some '/'

/-- Why a path is refused for how it is written. -/
def flaw? (path : String) : Option SystemError :=
  if path.toList.contains '\x00' then some .nulInPath
  else if maxPathSize < path.utf8ByteSize then some .nameTooLong
  else if path.toList.isEmpty then some .notFound
  else none

/-- Opens a path for reading. -/
def open? (f : Folder) (path : String) : Opened :=
  match flaw? path with
  | some e => .refused e
  | none =>
    match f.follow (pathStart path) (pathSteps path) with
    | .error e => .refused e
    | .ok (.free _) => .refused .notFound
    | .ok .folder => .unreadable .isFolder
    | .ok (.file _ bytes) => if endsWithSlash path then .refused .notFolder else .file bytes

/-- The folder with an entry added, or put in place of the one that the names led to. -/
def set (f : Folder) (names : List String) (entry : Entry) : Folder :=
  ⟨(names, entry) :: f.entries.filter (·.1 != names)⟩

/-- The names of the file that writing to a path creates or replaces.  A path that ends with a slash
means no file, so only the way to its last step counts. -/
def creationNames (f : Folder) (path : String) : Except SystemError (List String) :=
  let steps := pathSteps path
  if endsWithSlash path then
    match f.follow (pathStart path) steps.dropLast with
    | .error e => .error e
    | .ok .folder => .error .isFolder
    | .ok (.file ..) => .error .notFolder
    | .ok (.free _) => .error .notFound
  else
    match f.follow (pathStart path) steps with
    | .error e => .error e
    | .ok .folder => .error .isFolder
    | .ok (.file names _) | .ok (.free names) => .ok names

/-- Writes a file: creates it, or replaces what it held. -/
def write (f : Folder) (path : String) (bytes : Bytes) : Except SystemError Folder :=
  match flaw? path with
  | some e => .error e
  | none => (f.creationNames path).map fun names => f.set names (.file bytes)

/-- Takes a step from the place that the names lead to, and makes a folder where the step leads to
nothing. -/
def makeStep : Folder × List String → String → Folder × List String
  | (f, names), step =>
    let names := advance names step
    match f.entry? names with
    | some _ => (f, names)
    | none => (f.set names .folder, names)

/-- The folder with an entry put at a path, and with the folders that the way there goes through. -/
def put (f : Folder) (path : String) (entry : Entry) : Folder :=
  let steps := pathSteps path
  let (made, names) := steps.dropLast.foldl makeStep (f, pathStart path)
  made.set (steps.getLast?.elim names (advance names)) entry

example :
    (put {} "d/e/../f" (.file [])).entries.map Prod.fst
      = [[".", "d", "f"], [".", "d", "e"], [".", "d"]] := by decide +kernel

/-- Saves a store to a path. -/
def save (f : Folder) (path : String) (store : Store) : Except Failure Folder :=
  (f.write path (StateFile.encode store)).mapError (createFailure path)

/-- Saves a store after a session, if there is a path to save it to: the outcome, and the folder. -/
def saveAfter {α : Type} (f : Folder) (path : Option String) (store : Store)
    (outcome : Except Failure α) : Except Failure α × Folder :=
  match path with
  | none => (outcome, f)
  | some path =>
    match f.save path store with
    | .ok changed => (outcome, changed)
    | .error failure => (outcomeAfterSave outcome (.error failure), f)

end Folder

end TextDesk
