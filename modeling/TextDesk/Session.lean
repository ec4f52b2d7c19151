import TextDesk.Access
import TextDesk.Diagnosis

/-! # Executing a line

A line is blank, ends the session, or gives a command.  In a session, commands work on a store and on
a source of text areas and an outlet for printed texts, either of which may refuse its service.
-/

namespace TextDesk

/-- What a line tells the desk to do. -/
inductive Instruction where
  /-- The line has no word. -/
  | nothing
  /-- The session ends. -/
  | quit
  /-- A command is carried out. -/
  | obey (command : Command)
  /-- The line is no command. -/
  | reject (failure : Failure)
  deriving DecidableEq, Repr

/-- Reads a line as an instruction. -/
def Instruction.ofLine (line : String) : Instruction :=
  if isBlankLine line then nothing
  else if CommandSet.standard.isQuit line then quit
  else
    match CommandSet.standard.read line with
    | .ok command => obey command
    | .error failure => reject failure

/-- Executes a line; the answer says whether the session goes on. -/
def execute {m : Type → Type} [Monad m] [MonadExceptOf Failure m] [MonadTexts m] [MonadConsole m]
    (line : String) : m Bool :=
  match Instruction.ofLine line with
  | .nothing => return true
  | .quit => return false
  | .reject failure => throw failure
  | .obey command => do
    command.run
    return true

/-! ## Sessions on a store -/

/-- What takes printed texts and may refuse one, giving its reason. -/
class Outlet (ω : Type) where
  /-- Writes a text. -/
  write : String → ω → Except String Unit × ω

/-- What supplies the data of texts and may fail to. -/
class AreaSource (α : Type) where
  /-- Reads the data of the text `name`, which now holds `existing`. -/
  readArea : (name : String) → (existing : Option String) → α → Except Failure String × α

/-- A string takes all that is printed, one text behind the other. -/
instance : Outlet String where
  write text written := (.ok (), written ++ text)

/-- What the commands of a session work on: the texts, the source of text areas, and the outlet. -/
structure Bench (α ω : Type) where
  /-- The texts. -/
  store : Store
  /-- The source of text areas. -/
  areas : α
  /-- Where printed texts go. -/
  out : ω
  deriving DecidableEq, Repr

/-- A computation on a bench.  Even if it fails, it leaves the bench in some state. -/
abbrev Session (α ω : Type) : Type → Type := ExceptT Failure (StateM (Bench α ω))

namespace Session

variable {α ω : Type}

/-! ### Texts -/

/-- The texts. -/
def getStore : Session α ω Store := return (← get).store

/-- Changes the texts. -/
def modifyStore (f : Store → Store) : Session α ω Unit :=
  modify fun bench => { bench with store := f bench.store }

/-- The text of the given name, which must be there. -/
def demand (name : String) : Session α ω Text := do
  match (← getStore).get? name with
  | some text => return text
  | none => throw (.textNotFound name)

/-- Breaks a text into lines behind the separators, or behind the standard ones. -/
def format (name : String) (separators : Option (List String)) : Session α ω Unit := do
  let _ ← demand name
  let separators := separators.getD standardSeparators
  modifyStore (·.modify name fun t => { t with data := reflow separators t.data })

/-- Places a cursor in its target. -/
def addCursor (cursor : Cursor) : Session α ω Unit := do
  match cursor.target with
  | none => throw (.textNotFound ("target of cursor " ++ cursor.name))
  | some target =>
    let _ ← demand target
    modifyStore (·.modify target (Store.placeCursor cursor))

/-- Appends the data of one text to another, which is added if it is missing. -/
def sendText (source target : String) : Session α ω Unit := do
  let sender ← demand source
  match (← getStore).get? target with
  | some _ => modifyStore (·.modify target (Store.appendData sender.data))
  | none => modifyStore fun s => ⟨s.texts ++ [{ name := target, data := sender.data }]⟩

/-- The texts to print: all, or those that a reference addresses, of which there must be one. -/
def print (reference? : Option String) : Session α ω (List Text) := do
  let s ← getStore
  match reference? with
  | none => return s.texts
  | some reference =>
    match s.lookup reference with
    | [] => throw (.textNotFound reference)
    | found => return found

instance : MonadTexts (Session α ω) where
  lookup reference := return (← getStore).lookup reference
  addText text := modifyStore (·.addText text)
  format := format
  addCursor := addCursor
  sendText := sendText
  print := print

/-! ### Areas and output -/

/-- Asks the source of text areas. -/
def askAreas [AreaSource α] (name : String) (existing : Option String) : Session α ω String :=
  ExceptT.mk fun bench =>
    let (result, areas) := AreaSource.readArea name existing bench.areas
    (result, { bench with areas })

/-- Writes to the outlet. -/
def writeOut [Outlet ω] (text : String) : Session α ω Unit :=
  ExceptT.mk fun bench =>
    let (result, out) := Outlet.write text bench.out
    (result.mapError Failure.io, { bench with out })

instance [AreaSource α] [Outlet ω] : MonadConsole (Session α ω) where
  askArea := askAreas
  write := writeOut

end Session

/-- Executes a line on a bench: whether the session goes on, or the failure, and in both cases the
bench it leaves. -/
def Bench.execute {α ω : Type} [AreaSource α] [Outlet ω] (bench : Bench α ω) (line : String) :
    Except Failure Bool × Bench α ω :=
  (TextDesk.execute line : Session α ω Bool).run.run bench

end TextDesk
