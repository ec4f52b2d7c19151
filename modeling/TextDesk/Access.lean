import TextDesk.Command
import TextDesk.Listing
import TextDesk.Store

/-! # Carrying out commands

A command is carried out wherever texts can be looked up and changed.  It first does what it can do
at once and then gives a reply: it is done, it has texts to print, or it wants the data of a text.
A reply is settled wherever there is a console, which supplies text areas and takes what is printed.
-/

namespace TextDesk

/-- Where texts can be looked up and changed. -/
class MonadTexts (m : Type → Type) where
  /-- The texts that a reference addresses, in a fixed order. -/
  lookup : (reference : String) → m (List Text)
  /-- Adds a text, or replaces the data of the text of its name. -/
  addText : Text → m Unit
  /-- Breaks a text into lines behind the separators. -/
  format : (name : String) → (separators : Option (List String)) → m Unit
  /-- Places a cursor in its target. -/
  addCursor : Cursor → m Unit
  /-- Appends one text to another. -/
  sendText : (source target : String) → m Unit
  /-- The texts to print. -/
  print : (reference : Option String) → m (List Text)

/-- Where text areas are entered and printed texts go. -/
class MonadConsole (m : Type → Type) where
  /-- The lines entered as the data of the text `name`, which now holds `existing`. -/
  askArea : (name : String) → (existing : Option String) → m String
  /-- Writes printed texts. -/
  write : String → m Unit

/-- What is left to do once a command was carried out. -/
inductive Reply where
  /-- Nothing. -/
  | done
  /-- Print these texts. -/
  | listing (texts : List Text)
  /-- Have the data of the text `name` entered, which now holds `existing`. -/
  | wantsArea (name : String) (existing : Option String)
  deriving DecidableEq, Repr

/-- The text that an input command adds: data without cursors. -/
def enteredText (name data : String) : Text := { name, data }

/-- Carries out a command, up to its reply.  A cursor goes to the first text its target addresses. -/
def Command.perform {m : Type → Type} [Monad m] [MonadTexts m] : Command → m Reply
  | input name (some data) => do
    MonadTexts.addText (enteredText name data)
    return .done
  | input name none => do
    let found ← MonadTexts.lookup name
    return .wantsArea name (found.head?.map Text.data)
  | format name separators => do
    MonadTexts.format name separators
    return .done
  | cursor name target start ahead stop => do
    let found ← MonadTexts.lookup target
    MonadTexts.addCursor { name, target := found.head?.map Text.name, start, ahead, stop }
    return .done
  | send source target => do
    MonadTexts.sendText source target
    return .done
  | print reference => do
    let found ← MonadTexts.print reference
    return .listing found

/-- Settles a reply: has the area entered and adds the text, or writes the texts to print. -/
def Reply.settle {m : Type → Type} [Monad m] [MonadTexts m] [MonadConsole m] : Reply → m Unit
  | done => pure ()
  | listing texts => MonadConsole.write (Listing.render texts)
  | wantsArea name existing => do
    let data ← MonadConsole.askArea name existing
    MonadTexts.addText (enteredText name data)

/-- Carries out a command and settles its reply. -/
def Command.run {m : Type → Type} [Monad m] [MonadTexts m] [MonadConsole m] (c : Command) :
    m Unit := do
  let reply ← c.perform
  reply.settle

/-! ## Commands on a store -/

instance : MonadTexts (StateT Store (Except Failure)) where
  lookup reference := fun s => .ok (s.lookup reference, s)
  addText text := fun s => .ok ((), s.addText text)
  format name separators := fun s => (s.format name separators).map ((), ·)
  addCursor cursor := fun s => (s.addCursor cursor).map ((), ·)
  sendText source target := fun s => (s.sendText source target).map ((), ·)
  print reference := fun s => (s.print reference).map (·, s)

/-- Carries out a command on a store: the reply and the changed store, or the failure, which leaves
the caller with the store it has. -/
def Store.obey (s : Store) (c : Command) : Except Failure (Reply × Store) :=
  (c.perform : StateT Store (Except Failure) Reply).run s

end TextDesk
