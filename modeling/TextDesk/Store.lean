import TextDesk.Chars.AsciiCase
import TextDesk.Failure
import TextDesk.Store.NamePattern
import TextDesk.Store.Reflow
import TextDesk.Text

/-! # The store of texts

The texts of a desk, oldest first.  A name addresses the first text whose name is the same up to
ASCII case; a pattern addresses every text whose name it fits.  An operation that fails gives no
store: the caller keeps the one it has.
-/

namespace TextDesk

/-- Texts in the order in which they were added. -/
structure Store where
  texts : List Text := []
  deriving DecidableEq, Repr, Inhabited

/-- Changes the first member of a list for which `p` holds. -/
def modifyFirst {α : Type} (p : α → Bool) (f : α → α) : List α → List α
  | [] => []
  | x :: xs => if p x then f x :: xs else x :: modifyFirst p f xs

namespace Store

/-! ## Finding texts -/

/-- The text of the given name. -/
def get? (s : Store) (name : String) : Option Text := s.texts.find? (sameName ·.name name)

/-- The texts that a reference addresses, in store order. -/
def lookup (s : Store) (reference : String) : List Text :=
  if NamePattern.isPattern reference then
    s.texts.filter fun t => NamePattern.covers reference.toList t.name.toList
  else (s.get? reference).toList

/-- The texts to print: all, or those that a reference addresses, of which there must be one. -/
def print (s : Store) : Option String → Except Failure (List Text)
  | none => .ok s.texts
  | some reference =>
    match s.lookup reference with
    | [] => .error (.textNotFound reference)
    | found => .ok found

/-! ## Changing texts -/

/-- The store with the text of the given name changed. -/
def modify (s : Store) (name : String) (f : Text → Text) : Store :=
  ⟨modifyFirst (sameName ·.name name) f s.texts⟩

/-- A text that takes over the data of another, and its cursors if there are any. -/
def replaceData (old new : Text) : Text :=
  { old with data := new.data, cursors := if new.cursors.isEmpty then old.cursors else new.cursors }

/-- Adds a text; one that has its name already keeps its place and takes over the data. -/
def addText (s : Store) (text : Text) : Store :=
  if (s.get? text.name).isSome then s.modify text.name (replaceData · text)
  else ⟨s.texts ++ [text]⟩

/-- Breaks a text into lines behind the separators, or behind the standard ones. -/
def format (s : Store) (name : String) (separators : Option (List String)) : Except Failure Store :=
  match s.get? name with
  | none => .error (.textNotFound name)
  | some _ =>
    let separators := separators.getD standardSeparators
    .ok (s.modify name fun t => { t with data := reflow separators t.data })

/-- A text with a cursor added last, in place of any of the same name. -/
def placeCursor (cursor : Cursor) (text : Text) : Text :=
  { text with cursors := text.cursors.filter (·.name != cursor.name) ++ [cursor] }

/-- Places a cursor in its target. -/
def addCursor (s : Store) (cursor : Cursor) : Except Failure Store :=
  match cursor.target with
  | none => .error (.textNotFound ("target of cursor " ++ cursor.name))
  | some target =>
    match s.get? target with
    | none => .error (.textNotFound target)
    | some _ => .ok (s.modify target (placeCursor cursor))

/-- A text with data appended on a new line; an empty text takes the data as it is. -/
def appendData (data : String) (text : Text) : Text :=
  { text with data := if text.data.isEmpty then data else text.data ++ "\n" ++ data }

/-- Appends the data of one text to another, which is added if it is missing. -/
def sendText (s : Store) (source target : String) : Except Failure Store :=
  match s.get? source with
  | none => .error (.textNotFound source)
  | some sender =>
    match s.get? target with
    | none => .ok ⟨s.texts ++ [{ name := target, data := sender.data }]⟩
    | some _ => .ok (s.modify target (appendData sender.data))

end Store

end TextDesk
