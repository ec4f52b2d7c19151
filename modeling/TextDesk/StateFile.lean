import TextDesk.MessagePack.Record
import TextDesk.Store

/-! # State files

A store is kept in a file as one MessagePack record.  Writing uses the shortest forms; reading
accepts every form of the same record and ignores what follows it.
-/

namespace TextDesk.StateFile

open MessagePack

/-! ## Writing -/

/-- Writes one end of a cursor. -/
def writeDestination (d : Destination) : Bytes :=
  writeRecord [
    ("position", writeOption writePosition d.position),
    ("word", writeOption writeString d.word)]

/-- Writes a cursor. -/
def writeCursor (c : Cursor) : Bytes :=
  writeRecord [
    ("name", writeString c.name),
    ("target", writeOption writeString c.target),
    ("from", writeDestination c.start),
    ("ahead", writeBool c.ahead),
    ("to", writeDestination c.stop)]

/-- Writes a text. -/
def writeText (t : Text) : Bytes :=
  writeRecord [
    ("name", writeString t.name),
    ("data", writeString t.data),
    ("cursors", writeList writeCursor t.cursors)]

/-- The bytes of a state file that holds a store. -/
def encode (s : Store) : Bytes := writeRecord [("texts", writeList writeText s.texts)]

/-! ## Reading -/

/-- How deep a state file may be nested. -/
def maxDepth : Nat := 1024

/-- The fields of one end of a cursor that were read. -/
structure DestinationDraft where
  position : Option (Option UInt64) := none
  word : Option (Option String) := none

/-- How one end of a cursor is read; both fields may be missing in a map. -/
def destinationForm : RecordForm DestinationDraft Destination where
  names := ["position", "word"]
  minItems := 2
  blank := {}
  readField i draft :=
    match i with
    | 0 => do
      let position ← fillSlot draft.position (readOption readPosition)
      return { draft with position }
    | _ => do
      let word ← fillSlot draft.word (readOption readString)
      return { draft with word }
  finish? draft := some ⟨draft.position.join, draft.word.join⟩

/-- Reads one end of a cursor. -/
def readDestination : Reader Destination := destinationForm.read (maxDepth - 6)

/-- The fields of a cursor that were read. -/
structure CursorDraft where
  name : Option String := none
  target : Option (Option String) := none
  start : Option Destination := none
  ahead : Option Bool := none
  stop : Option Destination := none

/-- How a cursor is read; only the target may be missing in a map. -/
def cursorForm : RecordForm CursorDraft Cursor where
  names := ["name", "target", "from", "ahead", "to"]
  minItems := 5
  blank := {}
  readField i draft :=
    match i with
    | 0 => do
      let name ← fillSlot draft.name readString
      return { draft with name }
    | 1 => do
      let target ← fillSlot draft.target (readOption readString)
      return { draft with target }
    | 2 => do
      let start ← fillSlot draft.start readDestination
      return { draft with start }
    | 3 => do
      let ahead ← fillSlot draft.ahead readBool
      return { draft with ahead }
    | _ => do
      let stop ← fillSlot draft.stop readDestination
      return { draft with stop }
  finish? draft := do
    return ⟨← draft.name, draft.target.join, ← draft.start, ← draft.ahead, ← draft.stop⟩

/-- Reads a cursor. -/
def readCursor : Reader Cursor := cursorForm.read (maxDepth - 5)

/-- The fields of a text that were read. -/
structure TextDraft where
  name : Option String := none
  data : Option String := none
  cursors : Option (List Cursor) := none

/-- How a text is read; the cursors may be missing, in a map and at the end of an array. -/
def textForm : RecordForm TextDraft Text where
  names := ["name", "data", "cursors"]
  minItems := 2
  blank := {}
  readField i draft :=
    match i with
    | 0 => do
      let name ← fillSlot draft.name readString
      return { draft with name }
    | 1 => do
      let data ← fillSlot draft.data readString
      return { draft with data }
    | _ => do
      let cursors ← fillSlot draft.cursors (readList readCursor)
      return { draft with cursors }
  finish? draft := do
    return ⟨← draft.name, ← draft.data, draft.cursors.getD []⟩

/-- Reads a text. -/
def readText : Reader Text := textForm.read (maxDepth - 3)

/-- How a store is read. -/
def storeForm : RecordForm (Option (List Text)) Store where
  names := ["texts"]
  minItems := 1
  blank := none
  readField _ draft := fillSlot draft (readList readText)
  finish? draft := draft.map Store.mk

/-- Reads a store from the front of the bytes. -/
def readStore : Reader Store := storeForm.read (maxDepth - 1)

/-- The store that the bytes of a state file hold. -/
def decode (bytes : Bytes) : Except ReadError Store := (readStore.run bytes).map Prod.fst

end TextDesk.StateFile
