import TextDesk.MessagePack.Value

/-! # MessagePack records

A record is written as a map from its field names to its fields.  It is read from such a map, with
the entries in any order, keys given by name or by index and unknown entries skipped, and also from
an array of its fields in order.
-/

namespace TextDesk.MessagePack

/-- Writes a record: its field names, each with its written value, in order. -/
def writeRecord (fields : List (String × Bytes)) : Bytes :=
  Head.writeMap fields.length ++ fields.flatMap fun (name, value) => writeString name ++ value

/-- How a record of type `α` is read: its fields are gathered in a draft of type `δ`. -/
structure RecordForm (δ α : Type) where
  /-- The names of the fields, in order. -/
  names : List String
  /-- How many of them an array must hold at least. -/
  minItems : Nat
  /-- The draft without any field. -/
  blank : δ
  /-- Reads the value of the field with the given index into a draft that lacks it. -/
  readField : Nat → δ → Reader δ
  /-- The record, if the draft lacks none of its required fields. -/
  finish? : δ → Option α

/-- Reads a value into a slot that must be free. -/
def fillSlot {α : Type} (slot : Option α) (read : Reader α) : Reader (Option α) :=
  if slot.isSome then throw (.unexpected "a new field") else some <$> read

/-- Reads the key of an entry: the index of the field it names, if it names one. -/
def readKey (names : List String) : Reader (Option Nat) := do
  match ← Head.read with
  | .str size | .bin size =>
    let bytes ← takeBytes size
    return (ofUtf8? bytes).bind (names.idxOf? ·)
  | .natural n => return if n < names.length then some n else none
  | _ => throw (.unexpected "a field name")

namespace RecordForm

variable {δ α : Type}

/-- Reads entries of a map into a draft; values of unknown keys are skipped. -/
def readEntries (form : RecordForm δ α) (depth : Nat) : Nat → δ → Reader δ
  | 0, draft => return draft
  | n + 1, draft => do
    match ← readKey form.names with
    | some i =>
      let filled ← form.readField i draft
      form.readEntries depth n filled
    | none =>
      skip depth
      form.readEntries depth n draft

/-- Reads items of an array into a draft, starting with the field of index `i`. -/
def readItems (form : RecordForm δ α) (i : Nat) : Nat → δ → Reader δ
  | 0, draft => return draft
  | n + 1, draft => do
    let filled ← form.readField i draft
    form.readItems (i + 1) n filled

/-- Turns a draft into the record. -/
def finish (form : RecordForm δ α) (draft : δ) : Reader α :=
  match form.finish? draft with
  | some a => return a
  | none => throw (.unexpected "a missing field")

/-- Reads a record; a skipped entry may be nested less than `depth` deep. -/
def read (form : RecordForm δ α) (depth : Nat) : Reader α := do
  match ← Head.read with
  | .map size =>
    let draft ← form.readEntries depth size form.blank
    form.finish draft
  | .array size =>
    if form.minItems ≤ size ∧ size ≤ form.names.length then
      let draft ← form.readItems 0 size form.blank
      form.finish draft
    else throw (.unexpected "as many items as fields")
  | _ => throw (.unexpected "a record")

end RecordForm

end TextDesk.MessagePack
