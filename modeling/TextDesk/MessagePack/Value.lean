import TextDesk.MessagePack.Head

/-! # MessagePack values

Strings, numbers, truth values, optional values and lists, each with its writer and its reader, and
a reader that skips a value of any form.
-/

namespace TextDesk.MessagePack

/-! ## Writers -/

/-- Writes a string. -/
def writeString (s : String) : Bytes := Head.writeStr (utf8Bytes s).length ++ utf8Bytes s

/-- Writes a truth value. -/
def writeBool (b : Bool) : Bytes := [if b then 0xc3 else 0xc2]

/-- Writes a position. -/
def writePosition (n : UInt64) : Bytes := Head.writeNatural n.toNat

/-- Writes an optional value: nil if it is missing. -/
def writeOption {α : Type} (write : α → Bytes) : Option α → Bytes
  | none => [0xc0]
  | some a => write a

/-- Writes a list. -/
def writeList {α : Type} (write : α → Bytes) (as : List α) : Bytes :=
  Head.writeArray as.length ++ as.flatMap write

/-! ## Readers -/

/-- Reads a string, from the string form or the byte string form. -/
def readString : Reader String := do
  match ← Head.read with
  | .str size | .bin size =>
    let bytes ← takeBytes size
    match ofUtf8? bytes with
    | some s => return s
    | none => throw (.unexpected "UTF-8")
  | _ => throw (.unexpected "a string")

/-- Reads a position, from any number that is not negative. -/
def readPosition : Reader UInt64 := do
  match ← Head.read with
  | .natural n => return UInt64.ofNat n
  | .integer n => if n < 0 then throw (.unexpected "a position") else return UInt64.ofNat n.toNat
  | _ => throw (.unexpected "a position")

/-- Reads a truth value. -/
def readBool : Reader Bool := do
  match ← Head.read with
  | .bool b => return b
  | _ => throw (.unexpected "a truth value")

/-- Reads an optional value, which nil stands for if it is missing. -/
def readOption {α : Type} (read : Reader α) : Reader (Option α) := fun bytes =>
  match bytes with
  | 0xc0 :: rest => .ok (none, rest)
  | _ => (some <$> read).run bytes

/-- Reads a number of values, one after the other. -/
def readMany {α : Type} (read : Reader α) : Nat → Reader (List α)
  | 0 => return []
  | n + 1 => do
    let a ← read
    let as ← readMany read n
    return a :: as

/-- Reads a list, from an array; an empty byte string also holds no member. -/
def readList {α : Type} (read : Reader α) : Reader (List α) := do
  match ← Head.read with
  | .array size => readMany read size
  | .bin 0 => return []
  | _ => throw (.unexpected "a list")

/-! ## Skipping -/

/-- Takes a step a number of times. -/
def times (step : Reader Unit) : Nat → Reader Unit
  | 0 => return
  | n + 1 => do
    step
    times step n

/-- Skips a value of any form whose arrays, maps and application values are nested less than `depth`
deep. -/
def skip : (depth : Nat) → Reader Unit
  | 0 => throw .tooDeep
  | depth + 1 => do
    match ← Head.read with
    | .nil | .bool _ | .natural _ | .integer _ => return
    | .float size | .str size | .bin size => let _ ← takeBytes size
    | .ext size =>
      if depth = 0 then throw .tooDeep
      else let _ ← takeBytes size
    | .array size => if depth = 0 then throw .tooDeep else times (skip depth) size
    | .map size => if depth = 0 then throw .tooDeep else times (skip depth) (2 * size)

end TextDesk.MessagePack
