import TextDesk.Chars.Utf8

/-! # MessagePack heads

Every MessagePack value starts with a head: a marker byte and, for most markers, a size or a number in
big-endian bytes.  A number or a truth value is all head; a string, an array or a map of `n` parts
has its parts behind the head.  Heads are written in the shortest form and read in every form.
-/

namespace TextDesk.MessagePack

/-! ## Reading bytes -/

/-- Why bytes are no value of the wanted form. -/
inductive ReadError where
  /-- The bytes end where a value must start. -/
  | noMarker
  /-- The bytes end inside a value. -/
  | truncated
  /-- The marker that the format keeps in reserve. -/
  | reserved
  /-- A value of another form stands where `wanted` must stand. -/
  | unexpected (wanted : String)
  /-- Containers are nested too deep. -/
  | tooDeep
  deriving DecidableEq, Repr

/-- How a reading error is told. -/
def ReadError.message : ReadError → String
  | noMarker => "IO error while reading marker: failed to fill whole buffer"
  | truncated => "IO error while reading data: failed to fill whole buffer"
  | reserved => "wrong msgpack marker Reserved"
  | unexpected wanted => "unexpected value, expected " ++ wanted
  | tooDeep => "depth limit exceeded"

/-- A step that consumes bytes from the front of the input. -/
abbrev Reader : Type → Type := StateT Bytes (Except ReadError)

/-- The first `n` bytes and the rest, if there are as many. -/
def splitBytes? : Nat → Bytes → Option (Bytes × Bytes)
  | 0, bytes => some ([], bytes)
  | _ + 1, [] => none
  | n + 1, b :: bytes => (splitBytes? n bytes).map fun (taken, rest) => (b :: taken, rest)

/-- Reads exactly `n` bytes. -/
def takeBytes (n : Nat) : Reader Bytes := fun bytes =>
  match splitBytes? n bytes with
  | some (taken, rest) => .ok (taken, rest)
  | none => .error .truncated

/-- Reads the byte that a value starts with. -/
def takeMarker : Reader UInt8 := fun bytes =>
  match bytes with
  | [] => .error .noMarker
  | b :: rest => .ok (b, rest)

/-! ## Numbers in bytes -/

/-- The number that bytes denote, the most significant first. -/
def bigEndian (bytes : Bytes) : Nat := bytes.foldl (fun n b => 256 * n + b.toNat) 0

/-- The lowest `width` bytes of a number, the most significant first. -/
def toBigEndian : (width : Nat) → Nat → Bytes
  | 0, _ => []
  | width + 1, n => toBigEndian width (n / 256) ++ [UInt8.ofNat n]

/-- The signed number whose two's complement in `width` bytes is `n`. -/
def signed (width n : Nat) : Int :=
  if n < 1 <<< (8 * width - 1) then n else n - (1 <<< (8 * width) : Nat)

/-! ## Heads -/

/-- The start of a value. -/
inductive Head where
  /-- Nothing. -/
  | nil
  /-- A truth value. -/
  | bool (b : Bool)
  /-- A number in an unsigned form. -/
  | natural (n : Nat)
  /-- A number in a signed form. -/
  | integer (n : Int)
  /-- A floating-point number of `size` bytes, which follow. -/
  | float (size : Nat)
  /-- A string of `size` bytes, which follow. -/
  | str (size : Nat)
  /-- A byte string of `size` bytes, which follow. -/
  | bin (size : Nat)
  /-- An array of `size` values, which follow. -/
  | array (size : Nat)
  /-- A map of `size` keys, each with its value, which follow. -/
  | map (size : Nat)
  /-- An application value of `size` bytes with its type byte, which follow. -/
  | ext (size : Nat)
  deriving DecidableEq, Repr

namespace Head

/-- Reads a size of `width` bytes. -/
def sized (width : Nat) (make : Nat → Head) : Reader Head := do
  let bytes ← takeBytes width
  return make (bigEndian bytes)

/-- Reads the head whose marker is `marker`, one of those from `0xc0` to `0xdf`. -/
def ofMarker (marker : Nat) : Reader Head :=
  match marker with
  | 0xc0 => return nil
  | 0xc2 => return bool false
  | 0xc3 => return bool true
  | 0xc4 => sized 1 bin
  | 0xc5 => sized 2 bin
  | 0xc6 => sized 4 bin
  | 0xc7 => sized 1 fun n => ext (n + 1)
  | 0xc8 => sized 2 fun n => ext (n + 1)
  | 0xc9 => sized 4 fun n => ext (n + 1)
  | 0xca => return float 4
  | 0xcb => return float 8
  | 0xcc => sized 1 natural
  | 0xcd => sized 2 natural
  | 0xce => sized 4 natural
  | 0xcf => sized 8 natural
  | 0xd0 => sized 1 fun n => integer (signed 1 n)
  | 0xd1 => sized 2 fun n => integer (signed 2 n)
  | 0xd2 => sized 4 fun n => integer (signed 4 n)
  | 0xd3 => sized 8 fun n => integer (signed 8 n)
  | 0xd4 => return ext 2
  | 0xd5 => return ext 3
  | 0xd6 => return ext 5
  | 0xd7 => return ext 9
  | 0xd8 => return ext 17
  | 0xd9 => sized 1 str
  | 0xda => sized 2 str
  | 0xdb => sized 4 str
  | 0xdc => sized 2 array
  | 0xdd => sized 4 array
  | 0xde => sized 2 map
  | 0xdf => sized 4 map
  | _ => throw .reserved

/-- Reads a head. -/
def read : Reader Head := do
  let marker ← takeMarker
  let n := marker.toNat
  if n < 0x80 then return natural n
  else if n < 0x90 then return map (n - 0x80)
  else if n < 0xa0 then return array (n - 0x90)
  else if n < 0xc0 then return str (n - 0xa0)
  else if n < 0xe0 then ofMarker n
  else return integer (signed 1 n)

/-- The shortest head of a number. -/
def writeNatural (n : Nat) : Bytes :=
  if n < 0x80 then [UInt8.ofNat n]
  else if n < 0x100 then 0xcc :: toBigEndian 1 n
  else if n < 0x10000 then 0xcd :: toBigEndian 2 n
  else if n < 0x100000000 then 0xce :: toBigEndian 4 n
  else 0xcf :: toBigEndian 8 n

/-- The shortest head of a string. -/
def writeStr (size : Nat) : Bytes :=
  if size < 32 then [UInt8.ofNat (0xa0 + size)]
  else if size < 0x100 then 0xd9 :: toBigEndian 1 size
  else if size < 0x10000 then 0xda :: toBigEndian 2 size
  else 0xdb :: toBigEndian 4 size

/-- The shortest head of an array. -/
def writeArray (size : Nat) : Bytes :=
  if size < 16 then [UInt8.ofNat (0x90 + size)]
  else if size < 0x10000 then 0xdc :: toBigEndian 2 size
  else 0xdd :: toBigEndian 4 size

/-- The shortest head of a map. -/
def writeMap (size : Nat) : Bytes :=
  if size < 16 then [UInt8.ofNat (0x80 + size)]
  else if size < 0x10000 then 0xde :: toBigEndian 2 size
  else 0xdf :: toBigEndian 4 size

end Head

end TextDesk.MessagePack
