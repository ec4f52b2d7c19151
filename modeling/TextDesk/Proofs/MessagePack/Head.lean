import Mathlib.Algebra.Group.Nat.Defs
import TextDesk.MessagePack.Head

/-! # Reading off the front

`Reads` says that a reader takes bytes off the front of any input and gives a value for them.  It
composes along `bind`, so that what stands one behind the other is read step by step.  Main statements:
bytes are taken, sizes are read back from their bytes, and a head is read by its marker.
-/

namespace TextDesk.MessagePack

/-- The reader gives the value for the bytes, whatever follows them, and leaves what follows. -/
def Reads {α : Type} (read : Reader α) (bytes : Bytes) (a : α) : Prop :=
  ∀ rest, read.run (bytes ++ rest) = .ok (a, rest)

namespace Reads

variable {α β : Type}

/-- A reader that consumes nothing. -/
theorem pure (a : α) : Reads (Pure.pure a) [] a := fun _ => rfl

/-- Readers one behind the other read bytes one behind the other. -/
theorem bind {read : Reader α} {next : α → Reader β} {front back : Bytes} {a : α} {b : β}
    (hfront : Reads read front a) (hback : Reads (next a) back b) :
    Reads (read >>= next) (front ++ back) b := by
  intro rest
  rw [StateT.run_bind, List.append_assoc, hfront]
  exact hback rest

/-- A value made of what is read. -/
theorem map {read : Reader α} {bytes : Bytes} {a : α} (h : Reads read bytes a) (f : α → β) :
    Reads (f <$> read) bytes (f a) := by
  intro rest
  rw [StateT.run_map, h]
  rfl

/-- Like `bind`, for a reader behind which nothing is consumed. -/
theorem bind_pure {read : Reader α} {next : α → Reader β} {bytes : Bytes} {a : α} {b : β}
    (hread : Reads read bytes a) (hnext : Reads (next a) [] b) : Reads (read >>= next) bytes b := by
  have h := hread.bind hnext
  rwa [List.append_nil] at h

end Reads

/-! ## Bytes -/

theorem splitBytes?_append (bytes rest : Bytes) :
    splitBytes? bytes.length (bytes ++ rest) = some (bytes, rest) := by
  induction bytes with
  | nil => rfl
  | cons b bytes ih => simp [splitBytes?, ih]

/-- As many bytes as there are are taken. -/
theorem reads_takeBytes (bytes : Bytes) : Reads (takeBytes bytes.length) bytes bytes := by
  intro rest
  unfold takeBytes
  simp only [StateT.run, splitBytes?_append]

@[simp] theorem length_toBigEndian (width n : Nat) : (toBigEndian width n).length = width := by
  induction width generalizing n with
  | zero => rfl
  | succ width ih => simp [toBigEndian, ih]

/-- Bytes denote the number they were made of, as far as it fits. -/
theorem bigEndian_toBigEndian (width n : Nat) :
    bigEndian (toBigEndian width n) = n % 256 ^ width := by
  induction width generalizing n with
  | zero =>
    rw [Nat.pow_zero, Nat.mod_one]
    rfl
  | succ width ih =>
    -- the last byte is the remainder by 256, and the bytes before it denote the quotient
    have hlast : (UInt8.ofNat n).toNat = n % 256 := UInt8.toNat_ofNat'
    have hstep : bigEndian (toBigEndian width (n / 256) ++ [UInt8.ofNat n])
        = 256 * bigEndian (toBigEndian width (n / 256)) + (UInt8.ofNat n).toNat := by
      simp [bigEndian]
    rw [toBigEndian, hstep, ih, hlast, Nat.pow_succ', Nat.mod_mul]
    omega

namespace Head

/-- A size that fits is read back from its bytes. -/
theorem reads_sized (width : Nat) {n : Nat} (h : n < 256 ^ width) (make : Nat → Head) :
    Reads (sized width make) (toBigEndian width n) (make n) := by
  have htake := reads_takeBytes (toBigEndian width n)
  rw [length_toBigEndian] at htake
  refine htake.bind_pure ?_
  rw [bigEndian_toBigEndian, Nat.mod_eq_of_lt h]
  exact Reads.pure _

/-! ## Markers -/

/-- The rest of a head, for each range of its marker. -/
def ofFirst (marker : Nat) : Reader Head :=
  if marker < 0x80 then return natural marker
  else if marker < 0x90 then return map (marker - 0x80)
  else if marker < 0xa0 then return array (marker - 0x90)
  else if marker < 0xc0 then return str (marker - 0xa0)
  else if marker < 0xe0 then ofMarker marker
  else return integer (signed 1 marker)

/-- A head is read by its marker. -/
theorem read_eq : read = takeMarker >>= fun marker => ofFirst marker.toNat := rfl

theorem reads_read {marker : UInt8} {bytes : Bytes} {h : Head}
    (hread : Reads (ofFirst marker.toNat) bytes h) : Reads read (marker :: bytes) h := by
  rw [read_eq]
  have hmarker : Reads takeMarker [marker] marker := fun rest => rfl
  exact hmarker.bind hread

/-- A head that is a marker alone. -/
theorem reads_read_one {n : Nat} {h : Head} (hn : n < 256) (hfirst : ofFirst n = Pure.pure h) :
    Reads read [UInt8.ofNat n] h := by
  have htoNat : (UInt8.ofNat n).toNat = n := by
    rw [UInt8.toNat_ofNat']
    omega
  refine reads_read ?_
  rw [htoNat, hfirst]
  exact Reads.pure h

end Head

end TextDesk.MessagePack
