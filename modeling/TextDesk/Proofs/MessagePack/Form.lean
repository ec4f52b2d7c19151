import TextDesk.Proofs.MessagePack.Head

/-! # The forms of a head

The format has several forms for one head: a size or a number may take more bytes than it needs, and a
number may be signed although it is not negative.  Here the forms are told from the table of markers, apart
from how they are read.  Main statements: a head is read from each of its forms, and the shortest head that
is written is one of them.
-/

namespace TextDesk.MessagePack

namespace Head

/-! ## Markers and forms -/

/-- The markers behind which a size or a number that is not negative stands: for each, in how many bytes,
and what it is the size of. -/
def sizedMarkers : List (UInt8 × Nat × (Nat → Head)) :=
  [(0xc4, 1, bin), (0xc5, 2, bin), (0xc6, 4, bin),
    -- the type byte of an application value is not counted
    (0xc7, 1, fun n => ext (n + 1)), (0xc8, 2, fun n => ext (n + 1)), (0xc9, 4, fun n => ext (n + 1)),
    (0xcc, 1, natural), (0xcd, 2, natural), (0xce, 4, natural), (0xcf, 8, natural),
    (0xd9, 1, str), (0xda, 2, str), (0xdb, 4, str),
    (0xdc, 2, array), (0xdd, 4, array),
    (0xde, 2, map), (0xdf, 4, map)]

/-- The markers behind which a number stands in two's complement, and in how many bytes. -/
def signedMarkers : List (UInt8 × Nat) := [(0xd0, 1), (0xd1, 2), (0xd2, 4), (0xd3, 8)]

/-- The markers that tell a head alone. -/
def wholeMarkers : List (UInt8 × Head) :=
  [(0xc0, nil), (0xc2, bool false), (0xc3, bool true), (0xca, float 4), (0xcb, float 8),
    (0xd4, ext 2), (0xd5, ext 3), (0xd6, ext 5), (0xd7, ext 9), (0xd8, ext 17)]

/-- The bytes are a form of the head. -/
inductive Form : Head → Bytes → Prop
  /-- A marker without anything behind it. -/
  | whole {marker : UInt8} {head : Head} (h : (marker, head) ∈ wholeMarkers) : Form head [marker]
  /-- A size or a number behind its marker. -/
  | sized {marker : UInt8} {width n : Nat} {make : Nat → Head}
      (h : (marker, width, make) ∈ sizedMarkers) (hn : n < 256 ^ width) :
      Form (make n) (marker :: toBigEndian width n)
  /-- A number that is not negative, in two's complement. -/
  | nonnegative {marker : UInt8} {width n : Nat} (h : (marker, width) ∈ signedMarkers)
      (hn : 2 * n < 256 ^ width) : Form (integer n) (marker :: toBigEndian width n)
  /-- A negative number, in two's complement. -/
  | negative {marker : UInt8} {width n : Nat} (h : (marker, width) ∈ signedMarkers)
      (hpos : 0 < n) (hn : 2 * n ≤ 256 ^ width) :
      Form (integer (-n)) (marker :: toBigEndian width (256 ^ width - n))
  /-- A small number is its own marker. -/
  | smallNatural {n : Nat} (hn : n < 0x80) : Form (natural n) [UInt8.ofNat n]
  /-- A small negative number is its own marker. -/
  | smallNegative {n : Nat} (hpos : 0 < n) (hn : n ≤ 0x20) :
      Form (integer (-n)) [UInt8.ofNat (0x100 - n)]
  /-- The size of a short string is part of the marker. -/
  | smallStr {n : Nat} (hn : n < 0x20) : Form (str n) [UInt8.ofNat (0xa0 + n)]
  /-- The size of a short array is part of the marker. -/
  | smallArray {n : Nat} (hn : n < 0x10) : Form (array n) [UInt8.ofNat (0x90 + n)]
  /-- The size of a small map is part of the marker. -/
  | smallMap {n : Nat} (hn : n < 0x10) : Form (map n) [UInt8.ofNat (0x80 + n)]

/-- The marker of a whole head gives the head. -/
theorem ofFirst_of_mem_wholeMarkers :
    ∀ m ∈ wholeMarkers, ofFirst m.1.toNat = (Pure.pure m.2 : Reader Head) := by
  unfold wholeMarkers
  repeat refine List.forall_mem_cons.2 ⟨rfl, ?_⟩
  exact List.forall_mem_nil _

/-- The marker of a size has it read from as many bytes as it says. -/
theorem ofFirst_of_mem_sizedMarkers :
    ∀ m ∈ sizedMarkers, ofFirst m.1.toNat = sized m.2.1 m.2.2 := by
  unfold sizedMarkers
  repeat refine List.forall_mem_cons.2 ⟨rfl, ?_⟩
  exact List.forall_mem_nil _

/-- The marker of a number in two's complement has it read from as many bytes as it says. -/
theorem ofFirst_of_mem_signedMarkers :
    ∀ m ∈ signedMarkers, ofFirst m.1.toNat = sized m.2 fun n => integer (signed m.2 n) := by
  unfold signedMarkers
  repeat refine List.forall_mem_cons.2 ⟨rfl, ?_⟩
  exact List.forall_mem_nil _

end Head

/-- In `width` bytes there are as many numbers below the half as above it. -/
theorem pow_eq_two_mul {width : Nat} (hwidth : 0 < width) :
    256 ^ width = 2 * 2 ^ (8 * width - 1) ∧ 256 ^ width = 2 ^ (8 * width) := by
  have hbits : 256 ^ width = 2 ^ (8 * width) := by rw [Nat.pow_mul]
  have hhalf : 8 * width = 8 * width - 1 + 1 := by omega
  constructor
  · rw [hbits, hhalf, Nat.pow_succ', Nat.add_sub_cancel]
  · exact hbits

/-- The lower half of the numbers in some bytes stands for the numbers that are not negative. -/
theorem signed_of_lt {width n : Nat} (hwidth : 0 < width) (hn : 2 * n < 256 ^ width) :
    signed width n = n := by
  have hhalf := (pow_eq_two_mul hwidth).1
  unfold signed
  rw [Nat.one_shiftLeft, if_pos (by omega)]

/-- The upper half of the numbers in some bytes stands for the negative numbers. -/
theorem signed_sub {width n : Nat} (hwidth : 0 < width) (hpos : 0 < n) (hn : 2 * n ≤ 256 ^ width) :
    signed width (256 ^ width - n) = -n := by
  rcases pow_eq_two_mul hwidth with ⟨hhalf, hbits⟩
  unfold signed
  rw [Nat.one_shiftLeft, Nat.one_shiftLeft, if_neg (by omega), ← hbits]
  omega

namespace Head

/-- A number in two's complement is read from its bytes. -/
theorem reads_signed {marker : UInt8} {width n : Nat} (h : (marker, width) ∈ signedMarkers)
    (hn : n < 256 ^ width) :
    Reads read (marker :: toBigEndian width n) (integer (signed width n)) := by
  have hfirst := ofFirst_of_mem_signedMarkers _ h
  refine reads_read ?_
  rw [hfirst]
  exact reads_sized width hn _

/-- A head is read from each of its forms. -/
theorem Form.reads {head : Head} {bytes : Bytes} (h : Form head bytes) : Reads read bytes head := by
  have hwidth : ∀ m ∈ signedMarkers, 0 < m.2 := by decide
  cases h with
  | whole h =>
    have hfirst := ofFirst_of_mem_wholeMarkers _ h
    refine reads_read ?_
    rw [hfirst]
    exact Reads.pure _
  | sized h hn =>
    have hfirst := ofFirst_of_mem_sizedMarkers _ h
    refine reads_read ?_
    rw [hfirst]
    exact reads_sized _ hn _
  | @nonnegative marker width n h hn =>
    have hbound : n < 256 ^ width := by omega
    have hread := reads_signed h hbound
    rwa [signed_of_lt (hwidth _ h) hn] at hread
  | @negative marker width n h hpos hn =>
    have hbound : 256 ^ width - n < 256 ^ width := by omega
    have hread := reads_signed h hbound
    rwa [signed_sub (hwidth _ h) hpos hn] at hread
  | smallNatural hn => exact reads_read_one (by omega) (if_pos hn)
  | @smallNegative n hpos hn =>
    refine reads_read_one (by omega) ?_
    unfold ofFirst
    have hsigned : signed 1 (256 - n) = -n := signed_sub (by decide) hpos (by omega)
    rw [if_neg (by omega), if_neg (by omega), if_neg (by omega), if_neg (by omega), if_neg (by omega),
      hsigned]
  | smallStr hn =>
    refine reads_read_one (by omega) ?_
    unfold ofFirst
    rw [if_neg (by omega), if_neg (by omega), if_neg (by omega), if_pos (by omega),
      Nat.add_sub_cancel_left]
  | smallArray hn =>
    refine reads_read_one (by omega) ?_
    unfold ofFirst
    rw [if_neg (by omega), if_neg (by omega), if_pos (by omega), Nat.add_sub_cancel_left]
  | smallMap hn =>
    refine reads_read_one (by omega) ?_
    unfold ofFirst
    rw [if_neg (by omega), if_pos (by omega), Nat.add_sub_cancel_left]

/-! ## Shortest heads -/

/-- The shortest head of a number of 64 bits is a form of it. -/
theorem form_writeNatural {n : Nat} (hn : n < 2 ^ 64) : Form (natural n) (writeNatural n) := by
  unfold writeNatural
  split
  · next h => exact .smallNatural h
  split
  · next h => exact .sized (by simp [sizedMarkers]) h
  split
  · next h => exact .sized (by simp [sizedMarkers]) h
  split
  · next h => exact .sized (by simp [sizedMarkers]) h
  · exact .sized (by simp [sizedMarkers]) hn

/-- The shortest head of a string is a form of its size. -/
theorem form_writeStr {size : Nat} (hsize : size < 2 ^ 32) : Form (str size) (writeStr size) := by
  unfold writeStr
  split
  · next h => exact .smallStr h
  split
  · next h => exact .sized (by simp [sizedMarkers]) h
  split
  · next h => exact .sized (by simp [sizedMarkers]) h
  · exact .sized (by simp [sizedMarkers]) hsize

/-- The shortest head of an array is a form of its size. -/
theorem form_writeArray {size : Nat} (hsize : size < 2 ^ 32) :
    Form (array size) (writeArray size) := by
  unfold writeArray
  split
  · next h => exact .smallArray h
  split
  · next h => exact .sized (by simp [sizedMarkers]) h
  · exact .sized (by simp [sizedMarkers]) hsize

/-- The shortest head of a map is a form of its size. -/
theorem form_writeMap {size : Nat} (hsize : size < 2 ^ 32) : Form (map size) (writeMap size) := by
  unfold writeMap
  split
  · next h => exact .smallMap h
  split
  · next h => exact .sized (by simp [sizedMarkers]) h
  · exact .sized (by simp [sizedMarkers]) hsize

end Head

end TextDesk.MessagePack
