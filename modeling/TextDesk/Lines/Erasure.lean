import TextDesk.Chars.Cluster

/-! # Erasures in a line

A line that comes straight from a stream may hold backspaces, which nobody has acted on.  Each erases
the cluster before it, if one is left.  The size of a cluster is noted in a single byte when it is
kept, so of a cluster of 256 bytes or more a backspace erases only the remainder of its size by 256;
a character of which not all bytes are to go stays.
-/

namespace TextDesk

/-- The character that erases. -/
def backspace : Char := '\x08'

/-- What is kept of a line so far. -/
structure Kept where
  /-- The characters, last first. -/
  chars : List Char := []
  /-- The noted sizes of the clusters that can be erased, last first. -/
  sizes : List Nat := []

/-- Drops `n` bytes worth of characters. -/
def dropBytes : Nat → List Char → List Char
  | _, [] => []
  | n, c :: s => if n < c.utf8Size then c :: s else dropBytes (n - c.utf8Size) s

namespace Kept

/-- Erases the last cluster. -/
def erase (k : Kept) : Kept :=
  match k.sizes with
  | [] => k
  | size :: sizes => ⟨dropBytes size k.chars, sizes⟩

/-- Keeps a cluster. -/
def keep (k : Kept) (cluster : List Char) : Kept :=
  ⟨cluster.reverse ++ k.chars, cluster.foldl (· + ·.utf8Size) 0 % 256 :: k.sizes⟩

/-- Takes the next cluster of a line. -/
def take (k : Kept) (cluster : List Char) : Kept :=
  if cluster = [backspace] then k.erase else k.keep cluster

end Kept

/-- A line once its backspaces have erased what they erase. -/
def erased (line : String) : String :=
  String.ofList ((clusters line.toList).foldl Kept.take {}).chars.reverse

example : erased "inptu\x08\x08ut e\u0301\x08x" = "input x" := by decide +kernel

end TextDesk
