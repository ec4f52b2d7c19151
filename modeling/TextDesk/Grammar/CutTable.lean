import TextDesk.Grammar.Capture
import TextDesk.Tails

/-! # Cutting a line by table

Trying every way to cut a line may take very long: the same rest of the line is tried again behind
every way to cut what stands before it.  Here the cuts of every tail of the line are found at once, for
the last element first, so that the work grows with the length of the line and the number of elements
only.  Main statement: the cuts found are the same.
-/

namespace TextDesk

/-- The cuts of the tails of a line, the longest tail first. -/
abbrev CutTable := List (Option Cuts)

namespace CutTable

/-- The cuts of the whole line. -/
def whole (table : CutTable) : Option Cuts := table.head?.join

/-- The cuts behind `n` characters more than the first element took before. -/
def lengthen : Option Cuts → Option Cuts
  | some (n :: ns) => some ((n + 1) :: ns)
  | _ => none

/-- The first element takes `n` characters. -/
def take (n : Nat) (rest : Option Cuts) : Option Cuts := rest.map (n :: ·)

/-- The first element takes a run of characters with the property `p`, as long as it can be. -/
def run (p : Char → Bool) : List Char → CutTable → CutTable
  | c :: s, _ :: table =>
    let longer := run p s table
    (if p c then (lengthen (whole longer)).or (take 1 (whole table)) else none) :: longer
  | _, _ => [none]

/-- The first element takes `n` characters wherever the test holds. -/
def fixed (test : List Char → Bool) (n : Nat) : List Char → CutTable → CutTable
  | [], table => [if test [] then take n table[n]?.join else none]
  | c :: s, table =>
    (if test (c :: s) then take n table[n]?.join else none) :: fixed test n s table.tail

/-- The first element takes a space before what it took by the table. -/
def space : List Char → CutTable → CutTable
  | c :: s, _ :: table => (if c = ' ' then lengthen (whole table) else none) :: space s table
  | _, _ => [none]

/-- The first element takes what it took by the first table, or else by the second. -/
def either (preferred other : CutTable) : CutTable := preferred.zipWith Option.or other

/-- The first element takes nothing. -/
def skip (table : CutTable) : CutTable := table.map (take 0)

end CutTable

namespace Element

/-- From the cuts behind an element, those that start with it. -/
def cutTable : Element → List Char → CutTable → CutTable
  | literal text, s, table => .fixed (startsWith text.toList) text.toList.length s table
  | word, s, table => .run (!isBlank ·) s table
  | number, s, table => .run Char.isDigit s table
  | wordOrNumber, s, table => .either (.run Char.isDigit s table) (.run (!isBlank ·) s table)
  | direction, s, table => .fixed startsWithMark 2 s table
  | freeText, s, table => .run (· ≠ '\n') s table
  | optional inner, s, table => .either (inner.cutTable s table) table.skip

/-- From the cuts behind an element at its place in a line, those that start with it. -/
def placedTable (first : Bool) : Element → List Char → CutTable → CutTable
  | optional inner, s, table => .either (.space s (inner.cutTable s table)) table.skip
  | e, s, table => if first then e.cutTable s table else .space s (e.cutTable s table)

end Element

/-- The cuts of every tail of a line. -/
def cutTable (first : Bool) : List Element → List Char → CutTable
  | [], s => onTails (fun t => if t.isEmpty then some [] else none) s
  | e :: es, s => e.placedTable first s (cutTable false es s)

/-! ## The tables hold what they are to hold -/

namespace CutTable

/-- The first choice among lengths, in order of preference, that leaves a tail with cuts. -/
def choose (lengths : List Char → List Nat) (rest : List Char → Option Cuts) (s : List Char) :
    Option Cuts :=
  (lengths s).findSome? fun n => take n (rest (s.drop n))

theorem whole_onTails (f : List Char → Option Cuts) (s : List Char) :
    whole (onTails f s) = f s := by
  simp [whole, head?_onTails]

/-- Lengthening commutes with choosing the first that there is. -/
theorem lengthen_findSome? (ns : List Nat) (f : Nat → Option Cuts) :
    lengthen (ns.findSome? fun n => take n (f n)) = ns.findSome? fun n => take (n + 1) (f n) := by
  induction ns with
  | nil => rfl
  | cons n ns ih =>
    cases h : f n with
    | none => simpa [take, h] using ih
    | some cuts => simp [take, lengthen, h]

theorem run_onTails (p : Char → Bool) (rest : List Char → Option Cuts) (s : List Char) :
    run p s (onTails rest s) = onTails (choose (fun t => countdown (t.takeWhile p).length) rest) s := by
  induction s with
  | nil => rfl
  | cons c s ih =>
    simp only [onTails, run, ih, whole_onTails]
    congr 1
    cases hp : p c with
    | false => simp [choose, hp, countdown]
    | true =>
      simp only [choose, hp, List.takeWhile_cons_of_pos, List.length_cons, countdown_succ,
        List.findSome?_append, List.findSome?_map, List.findSome?_cons, List.findSome?_nil,
        if_true]
      rw [lengthen_findSome?]
      cases h : rest s <;> simp [take, h, Function.comp_def]

theorem fixed_onTails {test : List Char → Bool} {n : Nat}
    (hlen : ∀ t, test t = true → n ≤ t.length) (rest : List Char → Option Cuts) (s : List Char) :
    fixed test n s (onTails rest s) = onTails (choose (fun t => if test t then [n] else []) rest) s := by
  have entry (t : List Char) : (if test t then take n (onTails rest t)[n]?.join else none)
      = choose (fun t => if test t then [n] else []) rest t := by
    cases ht : test t with
    | false => simp [choose, ht]
    | true =>
      simp only [choose, ht, getElem?_onTails rest (hlen t ht), Option.join_some, if_true,
        List.findSome?_cons, List.findSome?_nil]
      cases take n (rest (t.drop n)) <;> rfl
  induction s with
  | nil => simpa [fixed, onTails] using entry []
  | cons c s ih =>
    have hhead := entry (c :: s)
    simp only [onTails] at hhead
    simp only [fixed, onTails, List.tail_cons, hhead, ih]

theorem space_onTails (lengths : List Char → List Nat) (rest : List Char → Option Cuts)
    (s : List Char) :
    space s (onTails (choose lengths rest) s)
      = onTails (choose (fun | ' ' :: t => (lengths t).map (· + 1) | _ => []) rest) s := by
  induction s with
  | nil => rfl
  | cons c s ih =>
    simp only [onTails, space, ih, whole_onTails]
    congr 1
    by_cases hc : c = ' '
    · subst hc
      simp only [if_true, choose, List.findSome?_map, Function.comp_def, List.drop_succ_cons]
      exact lengthen_findSome? _ _
    · rw [if_neg hc]
      simp [choose, hc]

theorem either_onTails (l l' : List Char → List Nat) (rest : List Char → Option Cuts)
    (s : List Char) :
    either (onTails (choose l rest) s) (onTails (choose l' rest) s)
      = onTails (choose (fun t => l t ++ l' t) rest) s := by
  simp only [either, zipWith_onTails]
  congr 1
  funext t
  simp [choose, List.findSome?_append]

theorem skip_onTails (rest : List Char → Option Cuts) (s : List Char) :
    skip (onTails rest s) = onTails (choose (fun _ => [0]) rest) s := by
  simp only [skip, map_onTails]
  congr 1
  funext t
  cases h : rest t <;> simp [choose, take, h]

end CutTable

namespace Element

open CutTable

/-- A text that a fixed text starts is at least as long. -/
theorem length_le_of_startsWith {text s : List Char} (h : startsWith text s = true) :
    text.length ≤ s.length := by
  have hlen := congrArg List.length (eq_of_beq h)
  simp only [lowered, List.length_map, List.length_take] at hlen
  omega

/-- A text that a direction mark starts is at least as long. -/
theorem length_le_of_startsWithMark {s : List Char} (h : startsWithMark s = true) :
    2 ≤ s.length := by
  rcases s with - | ⟨a, - | ⟨b, s⟩⟩
  · exact absurd h (by decide)
  · simp [startsWithMark, backwardMark, forwardMark] at h
  · simp

theorem cutTable_onTails (e : Element) (rest : List Char → Option Cuts) (s : List Char) :
    e.cutTable s (onTails rest s) = onTails (choose e.lengths rest) s := by
  induction e with
  | literal text => exact fixed_onTails (fun _ => length_le_of_startsWith) rest s
  | word => exact run_onTails _ rest s
  | number => exact run_onTails _ rest s
  | wordOrNumber =>
    simp only [cutTable, run_onTails]
    exact either_onTails _ _ rest s
  | direction => exact fixed_onTails (fun _ => length_le_of_startsWithMark) rest s
  | freeText => exact run_onTails _ rest s
  | optional inner ih =>
    simp only [cutTable, ih, skip_onTails]
    exact either_onTails _ _ rest s

theorem spacedTable_onTails (e : Element) (rest : List Char → Option Cuts) (s : List Char) :
    space s (e.cutTable s (onTails rest s)) = onTails (choose e.lengthsAfterSpace rest) s := by
  rw [cutTable_onTails]
  exact space_onTails e.lengths rest s

theorem placedTable_onTails (first : Bool) (e : Element) (rest : List Char → Option Cuts)
    (s : List Char) :
    e.placedTable first s (onTails rest s) = onTails (choose (e.stretches first) rest) s := by
  cases e with
  | optional inner =>
    simp only [placedTable, spacedTable_onTails, skip_onTails]
    exact either_onTails _ _ rest s
  | _ =>
    cases first
    · exact spacedTable_onTails _ rest s
    · exact cutTable_onTails _ rest s

end Element

/-- The table holds the cuts of every tail. -/
theorem cutTable_eq (first : Bool) (es : List Element) (s : List Char) :
    cutTable first es s = onTails (cuts? first es) s := by
  induction es generalizing first with
  | nil => rfl
  | cons e es ih =>
    rw [cutTable, ih, Element.placedTable_onTails]
    rfl

/-- The cuts of a line, found by table, are its cuts. -/
theorem whole_cutTable (first : Bool) (es : List Element) (s : List Char) :
    (cutTable first es s).whole = cuts? first es s := by
  rw [cutTable_eq, CutTable.whole_onTails]

end TextDesk
