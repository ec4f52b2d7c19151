import TextDesk.Grammar.Element

/-! # Matching a line against elements

A list of elements matches a whole line or does not match it.  The first element stands at the start
of the line; every later one, and every optional one, brings its own leading space.  An element takes
as much as it can; if the rest of the line then does not fit, it takes less.  A match is described by
its cuts, that is, how many characters each element takes, and yields one capture for each
placeholder: the characters it took, or nothing if it was left out.
-/

namespace TextDesk

/-- The numbers from `n` down to 1. -/
def countdown : Nat → List Nat
  | 0 => []
  | n + 1 => (n + 1) :: countdown n

/-- The numbers counted down are those from 1 to `n`. -/
theorem mem_countdown {n k : Nat} : k ∈ countdown n ↔ 1 ≤ k ∧ k ≤ n := by
  induction n with
  | zero => simp [countdown]; omega
  | succ n ih => simp only [countdown, List.mem_cons, ih]; omega

/-- Counting down from `n + 1` is counting down from `n`, one higher, and then to 1. -/
theorem countdown_succ (n : Nat) : countdown (n + 1) = (countdown n).map (· + 1) ++ [1] := by
  induction n with
  | zero => rfl
  | succ n ih => simpa [countdown] using ih

/-- How many characters each element takes of a line, in order. -/
abbrev Cuts := List Nat

namespace Element

/-! ## What an element can take -/

/-- Whether the text stands at the start of `s`, in any ASCII case. -/
def startsWith (text : List Char) (s : List Char) : Bool :=
  lowered (s.take text.length) == lowered text

/-- Whether a direction mark stands at the start of `s`. -/
def startsWithMark (s : List Char) : Bool :=
  s.take 2 == backwardMark.toList || s.take 2 == forwardMark.toList

/-- How many characters at the start of `s` the element can take, in order of preference. -/
def lengths : Element → List Char → List Nat
  | literal text, s => if startsWith text.toList s then [text.toList.length] else []
  | word, s => countdown (s.takeWhile (!isBlank ·)).length
  | number, s => countdown (s.takeWhile Char.isDigit).length
  | wordOrNumber, s =>
    countdown (s.takeWhile Char.isDigit).length ++ countdown (s.takeWhile (!isBlank ·)).length
  | direction, s => if startsWithMark s then [2] else []
  | freeText, s => countdown (s.takeWhile (· ≠ '\n')).length
  | optional inner, s => inner.lengths s ++ [0]

/-- The lengths of `e` behind a leading space, the space counted in. -/
def lengthsAfterSpace (e : Element) : List Char → List Nat
  | ' ' :: s => (e.lengths s).map (· + 1)
  | _ => []

/-- How many characters the element can take at its place in a line, its leading space counted in. -/
def stretches (first : Bool) : Element → List Char → List Nat
  | optional inner, s => inner.lengthsAfterSpace s ++ [0]
  | e, s => if first then e.lengths s else e.lengthsAfterSpace s

/-! ## What an element captures -/

/-- The captures of an element that took `taken`: none for a fixed text, one for a placeholder. -/
def captures : Element → List Char → List (Option String)
  | literal _, _ => []
  | optional inner, taken => inner.captures taken
  | _, taken => [if taken.isEmpty then none else some (String.ofList taken)]

/-- Whether the element brings a leading space: all do but a required first one. -/
def leadsWithSpace (first : Bool) (e : Element) : Bool := !first || e.isOptional

/-- The captures of an element that took `taken` at its place, its leading space included. -/
def capturesAt (first : Bool) (e : Element) (taken : List Char) : List (Option String) :=
  e.captures (if e.leadsWithSpace first then taken.drop 1 else taken)

end Element

/-! ## Whole lines -/

/-- The cuts of a line that the elements match as a whole.

The elements take their preferred lengths from left to right; where that leaves a line that does
not fit, the last element with another choice takes its next one. -/
def cuts? (first : Bool) : List Element → List Char → Option Cuts
  | [], s => if s.isEmpty then some [] else none
  | e :: es, s => (e.stretches first s).findSome? fun n => (cuts? false es (s.drop n)).map (n :: ·)

/-- The captures of a line that is cut in a given way. -/
def capturesAlong (first : Bool) : List Element → Cuts → List Char → List (Option String)
  | e :: es, n :: ns, s =>
    e.capturesAt first (s.take n) ++ capturesAlong false es ns (s.drop n)
  | _, _, _ => []

end TextDesk
