import TextDesk.Proofs.Folding
import TextDesk.Proofs.Grammar.Placeholders

/-! # The pattern of a grammar

A grammar is written as a pattern in the usual notation: letters in any case, classes of characters, groups
that capture, choices and optional parts.  Here such patterns are trees, with the text in which they are
written, and with all ways to match the front of a line, in order of preference: a run is as long as it can
be, a choice tries its first part first, and an optional part is left out last.  The first of the ways that
reaches the end of the line is its match, and tells the captures.  Main statement:
`Grammar.pattern_tells_captures`, by which the written pattern of a grammar is that of its tree, and the
captures of a line are those of the tree's match.
-/

namespace TextDesk

/-! ## Patterns as trees -/

/-- A class of characters. -/
inductive CharClass where
  /-- Every character that is not blank. -/
  | nonBlank
  /-- The ASCII digits. -/
  | digit
  /-- Every character but the line feed. -/
  | onLine

namespace CharClass

/-- How the class is written. -/
def text : CharClass → String
  | nonBlank => "\\S"
  | digit => "[0-9]"
  | onLine => "."

/-- Whether a character belongs to the class. -/
def holds : CharClass → Char → Bool
  | nonBlank, c => !isBlank c
  | digit, c => c.isDigit
  | onLine, c => c ≠ '\n'

end CharClass

/-- A pattern in which letters stand for both their cases. -/
inductive Pattern where
  /-- Nothing. -/
  | empty
  /-- A text in any ASCII case. -/
  | asciiText (t : String)
  /-- A text in any case at all. -/
  | text (t : String)
  /-- One or more characters of a class. -/
  | run (kind : CharClass)
  /-- One pattern behind the other. -/
  | append (first second : Pattern)
  /-- A group that captures what the inner pattern takes. -/
  | group (inner : Pattern)
  /-- A group that captures what one of the patterns takes. -/
  | choice (first second : Pattern)
  /-- The inner pattern or nothing. -/
  | optional (inner : Pattern)

namespace Pattern

/-- How the pattern is written, where letters stand for both their cases. -/
def render : Pattern → String
  | empty => ""
  | asciiText t => "(?-u:" ++ Element.escape t ++ ")"
  | text t => Element.escape t
  | run kind => kind.text ++ "+"
  | append first second => first.render ++ second.render
  | group inner => "(" ++ inner.render ++ ")"
  | choice first second => "(" ++ first.render ++ "|" ++ second.render ++ ")"
  | optional inner => "(?:" ++ inner.render ++ ")?"

/-- How many groups capture. -/
def groups : Pattern → Nat
  | empty | asciiText _ | text _ | run _ => 0
  | append first second => first.groups + second.groups
  | group inner => inner.groups + 1
  | choice first second => first.groups + second.groups + 1
  | optional inner => inner.groups

/-- A way to match the front of a line: how many characters it takes, and what each group captures, if it
takes part. -/
abbrev Way := Nat × List (Option String)

/-- The captures of groups that take no part. -/
def unused (p : Pattern) : List (Option String) := List.replicate p.groups none

/-- Whether a text stands at the start of a line, in which a letter may be another that is the same. -/
def standsAt (same : Char → Char → Bool) : List Char → List Char → Bool
  | [], _ => true
  | _ :: _, [] => false
  | c :: cs, d :: s => same c d && standsAt same cs s

/-- The lengths of the runs of a class at the start of a line, the longest first. -/
def runLengths (kind : CharClass) : List Char → List Nat
  | [] => []
  | c :: s => if kind.holds c then (runLengths kind s).map (· + 1) ++ [1] else []

/-- The ways to match the front of a line, in order of preference. -/
def ways : Pattern → List Char → List Way
  | empty, _ => [(0, [])]
  | asciiText t, s =>
    if standsAt (fun c d => c.toLower == d.toLower) t.toList s then [(t.toList.length, [])] else []
  | text t, s => if standsAt sameLetter t.toList s then [(t.toList.length, [])] else []
  | run kind, s => (runLengths kind s).map (·, [])
  | append first second, s =>
    (first.ways s).flatMap fun (n, captures) =>
      (second.ways (s.drop n)).map fun (m, more) => (n + m, captures ++ more)
  | group inner, s =>
    (inner.ways s).map fun (n, captures) => (n, some (String.ofList (s.take n)) :: captures)
  | choice first second, s =>
    (first.ways s).map (fun (n, captures) =>
        (n, some (String.ofList (s.take n)) :: (captures ++ second.unused)))
      ++ (second.ways s).map fun (n, captures) =>
        (n, some (String.ofList (s.take n)) :: (first.unused ++ captures))
  | optional inner, s => inner.ways s ++ [(0, inner.unused)]

/-- The captures of a line that the pattern matches as a whole. -/
def match? (p : Pattern) (line : String) : Option (List (Option String)) :=
  ((p.ways line.toList).find? fun way => way.1 = line.toList.length).map Prod.snd

end Pattern

/-! ## Elements as patterns -/

/-- The pattern of an element. -/
def Element.toPattern : Element → Pattern
  | literal text => .asciiText text
  | word => .group (.run .nonBlank)
  | number => .group (.run .digit)
  | wordOrNumber => .choice (.run .digit) (.run .nonBlank)
  | direction => .choice (.text backwardMark) (.text forwardMark)
  | freeText => .group (.run .onLine)
  | optional inner => .optional inner.toPattern

/-- The pattern of an element at its place, its leading space included. -/
def Element.placedPattern (first : Bool) : Element → Pattern
  | optional inner => .optional (.append (.text " ") inner.toPattern)
  | e => if first then e.toPattern else .append (.text " ") e.toPattern

/-- The pattern of the elements from some place on. -/
def linePattern (first : Bool) : List Element → Pattern
  | [] => .empty
  | e :: es => .append (e.placedPattern first) (linePattern false es)

/-- The pattern of an element is written as its tree is. -/
theorem Element.render_toPattern (e : Element) : e.toPattern.render = e.fragment := by
  induction e with
  | optional inner ih => simp [toPattern, Pattern.render, fragment, ih]
  | _ => rfl

/-- At its place, too. -/
theorem Grammar.render_placedPattern (first : Bool) (e : Element) :
    (e.placedPattern first).render = placedFragment first e := by
  have hspaced (e : Element) : (Pattern.append (.text " ") e.toPattern).render = " " ++ e.fragment := by
    rw [Pattern.render, Element.render_toPattern]
    rfl
  cases e with
  | optional inner =>
    rw [Element.placedPattern, Pattern.render, hspaced]
    rfl
  | _ =>
    cases first
    · exact hspaced _
    · exact Element.render_toPattern _

/-- The pattern of a line is written one element behind the other. -/
theorem Grammar.render_linePattern (first : Bool) (es : List Element) :
    (linePattern first es).render = patternFrom first es := by
  induction es generalizing first with
  | nil => rfl
  | cons e es ih => rw [linePattern, Pattern.render, Grammar.render_placedPattern, ih, patternFrom]

/-! ## Ways to take an element -/

namespace Pattern

/-- A text in any ASCII case stands at the start of a line if the line starts with it. -/
theorem standsAt_toLower (cs s : List Char) :
    standsAt (fun c d => c.toLower == d.toLower) cs s = Element.startsWith cs s := by
  unfold Element.startsWith
  induction cs generalizing s with
  | nil => simp [standsAt]
  | cons c cs ih =>
    cases s with
    | nil => simp [standsAt, lowered]
    | cons d s =>
      have hrest := ih s
      simp only [lowered] at hrest
      simp [standsAt, lowered, hrest, Bool.beq_comm]

/-- Signs in front of the capital letters stand at the start of a line only as they are. -/
theorem standsAt_sameLetter {cs : List Char} (hsigns : ∀ c ∈ cs, c.toNat < 0x41) (s : List Char) :
    standsAt sameLetter cs s = (s.take cs.length == cs) := by
  induction cs generalizing s with
  | nil => simp [standsAt]
  | cons c cs ih =>
    rcases List.forall_mem_cons.1 hsigns with ⟨hlt, hrest⟩
    cases s with
    | nil => simp [standsAt]
    | cons d s => simp [standsAt, sameLetter_eq_beq hlt, ih hrest, Bool.beq_comm]

/-- A run is as long as it can be, and then shorter by one each time. -/
theorem runLengths_eq (kind : CharClass) (s : List Char) :
    runLengths kind s = countdown (s.takeWhile kind.holds).length := by
  induction s with
  | nil => rfl
  | cons c s ih =>
    cases hc : kind.holds c with
    | false => simp [runLengths, hc, countdown]
    | true => simp [runLengths, hc, ih, countdown_succ]

end Pattern

namespace Element

/-- The pattern of an element has a group for each placeholder. -/
theorem groups_toPattern (e : Element) : e.toPattern.groups = e.placeholders := by
  induction e with
  | optional inner ih => exact ih
  | _ => rfl

/-- The groups of an element that is left out capture nothing. -/
theorem unused_toPattern (e : Element) : e.toPattern.unused = e.captures [] := by
  rw [Pattern.unused, groups_toPattern, captures_nil]

/-- A required element captures what it takes. -/
theorem ways_of_required {e : Element} (hreq : e.isOptional = false) (s : List Char) :
    (e.lengths s).map (fun n => (n, e.captures (s.take n)))
      = (e.lengths s).map fun n => (n, List.replicate e.placeholders (some (String.ofList (s.take n)))) := by
  refine List.map_congr_left ?_
  intro n hn
  rw [captures_of_denotes hreq (mem_lengths.1 hn).2]

/-- The ways of an element's pattern are the lengths the element can take, in the same order, with what it
captures of them. -/
theorem ways_toPattern (e : Element) (s : List Char) :
    e.toPattern.ways s = (e.lengths s).map fun n => (n, e.captures (s.take n)) := by
  induction e with
  | literal text =>
    simp only [toPattern, Pattern.ways, Pattern.standsAt_toLower, lengths]
    split <;> rfl
  | direction =>
    have hbackward : ∀ c ∈ backwardMark.toList, c.toNat < 0x41 := by simp [backwardMark]
    have hforward : ∀ c ∈ forwardMark.toList, c.toNat < 0x41 := by simp [forwardMark]
    have hb : backwardMark.toList.length = 2 := by decide
    have hf : forwardMark.toList.length = 2 := by decide
    rw [ways_of_required rfl]
    simp only [toPattern, Pattern.ways, Pattern.standsAt_sameLetter hbackward,
      Pattern.standsAt_sameLetter hforward, lengths, startsWithMark, hb, hf]
    by_cases hmark : s.take 2 = backwardMark.toList
    · -- a line does not start with both marks
      have hother : backwardMark.toList ≠ forwardMark.toList := by decide
      simp [hmark, hother, placeholders, Pattern.unused, Pattern.groups]
    · simp only [beq_eq_false_iff_ne.2 hmark]
      cases s.take 2 == forwardMark.toList <;> rfl
  | optional inner ih =>
    simp [toPattern, Pattern.ways, ih, unused_toPattern, lengths, captures]
  | wordOrNumber =>
    rw [ways_of_required rfl]
    simp only [toPattern, Pattern.ways, Pattern.runLengths_eq, lengths, List.map_append, List.map_map]
    rfl
  | _ =>
    rw [ways_of_required rfl]
    simp only [toPattern, Pattern.ways, Pattern.runLengths_eq, lengths, List.map_map]
    rfl

/-- Behind a space, the captures leave the space out. -/
theorem ways_spaced (e : Element) (s : List Char) :
    (Pattern.append (.text " ") e.toPattern).ways s
      = (e.lengthsAfterSpace s).map fun n => (n, e.captures ((s.take n).drop 1)) := by
  have hspace : ∀ c ∈ " ".toList, c.toNat < 0x41 := by simp
  simp only [Pattern.ways, Pattern.standsAt_sameLetter hspace, ways_toPattern]
  cases s with
  | nil => rfl
  | cons c s =>
    by_cases hc : c = ' '
    · subst hc
      simp [lengthsAfterSpace, Nat.add_comm]
    · have hnone : e.lengthsAfterSpace (c :: s) = [] := by
        unfold lengthsAfterSpace
        split
        · next h => exact absurd (List.cons.inj h).1 hc
        · rfl
      simp [hnone, hc]

/-- The ways of an element at its place are the stretches it can take there, in the same order. -/
theorem ways_placedPattern (first : Bool) (e : Element) (s : List Char) :
    (e.placedPattern first).ways s
      = (e.stretches first s).map fun n => (n, e.capturesAt first (s.take n)) := by
  cases e with
  | optional inner =>
    have hleads : (optional inner).leadsWithSpace first = true := by simp [leadsWithSpace, isOptional]
    have hunused : (Pattern.append (.text " ") inner.toPattern).unused = inner.captures [] := by
      rw [← unused_toPattern, Pattern.unused, Pattern.groups]
      simp [Pattern.unused, Pattern.groups]
    rw [placedPattern, Pattern.ways, ways_spaced, hunused, stretches, List.map_append]
    simp only [capturesAt, hleads]
    rfl
  | _ =>
    cases first
    · exact ways_spaced _ s
    · exact ways_toPattern _ s

end Element

/-! ## Whole lines -/

/-- Ways put behind a stretch of `n` characters reach the end of the line if they reach the end of what is
behind the stretch. -/
theorem Pattern.find?_behind {s : List Char} {n : Nat} (hle : n ≤ s.length) (taken : List (Option String))
    (ways : List Way) :
    ((ways.map fun (m, more) => (n + m, taken ++ more)).find? fun way => way.1 = s.length).map Prod.snd
      = ((ways.find? fun way => way.1 = (s.drop n).length).map Prod.snd).map (taken ++ ·) := by
  have hend : ∀ m, n + m = s.length ↔ m = (s.drop n).length := by
    intro m
    rw [List.length_drop]
    omega
  rw [List.find?_map]
  simp only [Option.map_map, Function.comp_def, hend]

/-- The first way that takes the whole line has the captures along the first cuts. -/
theorem find?_ways_linePattern (first : Bool) (es : List Element) (s : List Char) :
    (((linePattern first es).ways s).find? fun way => way.1 = s.length).map Prod.snd
      = (cuts? first es s).map (capturesAlong first es · s) := by
  induction es generalizing first s with
  | nil => cases s <;> simp [linePattern, Pattern.ways, cuts?, capturesAlong]
  | cons e es ih =>
    -- each stretch of the first element leads to the same, in the pattern and in the cuts
    have hrest : ∀ n ∈ e.stretches first s,
        ((((linePattern false es).ways (s.drop n)).map fun (m, more) =>
            (n + m, e.capturesAt first (s.take n) ++ more)).find? fun way => way.1 = s.length).map Prod.snd
          = ((cuts? false es (s.drop n)).map (n :: ·)).map (capturesAlong first (e :: es) · s) := by
      intro n hn
      rw [Pattern.find?_behind (Element.mem_stretches.1 hn).1, ih, Option.map_map, Option.map_map]
      rfl
    have hall := congrArg (List.findSome? id) (List.map_congr_left hrest)
    rw [List.findSome?_map, List.findSome?_map] at hall
    rw [linePattern, Pattern.ways, Element.ways_placedPattern, List.flatMap_map, List.find?_flatMap,
      List.map_findSome?, cuts?, List.map_findSome?]
    exact hall

namespace Grammar

/-- The pattern of a grammar's lines, between the start and the end of a line. -/
def toPattern (g : Grammar) : Pattern := linePattern true g.elements

/-- The written pattern of a grammar is that of its tree, and a line that the tree matches as a whole has the
captures of that match. -/
theorem pattern_tells_captures (g : Grammar) (line : String) :
    g.pattern = "(?i)^" ++ g.toPattern.render ++ "$" ∧ g.captures? line = g.toPattern.match? line := by
  constructor
  · rw [pattern, toPattern, render_linePattern]
  · rw [captures?_eq, Pattern.match?, toPattern, find?_ways_linePattern]

end Grammar

end TextDesk
