import TextDesk.Grammar
import TextDesk.Proofs.Words

/-! # The language of a list of elements

An element denotes a set of texts, and a list of elements the lines that can be divided into one piece
for each element.  Cutting a line finds a division whenever there is one:

* `mem_lengths`: the lengths that an element can take are those of the texts it denotes;
* `divides_of_cuts?`, `isSome_cuts?`: a line has cuts exactly if it has a division;
* `Grammar.exists_divides_of_captures?`: the captures of a line are those of one of its divisions.
-/

namespace TextDesk

namespace Element

/-- The texts that an element denotes. -/
def Denotes : Element → List Char → Prop
  | literal text, t => lowered t = lowered text.toList
  | word, t | wordOrNumber, t => t ≠ [] ∧ ∀ c ∈ t, isBlank c = false
  | number, t => t ≠ [] ∧ ∀ c ∈ t, c.isDigit = true
  | direction, t => t = backwardMark.toList ∨ t = forwardMark.toList
  | freeText, t => t ≠ [] ∧ '\n' ∉ t
  | optional inner, t => inner.Denotes t ∨ t = []

/-- The texts that an element denotes behind a leading space. -/
def DenotesSpaced (e : Element) (t : List Char) : Prop := ∃ u, t = ' ' :: u ∧ e.Denotes u

/-- The texts that an element denotes at its place in a line, its leading space included. -/
def DenotesAt (first : Bool) : Element → List Char → Prop
  | optional inner, t => inner.DenotesSpaced t ∨ t = []
  | e, t => if first then e.Denotes t else e.DenotesSpaced t

/-! ## Lengths -/

/-- The lengths counted down from a stretch are those of the non-empty texts within it. -/
theorem mem_countdown_takeWhile {p : Char → Bool} {s : List Char} {n : Nat} :
    n ∈ countdown (s.takeWhile p).length
      ↔ n ≤ s.length ∧ s.take n ≠ [] ∧ ∀ c ∈ s.take n, p c = true := by
  rw [mem_countdown]
  induction s generalizing n with
  | nil => simp; omega
  | cons c s ih =>
    cases n with
    | zero => simp
    | succ n =>
      cases hp : p c with
      | false => simp [hp]
      | true =>
        cases n with
        | zero => simp [hp]
        | succ n =>
          have h := ih (n := n + 1)
          simp only [List.takeWhile_cons_of_pos hp, List.length_cons, List.take_succ_cons,
            List.mem_cons, forall_eq_or_imp, hp]
          cases s with
          | nil => simp
          | cons d s =>
            simp only [List.take_succ_cons, List.length_cons] at h ⊢
            simp only [ne_eq, reduceCtorEq, not_false_eq_true, true_and, Nat.le_add_left] at h ⊢
            constructor
            · intro hn
              have hrest := h.1 (by omega)
              exact ⟨by omega, hrest.2⟩
            · intro hn
              have hrest := h.2 ⟨by omega, hn.2⟩
              omega

/-- A stretch within a text is empty exactly if its length is zero. -/
theorem take_eq_nil_iff_of_le {s : List Char} {n : Nat} (hle : n ≤ s.length) :
    s.take n = [] ↔ n = 0 := by
  rw [← List.length_eq_zero_iff, List.length_take]
  omega

/-- The lengths that an element can take are those of the texts it denotes. -/
theorem mem_lengths {e : Element} {s : List Char} {n : Nat} :
    n ∈ e.lengths s ↔ n ≤ s.length ∧ e.Denotes (s.take n) := by
  induction e with
  | literal text =>
    simp only [lengths, Denotes]
    constructor
    · intro h
      cases hstart : startsWith text.toList s with
      | false => simp [hstart] at h
      | true =>
        obtain rfl : n = text.toList.length := by simpa [hstart] using h
        exact ⟨length_le_of_startsWith hstart, eq_of_beq hstart⟩
    · rintro ⟨hle, hlow⟩
      have hlen : n = text.toList.length := by
        have h := congrArg List.length hlow
        simp only [lowered, List.length_map, List.length_take] at h
        omega
      subst hlen
      have hstart : startsWith text.toList s = true := by simp [startsWith, hlow]
      simp [hstart]
  | word => simpa [lengths, Denotes] using mem_countdown_takeWhile (p := (!isBlank ·))
  | number => simpa [lengths, Denotes] using mem_countdown_takeWhile (p := Char.isDigit)
  | wordOrNumber =>
    simp only [lengths, List.mem_append, mem_countdown_takeWhile, Denotes]
    constructor
    · rintro (⟨hle, hne, hall⟩ | ⟨hle, hne, hall⟩)
      · -- a number is a word, so it adds no length of its own
        refine ⟨hle, hne, ?_⟩
        intro c hc
        exact isBlank_of_isDigit (hall c hc)
      · exact ⟨hle, hne, by simpa using hall⟩
    · rintro ⟨hle, hne, hall⟩
      exact Or.inr ⟨hle, hne, by simpa using hall⟩
  | direction =>
    simp only [lengths, Denotes]
    constructor
    · intro h
      cases hstart : startsWithMark s with
      | false => simp [hstart] at h
      | true =>
        obtain rfl : n = 2 := by simpa [hstart] using h
        exact ⟨length_le_of_startsWithMark hstart, by simpa [startsWithMark] using hstart⟩
    · rintro ⟨hle, hmark⟩
      have hlen : n = 2 := by
        rcases hmark with h | h <;>
        · have h' := congrArg List.length h
          simp [backwardMark, forwardMark] at h'
          omega
      subst hlen
      have hstart : startsWithMark s = true := by simpa [startsWithMark] using hmark
      simp [hstart]
  | freeText =>
    have h := mem_countdown_takeWhile (p := (· ≠ '\n')) (s := s) (n := n)
    simp only [lengths, Denotes, h]
    constructor
    · rintro ⟨hle, hne, hall⟩
      refine ⟨hle, hne, ?_⟩
      intro hmem
      simpa using hall _ hmem
    · rintro ⟨hle, hne, hall⟩
      refine ⟨hle, hne, ?_⟩
      intro c hc
      have hc' : c ≠ '\n' := by
        rintro rfl
        exact hall hc
      simpa using hc'
  | optional inner ih =>
    simp only [lengths, List.mem_append, ih, List.mem_singleton, Denotes]
    constructor
    · rintro (⟨hle, hden⟩ | rfl)
      · exact ⟨hle, Or.inl hden⟩
      · exact ⟨by omega, Or.inr (by simp)⟩
    · rintro ⟨hle, hden | hnil⟩
      · exact Or.inl ⟨hle, hden⟩
      · exact Or.inr ((take_eq_nil_iff_of_le hle).1 hnil)

theorem mem_lengthsAfterSpace {e : Element} {s : List Char} {n : Nat} :
    n ∈ e.lengthsAfterSpace s ↔ n ≤ s.length ∧ e.DenotesSpaced (s.take n) := by
  unfold lengthsAfterSpace
  split
  · next t =>
    simp only [List.mem_map, mem_lengths, DenotesSpaced]
    constructor
    · rintro ⟨m, ⟨hle, hden⟩, rfl⟩
      exact ⟨by simpa using hle, t.take m, by simp, hden⟩
    · rintro ⟨hle, u, hu, hden⟩
      cases n with
      | zero => simp at hu
      | succ n =>
        obtain rfl : t.take n = u := by simpa using hu
        exact ⟨n, ⟨by simpa using hle, hden⟩, rfl⟩
  · next hne =>
    simp only [List.not_mem_nil, false_iff, not_and]
    rintro - ⟨u, hu, -⟩
    cases n with
    | zero => simp at hu
    | succ n =>
      cases s with
      | nil => simp at hu
      | cons c s =>
        rcases List.cons.inj hu with ⟨rfl, -⟩
        exact hne s rfl

/-- The lengths that an element can take at its place are those of the texts it denotes there. -/
theorem mem_stretches {first : Bool} {e : Element} {s : List Char} {n : Nat} :
    n ∈ e.stretches first s ↔ n ≤ s.length ∧ e.DenotesAt first (s.take n) := by
  cases e with
  | optional inner =>
    simp only [stretches, List.mem_append, mem_lengthsAfterSpace, List.mem_singleton, DenotesAt]
    constructor
    · rintro (⟨hle, hden⟩ | rfl)
      · exact ⟨hle, Or.inl hden⟩
      · exact ⟨by omega, Or.inr (by simp)⟩
    · rintro ⟨hle, hden | hnil⟩
      · exact Or.inl ⟨hle, hden⟩
      · exact Or.inr ((take_eq_nil_iff_of_le hle).1 hnil)
  | _ =>
    -- every other element takes a space at a later place, and none at the first
    cases first
    · exact mem_lengthsAfterSpace
    · exact mem_lengths

/-- A text taken at a later place is empty or starts with a space. -/
theorem head_of_denotesAt {e : Element} {t : List Char} (h : e.DenotesAt false t) :
    t = [] ∨ ∃ u, t = ' ' :: u := by
  cases e with
  | optional inner =>
    rcases h with ⟨u, rfl, -⟩ | rfl
    · exact Or.inr ⟨u, rfl⟩
    · exact Or.inl rfl
  | _ =>
    rcases h with ⟨u, rfl, -⟩
    exact Or.inr ⟨u, rfl⟩

end Element

/-! ## Divisions -/

/-- The pieces are texts of the elements at their places, one for each. -/
def Divides (first : Bool) : List Element → List (List Char) → Prop
  | [], [] => True
  | e :: es, t :: ts => e.DenotesAt first t ∧ Divides false es ts
  | _, _ => False

/-- The captures of the elements from their pieces. -/
def pieceCaptures (first : Bool) : List Element → List (List Char) → List (Option String)
  | e :: es, t :: ts => e.capturesAt first t ++ pieceCaptures false es ts
  | _, _ => []

/-- Cuts of a line divide it into pieces. -/
theorem divides_of_cuts? {first : Bool} {es : List Element} {s : List Char} {ns : Cuts}
    (h : cuts? first es s = some ns) :
    ∃ ts, Divides first es ts ∧ ts.flatten = s
      ∧ capturesAlong first es ns s = pieceCaptures first es ts := by
  induction es generalizing first s ns with
  | nil =>
    cases s with
    | nil => exact ⟨[], trivial, rfl, by cases ns <;> rfl⟩
    | cons c s => simp [cuts?] at h
  | cons e es ih =>
    rcases List.exists_of_findSome?_eq_some h with ⟨n, hn, hrest⟩
    rcases Option.map_eq_some_iff.1 hrest with ⟨ms, hms, rfl⟩
    rcases ih hms with ⟨ts, hts, hflat, hcaps⟩
    have hden := (Element.mem_stretches.1 hn).2
    refine ⟨s.take n :: ts, ⟨hden, hts⟩, ?_, ?_⟩
    · rw [List.flatten_cons, hflat, List.take_append_drop]
    · rw [capturesAlong, pieceCaptures, hcaps]

/-- A line that can be divided has cuts. -/
theorem isSome_cuts? {first : Bool} {es : List Element} {ts : List (List Char)}
    (h : Divides first es ts) : (cuts? first es ts.flatten).isSome = true := by
  induction es generalizing first ts with
  | nil =>
    cases ts with
    | nil => rfl
    | cons t ts => exact h.elim
  | cons e es ih =>
    cases ts with
    | nil => exact h.elim
    | cons t ts =>
      rcases h with ⟨hden, hrest⟩
      -- the length of the first piece is one that the search tries
      have hmem : t.length ∈ e.stretches first (t ++ ts.flatten) :=
        Element.mem_stretches.2 ⟨by simp, by simpa using hden⟩
      rw [cuts?, List.flatten_cons, List.findSome?_isSome_iff]
      exact ⟨t.length, hmem, by simpa using ih hrest⟩

/-- The pieces at later places start with a space, as far as they are not empty. -/
theorem head?_flatten_of_divides {es : List Element} {ts : List (List Char)}
    (h : Divides false es ts) : ∀ c ∈ ts.flatten.head?, c = ' ' := by
  induction es generalizing ts with
  | nil =>
    cases ts with
    | nil => simp
    | cons t ts => exact h.elim
  | cons e es ih =>
    cases ts with
    | nil => exact h.elim
    | cons t ts =>
      rcases Element.head_of_denotesAt h.1 with rfl | ⟨u, rfl⟩
      · simpa using ih h.2
      · simp

namespace Grammar

/-- The captures of a line are those of a division of it. -/
theorem exists_divides_of_captures? {g : Grammar} {line : String} {captures : List (Option String)}
    (h : g.captures? line = some captures) :
    ∃ ts, Divides true g.elements ts ∧ ts.flatten = line.toList
      ∧ captures = pieceCaptures true g.elements ts := by
  rw [captures?_eq] at h
  rcases Option.map_eq_some_iff.1 h with ⟨ns, hns, rfl⟩
  exact divides_of_cuts? hns

/-- A line that can be divided has captures. -/
theorem isSome_captures? {g : Grammar} {line : String} {ts : List (List Char)}
    (h : Divides true g.elements ts) (hline : ts.flatten = line.toList) :
    (g.captures? line).isSome = true := by
  rw [captures?_eq, Option.isSome_map, ← hline]
  exact isSome_cuts? h

end Grammar

end TextDesk
