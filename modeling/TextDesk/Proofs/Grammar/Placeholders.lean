import TextDesk.Proofs.Grammar.Language

/-! # What placeholders capture

Every element but a fixed text is a placeholder, or an optional one around it.  A placeholder leaves one
capture: the text it stands for, or nothing if it is left out.  Main statement: a line has the form of a
grammar exactly if it can be divided into one piece for each element, and its captures are what the
placeholders stand for in such a division, so that the line can be put together from them.

The search for cuts prefers some divisions to others.  No statement here depends on which one it finds:
optional elements and several free texts may leave many.
-/

namespace TextDesk

namespace Element

/-- How many placeholders an element has. -/
def placeholders : Element → Nat
  | literal _ => 0
  | optional inner => inner.placeholders
  | _ => 1

/-- `e.StandsFor t captures`: the element stands for the text, and `captures` lists, for each of its
placeholders, the text it stands for, or nothing if it is left out. -/
inductive StandsFor : Element → List Char → List (Option String) → Prop where
  /-- A required element is not left out. -/
  | required {e : Element} {t : List Char} (hreq : e.isOptional = false) (h : e.Denotes t) :
      StandsFor e t (List.replicate e.placeholders (some (String.ofList t)))
  /-- An optional element may stand for what the inner one stands for. -/
  | present {inner : Element} {t : List Char} {captures : List (Option String)}
      (h : inner.StandsFor t captures) : StandsFor (optional inner) t captures
  /-- An optional element may be left out. -/
  | absent {inner : Element} : StandsFor (optional inner) [] (List.replicate inner.placeholders none)

/-- The same for an element at its place in a line: all but a required first one bring a space, which
no placeholder captures. -/
inductive StandsForAt (first : Bool) : Element → List Char → List (Option String) → Prop where
  /-- A required first element stands at the start of the line. -/
  | leading {e : Element} {t : List Char} {captures : List (Option String)} (hfirst : first = true)
      (hreq : e.isOptional = false) (h : e.StandsFor t captures) : StandsForAt first e t captures
  /-- A required later element stands behind a space. -/
  | spaced {e : Element} {t : List Char} {captures : List (Option String)} (hfirst : first = false)
      (hreq : e.isOptional = false) (h : e.StandsFor t captures) :
      StandsForAt first e (' ' :: t) captures
  /-- What an optional element holds stands behind a space. -/
  | present {inner : Element} {t : List Char} {captures : List (Option String)}
      (h : inner.StandsFor t captures) : StandsForAt first (optional inner) (' ' :: t) captures
  /-- An optional element that is left out brings no space. -/
  | absent {inner : Element} :
      StandsForAt first (optional inner) [] (List.replicate inner.placeholders none)

variable {e : Element} {t : List Char} {captures : List (Option String)} {first : Bool}

/-! ## One capture for each placeholder -/

theorem StandsFor.length_eq (h : e.StandsFor t captures) : captures.length = e.placeholders := by
  induction h with
  | required hreq h => exact List.length_replicate
  | present h ih => exact ih
  | absent => exact List.length_replicate

theorem StandsForAt.length_eq (h : e.StandsForAt first t captures) :
    captures.length = e.placeholders := by
  cases h with
  | leading _ _ h => exact h.length_eq
  | spaced _ _ h => exact h.length_eq
  | present h => exact h.length_eq
  | absent => exact List.length_replicate

/-! ## The captures of an element -/

/-- A placeholder that takes nothing is left out. -/
theorem captures_nil (e : Element) : e.captures [] = List.replicate e.placeholders none := by
  induction e with
  | optional inner ih => exact ih
  | _ => rfl

/-- What is not empty is captured by every placeholder of the element. -/
theorem captures_of_ne_nil (e : Element) (ht : t ≠ []) :
    e.captures t = List.replicate e.placeholders (some (String.ofList t)) := by
  induction e with
  | literal text => rfl
  | optional inner ih => exact ih
  | _ => simp [captures, placeholders, ht]

/-- A required placeholder does not stand for the empty text. -/
theorem ne_nil_of_denotes (hreq : e.isOptional = false) (hplace : e.placeholders ≠ 0)
    (h : e.Denotes t) : t ≠ [] := by
  cases e with
  | literal text => exact absurd rfl hplace
  | optional inner => cases hreq
  | direction => rcases h with rfl | rfl <;> decide
  | _ => exact h.1

/-- The captures of a text that a required element denotes. -/
theorem captures_of_denotes (hreq : e.isOptional = false) (h : e.Denotes t) :
    e.captures t = List.replicate e.placeholders (some (String.ofList t)) := by
  by_cases hplace : e.placeholders = 0
  · -- a fixed text captures nothing, even if it is empty
    cases e with
    | literal text => rfl
    | optional inner => cases hreq
    | _ => cases hplace
  · exact captures_of_ne_nil e (ne_nil_of_denotes hreq hplace h)

/-- The captures of a text that an element denotes are what its placeholders stand for. -/
theorem standsFor_captures (h : e.Denotes t) : e.StandsFor t (e.captures t) := by
  induction e with
  | optional inner ih =>
    rcases h with h | rfl
    · exact .present (ih h)
    · rw [captures_nil]
      exact .absent
  | _ =>
    rw [captures_of_denotes rfl h]
    exact .required rfl h

/-- The captures of a piece are what the placeholders of its element stand for, without the leading
space. -/
theorem standsForAt_capturesAt (h : e.DenotesAt first t) :
    e.StandsForAt first t (e.capturesAt first t) := by
  cases e with
  | optional inner =>
    have hspace : (optional inner).leadsWithSpace first = true := by
      simp [leadsWithSpace, isOptional]
    rw [capturesAt, hspace, if_pos rfl]
    rcases h with ⟨u, rfl, hu⟩ | rfl
    · exact .present (standsFor_captures hu)
    · have hnil : (optional inner).captures [] = List.replicate inner.placeholders none :=
        captures_nil (optional inner)
      rw [List.drop_nil, hnil]
      exact .absent
  | _ =>
    cases first with
    | true => exact .leading rfl rfl (standsFor_captures h)
    | false =>
      rcases h with ⟨u, rfl, hu⟩
      exact .spaced rfl rfl (standsFor_captures hu)

end Element

/-! ## The captures of a line -/

/-- How many placeholders elements have in all. -/
def countPlaceholders : List Element → Nat
  | [] => 0
  | e :: es => e.placeholders + countPlaceholders es

/-- The elements stand for the pieces, one each, and their placeholders, in order, for the captures. -/
inductive Reassembles : (first : Bool) → List Element → List (List Char) → List (Option String) → Prop
    where
  | nil {first : Bool} : Reassembles first [] [] []
  | cons {first : Bool} {e : Element} {es : List Element} {t : List Char} {ts : List (List Char)}
      {captures more : List (Option String)} (h : e.StandsForAt first t captures)
      (hrest : Reassembles false es ts more) :
      Reassembles first (e :: es) (t :: ts) (captures ++ more)

/-- There is one capture for each placeholder. -/
theorem Reassembles.length_eq {first : Bool} {es : List Element} {ts : List (List Char)}
    {captures : List (Option String)} (h : Reassembles first es ts captures) :
    captures.length = countPlaceholders es := by
  induction h with
  | nil => rfl
  | cons h hrest ih => rw [List.length_append, h.length_eq, ih, countPlaceholders]

/-- The captures of the pieces of a division are what the placeholders stand for. -/
theorem reassembles_pieceCaptures {first : Bool} {es : List Element} {ts : List (List Char)}
    (h : Divides first es ts) : Reassembles first es ts (pieceCaptures first es ts) := by
  induction es generalizing first ts with
  | nil =>
    cases ts with
    | nil => exact .nil
    | cons t ts => exact h.elim
  | cons e es ih =>
    cases ts with
    | nil => exact h.elim
    | cons t ts => exact .cons (Element.standsForAt_capturesAt h.1) (ih h.2)

namespace Grammar

/-- A line has the form of a grammar exactly if it can be divided into one piece for each element.  If it
has, then its captures, one for each placeholder, are what the placeholders stand for in some division of
the line. -/
theorem recognizes_and_reassembles (g : Grammar) (line : String) :
    (g.recognizes line = true ↔ ∃ ts, Divides true g.elements ts ∧ ts.flatten = line.toList)
      ∧ ∀ captures, g.captures? line = some captures →
        captures.length = countPlaceholders g.elements
          ∧ ∃ ts, Divides true g.elements ts ∧ ts.flatten = line.toList
            ∧ Reassembles true g.elements ts captures := by
  refine ⟨⟨?_, ?_⟩, ?_⟩
  · intro h
    rcases Option.isSome_iff_exists.1 h with ⟨captures, hcaptures⟩
    rcases exists_divides_of_captures? hcaptures with ⟨ts, hts, hline, -⟩
    exact ⟨ts, hts, hline⟩
  · rintro ⟨ts, hts, hline⟩
    exact isSome_captures? hts hline
  · intro captures hcaptures
    rcases exists_divides_of_captures? hcaptures with ⟨ts, hts, hline, rfl⟩
    have hreassembles := reassembles_pieceCaptures hts
    exact ⟨hreassembles.length_eq, ts, hts, hline, hreassembles⟩

/-- Of two free texts around a fixed one, the first takes as much as it can, and an optional number
behind them is left out. -/
theorem reassembles_of_several_free_texts : ∃ g : Grammar,
    g.elements = [.literal "note", .optional .freeText, .literal "to", .freeText,
        .optional (.optional .number)]
      ∧ g.captures? "NOTE a to b TO c 7" = some [some "a to b", some "c 7", none]
      ∧ ∃ ts, ts.flatten = "NOTE a to b TO c 7".toList
        ∧ Reassembles true g.elements ts [some "a to b", some "c 7", none] := by
  let g : Grammar :=
    { kind := .print
      elements := [.literal "note", .optional .freeText, .literal "to", .freeText,
        .optional (.optional .number)] }
  have hcaptures : g.captures? "NOTE a to b TO c 7" = some [some "a to b", some "c 7", none] := by
    decide +kernel
  rcases g.recognizes_and_reassembles "NOTE a to b TO c 7" with ⟨-, h⟩
  rcases h _ hcaptures with ⟨-, ts, -, hline, hreassembles⟩
  exact ⟨g, rfl, hcaptures, ts, hline, hreassembles⟩

end Grammar

end TextDesk
