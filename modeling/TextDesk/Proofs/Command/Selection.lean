import Mathlib.Data.List.Pairwise
import TextDesk.Proofs.Grammar.Positional

/-! # Which grammar a line selects

In a command set whose grammars are positional and have different keywords, the first word of a line
selects the only grammar whose form the line can have.  So the order in which the grammars are tried
does not matter:

* `CommandSet.select?_eq_some_iff`: a word selects the one grammar that answers to it;
* `CommandSet.command?_eq_some_iff`: a line gives a command exactly if its words fit some grammar and
  the command is made of what that grammar captures of them.
-/

namespace TextDesk

namespace Grammar

/-- Whether a word is the keyword, in any ASCII case. -/
def answersTo (g : Grammar) (w : String) : Bool := g.keyword?.any (sameName · w)

theorem answersTo_iff {g : Grammar} {w : String} :
    g.answersTo w = true ↔ ∃ k, g.keyword? = some k ∧ sameName k w = true := by
  rw [answersTo]
  cases g.keyword? <;> simp

/-- The first of the words that fit a positional grammar is its keyword. -/
theorem exists_answersTo_of_fits {g : Grammar} {ws : List String} (hg : g.IsPositional)
    (h : fits g.elements ws = true) : ∃ w rest, ws = w :: rest ∧ g.answersTo w = true := by
  rcases hg with ⟨text, es, hels, -, -⟩
  rw [hels] at h
  cases ws with
  | nil => simp [fits, Element.isOptional] at h
  | cons w rest =>
    simp only [fits, Element.absorbsRest, Bool.false_eq_true, if_false, Bool.and_eq_true] at h
    refine ⟨w, rest, rfl, answersTo_iff.2 ⟨text, by simp [keyword?, hels], ?_⟩⟩
    rw [sameName_comm]
    exact h.1

end Grammar

namespace CommandSet

/-- Every grammar is positional, and no two have the same keyword. -/
structure IsKeyed (set : CommandSet) : Prop where
  positional : ∀ g ∈ set.grammars, g.IsPositional
  distinct : set.grammars.Pairwise fun g h =>
    ∀ k ∈ g.keyword?, ∀ l ∈ h.keyword?, sameName k l = false

variable {set : CommandSet}

/-- At most one grammar answers to a word. -/
theorem eq_of_answersTo (hset : set.IsKeyed) {g h : Grammar} (hg : g ∈ set.grammars)
    (hh : h ∈ set.grammars) {w : String} (hgw : g.answersTo w = true)
    (hhw : h.answersTo w = true) : g = h := by
  rcases Grammar.answersTo_iff.1 hgw with ⟨k, hk, hkw⟩
  rcases Grammar.answersTo_iff.1 hhw with ⟨l, hl, hlw⟩
  by_contra hne
  have hsymm : Std.Symm fun g h : Grammar =>
      ∀ k ∈ g.keyword?, ∀ l ∈ h.keyword?, sameName k l = false := by
    constructor
    intro g h hgh k hk l hl
    rw [sameName_comm, hgh l hl k hk]
  have hdiff := hset.distinct.forall hg hh hne k hk l hl
  rw [sameName_of_both hkw hlw] at hdiff
  cases hdiff

/-- The grammar that a word selects answers to it. -/
theorem of_select?_eq_some {w : String} {g : Grammar} (h : set.select? w = some g) :
    g ∈ set.grammars ∧ g.answersTo w = true := by
  have hfind : set.grammars.find? (fun g => g.answersTo w) = some g := h
  have hanswers := List.find?_some hfind
  exact ⟨List.mem_of_find?_eq_some hfind, hanswers⟩

/-- A word selects the grammar that answers to it. -/
theorem select?_eq_some_iff (hset : set.IsKeyed) {w : String} {g : Grammar} :
    set.select? w = some g ↔ g ∈ set.grammars ∧ g.answersTo w = true := by
  refine ⟨of_select?_eq_some, ?_⟩
  rintro ⟨hg, hgw⟩
  have hsome : (set.select? w).isSome = true := List.find?_isSome.2 ⟨g, hg, hgw⟩
  rcases Option.isSome_iff_exists.1 hsome with ⟨h, hh⟩
  rcases of_select?_eq_some hh with ⟨hmem, hhw⟩
  rw [hh, eq_of_answersTo hset hg hmem hgw hhw]

/-- A keyword is a word. -/
theorem isWord_of_mem_keywords (hset : set.IsKeyed) {k : String} (hk : k ∈ set.keywords) :
    IsWord k.toList := by
  rcases List.mem_filterMap.1 hk with ⟨g, hg, hgk⟩
  rcases hset.positional g hg with ⟨text, es, hels, htext, -⟩
  obtain rfl : text = k := by simpa [Grammar.keyword?, hels] using hgk
  exact htext

/-- A keyword selects the grammar that has it. -/
theorem exists_select?_of_mem_keywords (hset : set.IsKeyed) {k : String} (hk : k ∈ set.keywords) :
    ∃ g ∈ set.grammars, g.keyword? = some k ∧ set.select? k = some g := by
  rcases List.mem_filterMap.1 hk with ⟨g, hg, hgk⟩
  have hanswers : g.answersTo k = true := Grammar.answersTo_iff.2 ⟨k, hgk, sameName_refl k⟩
  exact ⟨g, hg, hgk, (select?_eq_some_iff hset).2 ⟨hg, hanswers⟩⟩

/-- Words fit at most one grammar. -/
theorem eq_of_fits (hset : set.IsKeyed) {g h : Grammar} (hg : g ∈ set.grammars)
    (hh : h ∈ set.grammars) {ws : List String} (hgw : fits g.elements ws = true)
    (hhw : fits h.elements ws = true) : g = h := by
  rcases Grammar.exists_answersTo_of_fits (hset.positional g hg) hgw with ⟨w, rest, rfl, hw⟩
  rcases Grammar.exists_answersTo_of_fits (hset.positional h hh) hhw with ⟨v, rest', hv, hhv⟩
  rcases List.cons.inj hv with ⟨rfl, -⟩
  exact eq_of_answersTo hset hg hh hw hhv

/-- A line gives a command exactly if its words fit a grammar that makes the command of them. -/
theorem command?_eq_some_iff (hset : set.IsKeyed) {line : String} {c : Command} :
    set.command? line = some c ↔ ∃ g ∈ set.grammars, fits g.elements (lineWords line) = true
      ∧ Command.ofCaptures? g.kind (wordCaptures g.elements (lineWords line)) = some c := by
  have hcommand (g : Grammar) (hg : g ∈ set.grammars) (c : Command) :
      (g.captures? (normalize line)).bind (Command.ofCaptures? g.kind) = some c
        ↔ fits g.elements (lineWords line) = true
          ∧ Command.ofCaptures? g.kind (wordCaptures g.elements (lineWords line)) = some c := by
    rw [Grammar.captures?_normalize (hset.positional g hg)]
    split <;> simp_all
  constructor
  · intro h
    rcases List.exists_of_findSome?_eq_some h with ⟨g, hg, hc⟩
    exact ⟨g, hg, (hcommand g hg c).1 hc⟩
  · rintro ⟨g, hg, hgc⟩
    have hsome : (set.command? line).isSome = true :=
      List.findSome?_isSome_iff.2 ⟨g, hg, by rw [(hcommand g hg c).2 hgc]; rfl⟩
    rcases Option.isSome_iff_exists.1 hsome with ⟨d, hd⟩
    rcases List.exists_of_findSome?_eq_some hd with ⟨h, hh, hhd⟩
    rw [hcommand h hh d] at hhd
    rcases eq_of_fits hset hg hh hgc.1 hhd.1 with rfl
    rw [hd, ← hhd.2, hgc.2]

/-! ## The standard commands -/

/-- The standard grammars are positional and have different keywords. -/
theorem isKeyed_standard : standard.IsKeyed := by
  constructor
  · intro g hg
    simp only [standard, List.mem_cons, List.not_mem_nil, or_false] at hg
    rcases hg with rfl | rfl | rfl | rfl | rfl | rfl <;>
    · refine ⟨_, _, rfl, by decide, ?_⟩
      repeat first
        | exact Positional.nil
        | exact Positional.last trivial
        | refine Positional.cons rfl trivial ?_
  · decide

end CommandSet

end TextDesk
