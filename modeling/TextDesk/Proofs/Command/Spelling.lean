import TextDesk.Proofs.Command.Selection

/-! # The words of a command

`Command.Spelled` says word by word which lines give which command, and without patterns: a keyword in
any ASCII case, then one word for each part of the command.  Main statement: the matcher reads exactly
these lines, and the line that ends the session is none of them.
-/

namespace TextDesk

namespace Command

/-- The words of a line that give a command. -/
inductive Spelled : List String → Command → Prop where
  | inputArea {k n : String} (hk : sameName k "input" = true) : Spelled [k, n] (.input n none)
  | inputData {k n : String} {rest : List String} (hk : sameName k "input" = true)
      (hrest : rest ≠ []) : Spelled (k :: n :: rest) (.input n (some (" ".intercalate rest)))
  | format {k n : String} (hk : sameName k "format" = true) : Spelled [k, n] (.format n none)
  | formatBy {k n s : String} (hk : sameName k "format" = true) :
      Spelled [k, n, s] (.format n (some (s.toList.map String.singleton)))
  | cursor {k n t f g : String} {ahead : Bool} (hk : sameName k "cursor" = true) :
      Spelled [k, n, t, f, directionMark ahead, g]
        (.cursor n t (.ofToken f) ahead (.ofToken g))
  | send {k a b : String} (hk : sameName k "send" = true) : Spelled [k, a, b] (.send a b)
  | print {k : String} (hk : sameName k "print" = true) : Spelled [k] (.print none)
  | printNamed {k n : String} (hk : sameName k "print" = true) : Spelled [k, n] (.print (some n))

/-- A direction mark says which direction it is the mark of. -/
theorem directionMark_beq_forwardMark (ahead : Bool) :
    (directionMark ahead == forwardMark) = ahead := by
  cases ahead <;> decide

/-- The words that are accepted as directions are the direction marks. -/
theorem accepts_direction_iff {w : String} :
    Element.direction.accepts w = true ↔ ∃ ahead, w = directionMark ahead := by
  simp only [Element.accepts, Bool.or_eq_true, beq_iff_eq]
  constructor
  · rintro (rfl | rfl)
    · exact ⟨true, rfl⟩
    · exact ⟨false, rfl⟩
  · rintro ⟨ahead, rfl⟩
    cases ahead
    · exact Or.inr rfl
    · exact Or.inl rfl

variable {ws : List String} {c : Command}

/-- Words that fit a standard grammar, that of the end of the session apart, give a command. -/
theorem exists_spelled_of_fits {g : Grammar} (hg : g ∈ CommandSet.standard.grammars)
    (hkind : g.kind ≠ .quit) (h : fits g.elements ws = true) : ∃ c, Spelled ws c := by
  simp only [CommandSet.standard, List.mem_cons, List.not_mem_nil, or_false] at hg
  rcases hg with rfl | rfl | rfl | rfl | rfl | rfl
  · -- input: the rest of the line is free
    rcases (fits_cons_iff rfl).1 h with ⟨k, rest, rfl, hk, h⟩
    rcases (fits_cons_iff rfl).1 h with ⟨n, rest, rfl, -, -⟩
    by_cases hrest : rest = []
    · subst hrest
      exact ⟨_, .inputArea hk⟩
    · exact ⟨_, .inputData hk hrest⟩
  · -- format
    rcases (fits_cons_iff rfl).1 h with ⟨k, rest, rfl, hk, h⟩
    rcases (fits_cons_iff rfl).1 h with ⟨n, rest, rfl, -, h⟩
    rcases (fits_optional_iff rfl).1 h with rfl | ⟨s, rfl, -⟩
    · exact ⟨_, .format hk⟩
    · exact ⟨_, .formatBy hk⟩
  · -- cursor
    rcases (fits_cons_iff rfl).1 h with ⟨k, rest, rfl, hk, h⟩
    rcases (fits_cons_iff rfl).1 h with ⟨n, rest, rfl, -, h⟩
    rcases (fits_cons_iff rfl).1 h with ⟨t, rest, rfl, -, h⟩
    rcases (fits_cons_iff rfl).1 h with ⟨f, rest, rfl, -, h⟩
    rcases (fits_cons_iff rfl).1 h with ⟨d, rest, rfl, hd, h⟩
    rcases (fits_cons_iff rfl).1 h with ⟨g, rest, rfl, -, h⟩
    rcases fits_nil_iff.1 h with rfl
    rcases accepts_direction_iff.1 hd with ⟨ahead, rfl⟩
    exact ⟨_, .cursor hk⟩
  · -- send
    rcases (fits_cons_iff rfl).1 h with ⟨k, rest, rfl, hk, h⟩
    rcases (fits_cons_iff rfl).1 h with ⟨a, rest, rfl, -, h⟩
    rcases (fits_cons_iff rfl).1 h with ⟨b, rest, rfl, -, h⟩
    rcases fits_nil_iff.1 h with rfl
    exact ⟨_, .send hk⟩
  · -- print
    rcases (fits_cons_iff rfl).1 h with ⟨k, rest, rfl, hk, h⟩
    rcases (fits_optional_iff rfl).1 h with rfl | ⟨n, rfl, -⟩
    · exact ⟨_, .print hk⟩
    · exact ⟨_, .printNamed hk⟩
  · exact absurd rfl hkind

theorem accepts_word {w : String} (hw : IsWord w.toList) : Element.word.accepts w = true :=
  (Element.accepts_iff hw).2 hw

theorem accepts_wordOrNumber {w : String} (hw : IsWord w.toList) :
    Element.wordOrNumber.accepts w = true :=
  (Element.accepts_iff hw).2 hw

/-- The words of a command fit a standard grammar, which makes the command of them. -/
theorem exists_fits_of_spelled (hws : ∀ w ∈ ws, IsWord w.toList) (h : Spelled ws c) :
    ∃ g ∈ CommandSet.standard.grammars, fits g.elements ws = true
      ∧ ofCaptures? g.kind (wordCaptures g.elements ws) = some c := by
  have hliteral (text w : String) : (Element.literal text).accepts w = sameName w text := rfl
  have hoptional (e : Element) (w : String) : (Element.optional e).accepts w = e.accepts w := rfl
  simp only [CommandSet.standard, List.mem_cons, List.not_mem_nil, or_false, exists_eq_or_imp,
    exists_eq_left]
  cases h with
  | @inputArea k n hk =>
    have hn : IsWord n.toList := hws n (by simp)
    left
    simp [fits, wordCaptures, Element.absorbsRest, Element.isOptional, Element.captures,
      ofCaptures?, hliteral, accepts_word hn, hk, hn.1]
  | @inputData k n rest hk hrest =>
    have hn : IsWord n.toList := hws n (by simp)
    rcases List.exists_cons_of_ne_nil hrest with ⟨v, rest, rfl⟩
    have hline : " ".intercalate (v :: rest) ≠ "" := by
      intro hnil
      have hne := intercalate_ne_nil (hws v (by simp)) rest
      rw [hnil] at hne
      exact hne rfl
    left
    simp [fits, wordCaptures, Element.absorbsRest, Element.isOptional, Element.captures,
      ofCaptures?, hliteral, accepts_word hn, hk, hn.1, hline, -String.toList_intercalate]
  | @format k n hk =>
    have hn : IsWord n.toList := hws n (by simp)
    right; left
    simp [fits, wordCaptures, Element.absorbsRest, Element.isOptional, Element.captures,
      ofCaptures?, hliteral, accepts_word hn, hk, hn.1]
  | @formatBy k n s hk =>
    have hn : IsWord n.toList := hws n (by simp)
    have hs : IsWord s.toList := hws s (by simp)
    right; left
    simp [fits, wordCaptures, Element.absorbsRest, Element.captures, ofCaptures?, hliteral,
      hoptional, accepts_word hn, accepts_word hs, hk, hn.1, hs.1]
  | @cursor k n t f g ahead hk =>
    have hn : IsWord n.toList := hws n (by simp)
    have ht : IsWord t.toList := hws t (by simp)
    have hf : IsWord f.toList := hws f (by simp)
    have hg : IsWord g.toList := hws g (by simp)
    have hm : IsWord (directionMark ahead).toList := hws (directionMark ahead) (by simp)
    have hd := accepts_direction_iff.2 ⟨ahead, rfl⟩
    right; right; left
    simp [fits, wordCaptures, Element.absorbsRest, Element.captures, ofCaptures?, hliteral,
      accepts_word hn, accepts_word ht, accepts_wordOrNumber hf, hd, accepts_wordOrNumber hg, hk,
      hn.1, ht.1, hf.1, hm.1, hg.1, directionMark_beq_forwardMark]
  | @send k a b hk =>
    have ha : IsWord a.toList := hws a (by simp)
    have hb : IsWord b.toList := hws b (by simp)
    right; right; right; left
    simp [fits, wordCaptures, Element.absorbsRest, Element.captures, ofCaptures?, hliteral,
      accepts_word ha, accepts_word hb, hk, ha.1, hb.1]
  | print hk =>
    right; right; right; right; left
    simp [fits, wordCaptures, Element.absorbsRest, Element.isOptional, Element.captures,
      ofCaptures?, hliteral, hk]
  | @printNamed k n hk =>
    have hn : IsWord n.toList := hws n (by simp)
    right; right; right; right; left
    simp [fits, wordCaptures, Element.absorbsRest, Element.captures, ofCaptures?, hliteral,
      hoptional, accepts_word hn, hk, hn.1]

end Command

namespace CommandSet

variable {line : String}

/-- A line gives the command that its words spell. -/
theorem command?_standard_iff {c : Command} :
    standard.command? line = some c ↔ Command.Spelled (lineWords line) c := by
  have hws : ∀ w ∈ lineWords line, IsWord w.toList := by
    intro w hw
    exact isWord_of_mem_lineWords hw
  rw [command?_eq_some_iff isKeyed_standard]
  constructor
  · -- what the words fit spells some command, and both are made by the one grammar that they fit
    rintro ⟨g, hg, hfits, hc⟩
    have hkind : g.kind ≠ .quit := by
      intro hquit
      simp [hquit, Command.ofCaptures?] at hc
    rcases Command.exists_spelled_of_fits hg hkind hfits with ⟨d, hd⟩
    rcases Command.exists_fits_of_spelled hws hd with ⟨h, hh, hhfits, hhd⟩
    rcases eq_of_fits isKeyed_standard hg hh hfits hhfits with rfl
    rw [hc] at hhd
    exact Option.some.inj hhd ▸ hd
  · exact Command.exists_fits_of_spelled hws

/-- The grammar of the line that ends a session. -/
theorem quit_mem_standard :
    ∃ g ∈ standard.grammars, standard.get? .quit = some g ∧ g.elements = [.literal "quit"] := by
  refine ⟨_, ?_, rfl, rfl⟩
  simp [standard]

/-- There is only one grammar of lines that end a session. -/
theorem elements_of_kind_eq_quit {g : Grammar} (hg : g ∈ standard.grammars)
    (hkind : g.kind = .quit) : g.elements = [.literal "quit"] := by
  simp only [standard, List.mem_cons, List.not_mem_nil, or_false] at hg
  rcases hg with rfl | rfl | rfl | rfl | rfl | rfl <;> first | rfl | cases hkind

/-- A line ends the session exactly if its words fit the grammar of such lines. -/
theorem isQuit_standard_iff_fits :
    standard.isQuit line = true ↔ fits [.literal "quit"] (lineWords line) = true := by
  rcases quit_mem_standard with ⟨g, hg, hget, hels⟩
  have hcaptures := Grammar.captures?_normalize (isKeyed_standard.positional g hg) line
  rw [isQuit, hget, Option.any_some, Grammar.recognizes, hcaptures, hels]
  split <;> simp_all

/-- A line ends the session if its only word is `quit`, in any ASCII case. -/
theorem isQuit_standard_iff :
    standard.isQuit line = true ↔ ∃ k, lineWords line = [k] ∧ sameName k "quit" = true := by
  rw [isQuit_standard_iff_fits, fits_cons_iff rfl]
  constructor
  · rintro ⟨k, rest, hline, hk, hrest⟩
    rcases fits_nil_iff.1 hrest with rfl
    exact ⟨k, hline, hk⟩
  · rintro ⟨k, hline, hk⟩
    exact ⟨k, [], hline, hk, rfl⟩

/-- The built-in matcher reads a line word by word: it gives the command that the words spell, it ends
the session at `quit`, and no line does both. -/
theorem standard_reads_words (line : String) :
    (∀ c, standard.command? line = some c ↔ Command.Spelled (lineWords line) c)
      ∧ (standard.isQuit line = true ↔ ∃ k, lineWords line = [k] ∧ sameName k "quit" = true)
      ∧ ¬ (standard.isQuit line = true ∧ ∃ c, standard.command? line = some c) := by
  refine ⟨fun c => command?_standard_iff, isQuit_standard_iff, ?_⟩
  rintro ⟨hquit, c, hc⟩
  rcases isQuit_standard_iff.1 hquit with ⟨k, hline, hk⟩
  rw [command?_standard_iff, hline] at hc
  -- the only command of one word is `print`
  cases hc with
  | print hprint =>
    rw [sameName_comm] at hprint hk
    have hsame := sameName_of_both hprint hk
    cases hsame

end CommandSet

end TextDesk
