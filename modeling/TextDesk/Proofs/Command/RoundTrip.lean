import TextDesk.Proofs.Command.Spelling
import TextDesk.Proofs.Destination

/-! # Commands and their lines

A command is well-formed if it could have come from a line: its names are words, its free text is a
normal line, its separators are single characters and its ends have exactly one field set.  Main
statement: lines give well-formed commands only, and exactly these are read back from how they are
written.
-/

namespace TextDesk

namespace Command

/-- A string of one character that is not blank. -/
def IsSeparator (s : String) : Prop := ∃ c, s = String.singleton c ∧ isBlank c = false

/-- The command could have come from a line. -/
def WellFormed : Command → Prop
  | input name data => IsWord name.toList ∧ ∀ d ∈ data, d ≠ "" ∧ normalize d = d
  | format name separators =>
    IsWord name.toList ∧ ∀ l ∈ separators, l ≠ [] ∧ ∀ s ∈ l, IsSeparator s
  | cursor name target start _ stop =>
    IsWord name.toList ∧ IsWord target.toList ∧ start.WellFormed ∧ stop.WellFormed
  | send source target => IsWord source.toList ∧ IsWord target.toList
  | print name => ∀ n ∈ name, IsWord n.toList

/-- Words spell well-formed commands only. -/
theorem wellFormed_of_spelled {ws : List String} {c : Command} (hws : ∀ w ∈ ws, IsWord w.toList)
    (h : Spelled ws c) : c.WellFormed := by
  cases h with
  | inputArea => exact ⟨hws _ (by simp), by simp⟩
  | @inputData k n rest hk hrest =>
    rcases List.forall_mem_cons.1 (List.forall_mem_cons.1 hws).2 with ⟨hn, hrestws⟩
    refine ⟨hn, ?_⟩
    rintro d ⟨⟩
    refine ⟨?_, normalize_intercalate hrestws⟩
    -- a line without words would not have been taken for data
    intro hnil
    have hwords := lineWords_intercalate hrestws
    rw [hnil] at hwords
    exact hrest hwords.symm
  | format => exact ⟨hws _ (by simp), by simp⟩
  | @formatBy k n s hk =>
    have hs : IsWord s.toList := hws s (by simp)
    refine ⟨hws n (by simp), ?_⟩
    rintro l ⟨⟩
    refine ⟨by simp [hs.1], ?_⟩
    intro t ht
    rcases List.mem_map.1 ht with ⟨c, hc, rfl⟩
    exact ⟨c, rfl, hs.2 c hc⟩
  | cursor =>
    exact ⟨hws _ (by simp), hws _ (by simp), Destination.wellFormed_ofToken (hws _ (by simp)),
      Destination.wellFormed_ofToken (hws _ (by simp))⟩
  | send => exact ⟨hws _ (by simp), hws _ (by simp)⟩
  | print =>
    intro n hn
    simp at hn
  | printNamed =>
    rintro n ⟨⟩
    exact hws _ (by simp)

/-! ## The words of a written command -/

/-- The words as which a command is written. -/
def toWords : Command → List String
  | input name none => ["input", name]
  | input name (some data) => "input" :: name :: lineWords data
  | format name none => ["format", name]
  | format name (some separators) => ["format", name, String.join separators]
  | cursor name target start ahead stop =>
    ["cursor", name, target, start.render, directionMark ahead, stop.render]
  | send source target => ["send", source, target]
  | print none => ["print"]
  | print (some name) => ["print", name]

/-- Free text in normal form is its words, one space apart, and there is one. -/
theorem lineWords_ne_nil {d : String} (hne : d ≠ "") (hnormal : normalize d = d) :
    lineWords d ≠ [] := by
  intro hnil
  rw [normalize_eq, hnil] at hnormal
  exact hne hnormal.symm

/-- Separators joined make a word, whose characters are the separators. -/
theorem isWord_join {l : List String} (hne : l ≠ []) (h : ∀ s ∈ l, IsSeparator s) :
    IsWord (String.join l).toList := by
  rw [String.toList_join]
  constructor
  · rcases List.exists_cons_of_ne_nil hne with ⟨s, l, rfl⟩
    rcases h s (by simp) with ⟨c, rfl, -⟩
    simp
  · intro c hc
    rcases List.mem_flatMap.1 hc with ⟨s, hs, hcs⟩
    rcases h s hs with ⟨d, rfl, hd⟩
    obtain rfl : c = d := by simpa using hcs
    exact hd

theorem map_singleton_join {l : List String} (h : ∀ s ∈ l, IsSeparator s) :
    (String.join l).toList.map String.singleton = l := by
  induction l with
  | nil => rfl
  | cons s l ih =>
    rcases h s (by simp) with ⟨c, rfl, -⟩
    have hrest := ih (List.forall_mem_cons.1 h).2
    simpa using hrest

/-- A direction mark is a word. -/
theorem isWord_directionMark (ahead : Bool) : IsWord (directionMark ahead).toList := by
  cases ahead <;> decide

/-- A well-formed command is written as words. -/
theorem isWord_of_mem_toWords {c : Command} (h : c.WellFormed) :
    ∀ w ∈ c.toWords, IsWord w.toList := by
  match c, h with
  | input name none, h =>
    have hk : IsWord "input".toList := by decide
    simpa [toWords] using ⟨hk, h.1⟩
  | input name (some data), h =>
    have hk : IsWord "input".toList := by decide
    have hdata : ∀ w ∈ lineWords data, IsWord w.toList := by
      intro w hw
      exact isWord_of_mem_lineWords hw
    simpa [toWords] using ⟨hk, h.1, hdata⟩
  | format name none, h =>
    have hk : IsWord "format".toList := by decide
    simpa [toWords] using ⟨hk, h.1⟩
  | format name (some separators), h =>
    have hk : IsWord "format".toList := by decide
    have hs := isWord_join (h.2 separators rfl).1 (h.2 separators rfl).2
    intro w hw
    simp only [toWords, List.mem_cons, List.not_mem_nil, or_false] at hw
    rcases hw with rfl | rfl | rfl
    · exact hk
    · exact h.1
    · exact hs
  | cursor name target start ahead stop, h =>
    have hk : IsWord "cursor".toList := by decide
    simpa [toWords] using ⟨hk, h.1, h.2.1, Destination.isWord_render h.2.2.1,
      isWord_directionMark ahead, Destination.isWord_render h.2.2.2⟩
  | send source target, h =>
    have hk : IsWord "send".toList := by decide
    simpa [toWords] using ⟨hk, h.1, h.2⟩
  | print none, _ =>
    have hk : IsWord "print".toList := by decide
    simpa [toWords] using hk
  | print (some name), h =>
    have hk : IsWord "print".toList := by decide
    simpa [toWords] using ⟨hk, h name rfl⟩

/-- The words as which a well-formed command is written spell it. -/
theorem spelled_toWords {c : Command} (h : c.WellFormed) : Spelled c.toWords c := by
  match c, h with
  | input name none, _ => exact .inputArea (sameName_refl _)
  | input name (some data), h =>
    rcases h.2 data rfl with ⟨hne, hnormal⟩
    have hspelled : Spelled (input name (some data)).toWords
        (.input name (some (" ".intercalate (lineWords data)))) :=
      .inputData (sameName_refl _) (lineWords_ne_nil hne hnormal)
    rwa [← normalize_eq, hnormal] at hspelled
  | format name none, _ => exact .format (sameName_refl _)
  | format name (some separators), h =>
    have hspelled : Spelled (format name (some separators)).toWords
        (.format name (some ((String.join separators).toList.map String.singleton))) :=
      .formatBy (sameName_refl _)
    rwa [map_singleton_join (h.2 separators rfl).2] at hspelled
  | cursor name target start ahead stop, h =>
    rcases h with ⟨-, -, hstart, hstop⟩
    have hspelled : Spelled (cursor name target start ahead stop).toWords
        (.cursor name target (.ofToken start.render) ahead (.ofToken stop.render)) :=
      .cursor (sameName_refl _)
    rw [Destination.ofToken_render hstart, Destination.ofToken_render hstop] at hspelled
    exact hspelled
  | send source target, _ => exact .send (sameName_refl _)
  | print none, _ => exact .print (sameName_refl _)
  | print (some name), _ => exact .printNamed (sameName_refl _)

/-- A well-formed command is written as its words, one space apart. -/
theorem render_eq {c : Command} (h : c.WellFormed) : c.render = " ".intercalate c.toWords := by
  unfold render
  match c, h with
  | input name (some data), h =>
    rcases h.2 data rfl with ⟨hne, hnormal⟩
    rcases List.exists_cons_of_ne_nil (lineWords_ne_nil hne hnormal) with ⟨w, ws, hline⟩
    -- the data is the same with its words one space apart
    have hdata : " ".intercalate (w :: ws) = data := by rw [← hline, ← normalize_eq, hnormal]
    have hwords : (input name (some data)).toWords = "input" :: name :: w :: ws :=
      congrArg (fun l => "input" :: name :: l) hline
    rw [hwords, String.intercalate_cons_cons, String.intercalate_cons_cons, hdata]
    simp [String.append_assoc]
  | input name none, _ => simp [toWords]
  | format name none, _ => simp [toWords]
  | format name (some separators), _ => simp [toWords, String.append_assoc]
  | cursor name target start ahead stop, _ => simp [toWords, String.append_assoc]
  | send source target, _ => simp [toWords, String.append_assoc]
  | print none, _ => simp [toWords]
  | print (some name), _ => simp [toWords]

end Command

namespace CommandSet

variable {line : String} {c : Command}

/-- A line gives well-formed commands only. -/
theorem wellFormed_of_command? (h : standard.command? line = some c) : c.WellFormed :=
  Command.wellFormed_of_spelled (fun _ hw => isWord_of_mem_lineWords hw)
    (command?_standard_iff.1 h)

/-- A well-formed command is read back from how it is written. -/
theorem command?_render (h : c.WellFormed) : standard.command? c.render = some c := by
  rw [command?_standard_iff, Command.render_eq h,
    lineWords_intercalate (Command.isWord_of_mem_toWords h)]
  exact Command.spelled_toWords h

/-- Lines give well-formed commands, and exactly the well-formed commands are read back from how they
are written; so writing the command of a line gives a line of the same command. -/
theorem command?_render_iff_wellFormed :
    (∀ line c, standard.command? line = some c → c.WellFormed)
      ∧ (∀ c : Command, standard.command? c.render = some c ↔ c.WellFormed)
      ∧ ∀ line c, standard.command? line = some c → standard.command? c.render = some c :=
  ⟨fun _ _ h => wellFormed_of_command? h,
    fun _ => ⟨wellFormed_of_command?, command?_render⟩,
    fun _ _ h => command?_render (wellFormed_of_command? h)⟩

end CommandSet

end TextDesk
