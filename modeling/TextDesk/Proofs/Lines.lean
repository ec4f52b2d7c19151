import TextDesk.Lines

/-! # Texts made of lines

Lines that are each followed by a line feed make a text that is cut into these lines again, unless a
line holds a line feed itself or ends with a carriage return, which the cut would drop.  A text that ends
with a line feed has its lines in front of those of any text that is put behind it.
-/

namespace TextDesk

/-- Lines, each with a line feed behind it. -/
def unlines (lines : List String) : String :=
  String.ofList (lines.flatMap fun line => line.toList ++ ['\n'])

/-- A string that is one line of a text: it holds no line feed and does not end with a carriage
return. -/
def IsLine (line : String) : Prop := '\n' ∉ line.toList ∧ line.toList.getLast? ≠ some '\r'

instance (line : String) : Decidable (IsLine line) := instDecidableAnd

/-- A line in front of a line feed is the first line. -/
theorem cutLines_append_cons {α : Type} [DecidableEq α] {lineFeed carriageReturn : α}
    {line : List α} (hfeed : lineFeed ∉ line) (hreturn : line.getLast? ≠ some carriageReturn)
    (rest : List α) :
    cutLines lineFeed carriageReturn (line ++ lineFeed :: rest)
      = line :: cutLines lineFeed carriageReturn rest := by
  induction line with
  | nil => simp [cutLines]
  | cons c line ih =>
    have hc : c ≠ lineFeed := by
      rintro rfl
      exact hfeed (by simp)
    have hmore : lineFeed ∉ line := by
      intro hmem
      exact hfeed (by simp [hmem])
    have hdropped : ¬ (c = carriageReturn
        ∧ (line ++ lineFeed :: rest).head? = some lineFeed) := by
      rintro ⟨rfl, hhead⟩
      cases line with
      | nil => exact hreturn rfl
      | cons d line =>
        obtain rfl : d = lineFeed := by simpa using hhead
        exact hmore (by simp)
    have hlast : line.getLast? ≠ some carriageReturn := by
      cases line with
      | nil => simp
      | cons d line => simpa [List.getLast?_cons_cons] using hreturn
    rw [List.cons_append, cutLines, if_neg hc, if_neg hdropped, ih hmore hlast]

/-- Lines behind which line feeds are put are the lines of the text that they make. -/
theorem textLines_unlines {lines : List String} (h : ∀ line ∈ lines, IsLine line) :
    textLines (unlines lines) = lines := by
  unfold textLines unlines
  rw [String.toList_ofList]
  induction lines with
  | nil => rfl
  | cons line lines ih =>
    rcases List.forall_mem_cons.1 h with ⟨hline, hlines⟩
    have hrest := ih hlines
    rw [List.flatMap_cons, List.append_assoc, List.singleton_append,
      cutLines_append_cons hline.1 hline.2, List.map_cons, String.ofList_toList, hrest]

/-! ## Texts one behind the other -/

/-- A text behind which a new line starts: it is empty or ends with a line feed. -/
def EndsLine (text : String) : Prop := text.toList = [] ∨ text.toList.getLast? = some '\n'

instance (text : String) : Decidable (EndsLine text) := instDecidableOr

section

variable {α : Type} [DecidableEq α] {lineFeed carriageReturn : α}

/-- Only the empty text has no lines. -/
theorem cutLines_eq_nil_iff {text : List α} :
    cutLines lineFeed carriageReturn text = [] ↔ text = [] := by
  induction text with
  | nil => simp [cutLines]
  | cons c rest ih =>
    have hcons : cutLines lineFeed carriageReturn (c :: rest) ≠ [] := by
      rw [cutLines]
      split
      · exact List.cons_ne_nil _ _
      split
      · next hdropped =>
        -- a carriage return that is dropped has a line feed behind it
        intro hnil
        rw [ih.1 hnil] at hdropped
        cases hdropped.2
      · split <;> exact List.cons_ne_nil _ _
    exact ⟨fun h => absurd h hcons, fun h => absurd h (List.cons_ne_nil _ _)⟩

/-- The lines of a text that ends with a line feed stay in front of what is put behind it. -/
theorem cutLines_append {text : List α} (h : text = [] ∨ text.getLast? = some lineFeed)
    (behind : List α) :
    cutLines lineFeed carriageReturn (text ++ behind)
      = cutLines lineFeed carriageReturn text ++ cutLines lineFeed carriageReturn behind := by
  induction text with
  | nil => rfl
  | cons c rest ih =>
    have hlast := h.resolve_left (List.cons_ne_nil _ _)
    have hrest : rest = [] ∨ rest.getLast? = some lineFeed := by
      cases rest with
      | nil => exact Or.inl rfl
      | cons d rest => exact Or.inr (by rwa [List.getLast?_cons_cons] at hlast)
    have hcut := ih hrest
    rw [List.cons_append, cutLines, cutLines, hcut]
    by_cases hc : c = lineFeed
    · rw [if_pos hc, if_pos hc, List.cons_append]
    -- a line that goes on behind the character ends in the text itself
    obtain ⟨d, more, rfl⟩ : ∃ d more, rest = d :: more := by
      cases rest with
      | nil => exact absurd (Option.some.inj hlast) hc
      | cons d more => exact ⟨d, more, rfl⟩
    rw [if_neg hc, if_neg hc, List.cons_append, List.head?_cons, List.head?_cons]
    split
    · rfl
    · cases hlines : cutLines lineFeed carriageReturn (d :: more) with
      | nil => exact absurd (cutLines_eq_nil_iff.1 hlines) (List.cons_ne_nil _ _)
      | cons line lines => rfl

end

/-- A text that ends with a line feed and another behind it have the lines of both. -/
theorem textLines_append {first : String} (h : EndsLine first) (second : String) :
    textLines (first ++ second) = textLines first ++ textLines second := by
  unfold textLines
  rw [String.toList_append, cutLines_append h, List.map_append]

end TextDesk
