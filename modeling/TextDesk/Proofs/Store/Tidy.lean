import TextDesk.Proofs.Destination
import TextDesk.Proofs.Store

/-! # Tidy stores

A store is tidy if its names are words that differ, and each text holds cursors whose names are words
that differ, that name the text as it is spelled, and whose ends have exactly one field set.  Every
operation on stores keeps them tidy, as long as the names it is given are words.
-/

namespace TextDesk

/-- A cursor as it is placed in the text `target`. -/
structure Cursor.TidyIn (target : String) (c : Cursor) : Prop where
  name : IsWord c.name.toList
  target : c.target = some target
  start : c.start.WellFormed
  stop : c.stop.WellFormed

/-- A text whose name is a word and whose cursors are its own. -/
structure Text.Tidy (t : Text) : Prop where
  name : IsWord t.name.toList
  cursors : ∀ c ∈ t.cursors, c.TidyIn t.name
  cursorNames : (t.cursors.map Cursor.name).Pairwise (· ≠ ·)

/-- A store of tidy texts with different names. -/
structure Store.Tidy (s : Store) : Prop where
  texts : ∀ t ∈ s.texts, t.Tidy
  distinct : s.Distinct

namespace Text

/-- A text without cursors is tidy if its name is a word. -/
theorem tidy_of_isWord {name data : String} (h : IsWord name.toList) : Tidy { name, data } :=
  ⟨h, by simp, List.Pairwise.nil⟩

variable {t : Text}

/-- Only the name and the cursors of a text matter. -/
theorem Tidy.withData (h : t.Tidy) (data : String) : Tidy { t with data } :=
  ⟨h.name, h.cursors, h.cursorNames⟩

/-- A cursor of the text takes the place of any of its name. -/
theorem Tidy.placeCursor (h : t.Tidy) {c : Cursor} (hc : c.TidyIn t.name) :
    (Store.placeCursor c t).Tidy := by
  refine ⟨h.name, ?_, ?_⟩
  · intro d hd
    rcases List.mem_append.1 hd with hd | hd
    · exact h.cursors d (List.mem_filter.1 hd).1
    · rw [List.mem_singleton.1 hd]
      exact hc
  · have hkept : (t.cursors.filter (·.name != c.name)).Pairwise fun d e => d.name ≠ e.name :=
      (List.pairwise_map.1 h.cursorNames).filter _
    apply List.pairwise_map.2
    refine List.pairwise_append.2 ⟨hkept, List.pairwise_singleton _ _, ?_⟩
    intro d hd e he
    rcases List.mem_filter.1 hd with ⟨-, hne⟩
    rw [List.mem_singleton.1 he]
    simpa using hne

end Text

namespace Store

variable {s s' : Store} {name : String}

/-- The empty store is tidy. -/
theorem tidy_empty : Tidy {} := ⟨by simp, List.Pairwise.nil⟩

/-- A change that keeps the texts it is for tidy, and all names, keeps the store tidy. -/
theorem Tidy.modify (h : s.Tidy) {f : Text → Text} (hname : ∀ t, (f t).name = t.name)
    (hf : ∀ t ∈ s.texts, sameName t.name name = true → (f t).Tidy) : (s.modify name f).Tidy := by
  refine ⟨?_, h.distinct.modify hname⟩
  intro t ht
  rw [h.distinct.texts_modify] at ht
  rcases List.mem_map.1 ht with ⟨u, hu, rfl⟩
  split
  · next hsame => exact hf u hu hsame
  · exact h.texts u hu

/-- A new text with a new name that is a word keeps the store tidy. -/
theorem Tidy.append (h : s.Tidy) {t : Text} (ht : t.Tidy) (hnew : s.get? t.name = none) :
    Tidy ⟨s.texts ++ [t]⟩ := by
  refine ⟨?_, h.distinct.append hnew⟩
  intro u hu
  rcases List.mem_append.1 hu with hu | hu
  · exact h.texts u hu
  · rw [List.mem_singleton.1 hu]
    exact ht

/-! ## Operations -/

/-- Entering the data of a text keeps the store tidy: the text that is there keeps its cursors. -/
theorem Tidy.addText (h : s.Tidy) (hname : IsWord name.toList) (data : String) :
    (s.addText { name, data }).Tidy := by
  unfold Store.addText
  split
  · refine h.modify (fun t => rfl) ?_
    intro t ht _
    exact (h.texts t ht).withData data
  · next hnew =>
    have hnone : s.get? name = none := by simpa using hnew
    exact h.append (Text.tidy_of_isWord hname) hnone

theorem Tidy.format (h : s.Tidy) {separators : Option (List String)}
    (hs : s.format name separators = .ok s') : s'.Tidy := by
  unfold Store.format at hs
  split at hs
  · cases hs
  · rcases Except.ok.inj hs with rfl
    refine h.modify (fun t => rfl) ?_
    intro t ht _
    exact (h.texts t ht).withData _

/-- Placing a cursor that names its text as the text is spelled keeps the store tidy. -/
theorem Tidy.addCursor (h : s.Tidy) {c : Cursor} (hs : s.addCursor c = .ok s')
    (hc : ∀ target ∈ c.target, ∃ t ∈ s.texts, t.name = target ∧ c.TidyIn target) : s'.Tidy := by
  unfold Store.addCursor at hs
  split at hs
  · cases hs
  · next target htarget =>
    split at hs
    · cases hs
    · rcases Except.ok.inj hs with rfl
      rcases hc target htarget with ⟨t, ht, rfl, htidy⟩
      refine h.modify (fun u => rfl) ?_
      -- the text that is changed is the one whose name the cursor holds
      intro u hu hsame
      rcases h.distinct.eq_of_sameName hu ht hsame with rfl
      exact (h.texts u hu).placeCursor htidy

/-- Sending keeps the store tidy, also if it adds the target. -/
theorem Tidy.sendText (h : s.Tidy) {source : String} (hname : IsWord name.toList)
    (hs : s.sendText source name = .ok s') : s'.Tidy := by
  unfold Store.sendText at hs
  split at hs
  · cases hs
  · split at hs
    · next hnew =>
      rcases Except.ok.inj hs with rfl
      exact h.append (Text.tidy_of_isWord hname) hnew
    · rcases Except.ok.inj hs with rfl
      refine h.modify (fun t => rfl) ?_
      intro t ht _
      exact (h.texts t ht).withData _

end Store

end TextDesk
