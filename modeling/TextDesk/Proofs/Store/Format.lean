import TextDesk.Proofs.Store.Put
import TextDesk.Proofs.Store.Reflow

/-! # Formatting twice

The lines of a reflowed text are broken already, so formatting it again changes nothing.  The second pass
meets line feeds that the first one put in.  They are blank, so it drops them, and then it puts each of them
back.  It also never takes them for separators, although a line feed may be one, since what is dropped does
not separate.  Main statement: a format command that succeeds succeeds again and leaves the store as it is.
-/

namespace TextDesk

/-! ## Breaking lines twice -/

/-- Breaking the lines of a broken text changes nothing, whatever the separators. -/
theorem breakLines_breakLines (separator : Char → Bool) (broken : Bool) (s : List Char) :
    breakLines separator broken (breakLines separator broken s) = breakLines separator broken s := by
  -- both passes are in the same state at every character that is kept
  induction s generalizing broken with
  | nil => rfl
  | cons c rest ih =>
    cases broken with
    | false => rw [breakLines_false_cons, breakLines_false_cons, ih]
    | true =>
      cases hc : isBlank c with
      | true => rw [breakLines_of_blank hc, ih]
      | false =>
        -- the line feed of the new line is dropped, and put back in front of the character
        rw [breakLines_of_not_blank hc, breakLines_of_blank isBlank_newline,
          breakLines_of_not_blank hc, ih]

/-- Reflowing a reflowed text changes nothing. -/
theorem reflow_reflow (separators : List String) (data : String) :
    reflow separators (reflow separators data) = reflow separators data := by
  rw [← String.toList_inj, reflow_eq, reflow_eq, breakLines_breakLines]

/-! ## Formatting texts -/

/-- Changing the first member again changes nothing, if the change keeps the property and is itself the
same twice as once. -/
theorem modifyFirst_modifyFirst {α : Type} {p : α → Bool} {f : α → α} (hp : ∀ x, p (f x) = p x)
    (hf : ∀ x, f (f x) = f x) (xs : List α) :
    modifyFirst p f (modifyFirst p f xs) = modifyFirst p f xs := by
  induction xs with
  | nil => rfl
  | cons x xs ih =>
    by_cases hx : p x = true
    · have hfx : p (f x) = true := by rw [hp, hx]
      simp only [modifyFirst, if_pos hx, if_pos hfx, hf]
    · simp only [modifyFirst, if_neg hx, ih]

/-- A text broken into lines behind the separators, or behind the standard ones. -/
def Text.reflowed (separators : Option (List String)) (t : Text) : Text :=
  { t with data := reflow (separators.getD standardSeparators) t.data }

/-- Breaking a text into lines twice is breaking it once. -/
theorem Text.reflowed_reflowed (separators : Option (List String)) (t : Text) :
    (t.reflowed separators).reflowed separators = t.reflowed separators := by
  unfold Text.reflowed
  rw [reflow_reflow]

namespace Store

variable {s s' : Store} {t : Text} {name : String} {separators : Option (List String)} {f : Text → Text}

/-- Changing a text again changes nothing, if the change keeps names and is the same twice as once. -/
theorem modify_modify (hname : ∀ t, (f t).name = t.name) (hf : ∀ t, f (f t) = f t) :
    (s.modify name f).modify name f = s.modify name f := by
  have hsame : ∀ t : Text, sameName (f t).name name = sameName t.name name := by
    intro t
    rw [hname]
  exact congrArg Store.mk (modifyFirst_modifyFirst hsame hf s.texts)

/-- Formatting succeeds if the name addresses a text, and then breaks that text into lines. -/
theorem format_eq_ok_iff : s.format name separators = .ok s'
    ↔ ∃ t, s.get? name = some t ∧ s' = s.modify name (Text.reflowed separators) := by
  unfold format
  cases s.get? name with
  | none => simp
  | some t =>
    constructor
    · intro h
      exact ⟨t, rfl, (Except.ok.inj h).symm⟩
    · rintro ⟨u, -, rfl⟩
      rfl

/-- A format command that succeeds succeeds again and leaves the store as it is; and reflowing a text twice
is reflowing it once, also if the separators are blank or no single characters. -/
theorem format_again (name : String) (separators : Option (List String)) :
    (∀ s s' : Store, s.format name separators = .ok s' → s'.format name separators = .ok s')
      ∧ ∀ (marks : List String) (data : String),
        reflow marks (reflow marks data) = reflow marks data := by
  refine ⟨?_, reflow_reflow⟩
  intro s s' hformat
  rcases format_eq_ok_iff.1 hformat with ⟨t, hget, rfl⟩
  have hname : ∀ t : Text, (t.reflowed separators).name = t.name := fun t => rfl
  -- the text is still there, and its lines are broken already
  refine format_eq_ok_iff.2 ⟨t.reflowed separators, get?_modify hname hget, ?_⟩
  exact (modify_modify hname (Text.reflowed_reflowed separators)).symm

/-- The separators are a blank, a line feed, a dot and a string that separates nothing, and the text is
addressed in another spelling. -/
theorem format_again_of_blank_separators :
    ∃ s s' : Store, s.names = ["Notes"]
      ∧ s.format "notes" (some [" ", "\n", ".", "ab"]) = .ok s'
      ∧ s'.texts.map Text.data = ["a \nab.\nc\n\nd "]
      ∧ s'.format "notes" (some [" ", "\n", ".", "ab"]) = .ok s' := by
  let marks := [" ", "\n", ".", "ab"]
  let t : Text := { name := "Notes", data := "a  ab. \n c\nd " }
  let s' : Store := ⟨[{ name := "Notes", data := "a \nab.\nc\n\nd " }]⟩
  have hdata : reflow marks t.data = "a \nab.\nc\n\nd " := by
    rw [← String.toList_inj, reflow_eq]
    decide
  have hformat : (⟨[t]⟩ : Store).format "notes" (some marks) = .ok s' := by
    have hget : (⟨[t]⟩ : Store).get? "notes" = some t := by decide
    refine format_eq_ok_iff.2 ⟨t, hget, ?_⟩
    have hname : sameName t.name "notes" = true := by decide
    have hmodify : (⟨[t]⟩ : Store).modify "notes" (Text.reflowed (some marks))
        = ⟨[{ t with data := reflow marks t.data }]⟩ := congrArg Store.mk (if_pos hname)
    rw [hmodify, hdata]
  exact ⟨⟨[t]⟩, s', rfl, hformat, rfl, (format_again _ _).1 ⟨[t]⟩ s' hformat⟩

end Store

end TextDesk
