import TextDesk.Proofs.Script
import TextDesk.Proofs.Store.Lookup

/-! # The data shown before an area

An input command without data asks for an area and shows what the text holds.  What it shows is found by
taking the name as a reference, and what it changes is found by the exact name.  The two agree for names
without a star.  A name with a star shows the first text that it fits as a pattern, which need not be the
one that changes.  Main statement: what is shown in either case, next to what the answer changes.
-/

namespace TextDesk

/-! ## What entering data changes -/

/-- The first member with the property changes at its place. -/
theorem exists_modifyFirst_eq_of_find? {α : Type} {p : α → Bool} {x : α} (f : α → α) {xs : List α}
    (h : xs.find? p = some x) :
    ∃ before behind, xs = before ++ x :: behind ∧ modifyFirst p f xs = before ++ f x :: behind := by
  rcases List.find?_eq_some_iff_append.1 h with ⟨hx, before, behind, rfl, hbefore⟩
  refine ⟨before, behind, rfl, modifyFirst_append_cons ?_ hx⟩
  intro y hy
  simpa using hbefore y hy

namespace Store

variable {s s' : Store} {t : Text} {name old data : String}

/-- The second store is the first with new data for a text of the given name, which held `old`. -/
def Replaces (s : Store) (name old data : String) (s' : Store) : Prop :=
  ∃ before t behind, s.texts = before ++ t :: behind ∧ sameName t.name name = true ∧ t.data = old
    ∧ s'.texts = before ++ { t with data } :: behind

/-- The second store is the first with a new text of the given name and data behind the others. -/
def Creates (s : Store) (name data : String) (s' : Store) : Prop :=
  s'.texts = s.texts ++ [enteredText name data]

/-- Replacing data adds no text. -/
theorem not_replaces_and_creates : ¬ (s.Replaces name old data s' ∧ s.Creates name data s') := by
  rintro ⟨⟨before, t, behind, htexts, -, -, htexts'⟩, hcreates⟩
  have hlen := congrArg List.length hcreates
  rw [htexts', htexts] at hlen
  simp at hlen

/-- The text that the name addresses has its data replaced. -/
theorem replaces_addText (hget : s.get? name = some t) :
    s.Replaces name t.data data (s.addText (enteredText name data)) := by
  have hadd : (s.addText (enteredText name data)).texts
      = modifyFirst (sameName ·.name name) (replaceData · (enteredText name data)) s.texts := by
    have hsome : (s.get? (enteredText name data).name).isSome = true := by
      rw [show (enteredText name data).name = name from rfl, hget]
      rfl
    rw [addText, if_pos hsome]
    rfl
  have hname := List.find?_some hget
  rcases exists_modifyFirst_eq_of_find? (replaceData · (enteredText name data)) hget with
    ⟨before, behind, htexts, hmodify⟩
  refine ⟨before, t, behind, htexts, hname, rfl, ?_⟩
  rw [hadd, hmodify]
  rfl

/-- A name that addresses no text has a new one created. -/
theorem creates_addText (hget : s.get? name = none) :
    s.Creates name data (s.addText (enteredText name data)) := by
  have hnone : ¬ (s.get? (enteredText name data).name).isSome = true := by
    rw [show (enteredText name data).name = name from rfl, hget]
    decide
  rw [Creates, addText, if_neg hnone]

/-- Entering data creates a text exactly if the name addresses none. -/
theorem creates_addText_iff :
    s.Creates name data (s.addText (enteredText name data)) ↔ s.get? name = none := by
  refine ⟨?_, creates_addText⟩
  intro hcreates
  cases hget : s.get? name with
  | none => rfl
  | some t => exact absurd ⟨replaces_addText hget, hcreates⟩ not_replaces_and_creates

/-- Entering data replaces what the text addressed by the name holds. -/
theorem Distinct.replaces_addText_iff (h : s.Distinct) :
    s.Replaces name old data (s.addText (enteredText name data))
      ↔ (s.get? name).map Text.data = some old := by
  constructor
  · rintro ⟨before, t, behind, htexts, hname, rfl, -⟩
    have ht : t ∈ s.texts := by
      rw [htexts]
      simp
    rw [h.get?_eq_some_iff.2 ⟨ht, hname⟩]
    rfl
  · intro hdata
    rcases Option.map_eq_some_iff.1 hdata with ⟨t, hget, rfl⟩
    exact replaces_addText hget

/-- Entering data leaves texts of other names as they are. -/
theorem mem_texts_addText (ht : t ∈ s.texts) (hname : sameName t.name name = false) :
    t ∈ (s.addText (enteredText name data)).texts := by
  cases hget : s.get? name with
  | none =>
    rw [creates_addText hget]
    exact List.mem_append_left _ ht
  | some u =>
    rcases replaces_addText hget with ⟨before, v, behind, htexts, hv, -, htexts'⟩
    have hne : t ≠ v := by
      rintro rfl
      rw [hv] at hname
      cases hname
    rw [htexts, List.mem_append, List.mem_cons] at ht
    rw [htexts', List.mem_append, List.mem_cons]
    exact ht.imp_right (fun hbehind => .inr (hbehind.resolve_left hne))

/-! ## What a name addresses as a reference -/

/-- Without a star, a name addresses as a reference the text that it names. -/
theorem head?_lookup_of_not_isPattern (h : NamePattern.isPattern name = false) :
    (s.lookup name).head? = s.get? name := by
  rw [lookup_of_not_isPattern h]
  cases s.get? name <;> rfl

/-- A name that addresses no text as a reference names none. -/
theorem Tidy.get?_eq_none (h : s.Tidy) (hlookup : (s.lookup name).head? = none) :
    s.get? name = none := by
  cases hget : s.get? name with
  | none => rfl
  | some t =>
    have hmem := mem_lookup_of_get? (h.newline_notMem (List.mem_of_find?_eq_some hget)) hget
    rw [List.head?_eq_none_iff.1 hlookup] at hmem
    cases hmem

end Store

/-! ## What is shown -/

/-- A source of text areas that keeps a record of what it is asked: the name of the text and the data
that is shown. -/
structure Recorder (α : Type) where
  /-- What gives the answers. -/
  areas : α
  /-- What was asked so far. -/
  asked : List (String × Option String) := []

instance {α : Type} [AreaSource α] : AreaSource (Recorder α) where
  readArea name existing recorder :=
    let (answer, areas) := AreaSource.readArea name existing recorder.areas
    (answer, { areas, asked := recorder.asked ++ [(name, existing)] })

/-- The line of an input command without data. -/
theorem Instruction.ofLine_of_input {line keyword name : String}
    (hline : lineWords line = [keyword, name]) (hkeyword : sameName keyword "input" = true) :
    ofLine line = .obey (.input name none) := by
  refine ofLine_eq_obey_iff.2 ⟨?_, ?_, ?_⟩
  · rw [← Bool.not_eq_true, ← lineWords_eq_nil_iff, hline]
    exact List.cons_ne_nil _ _
  · rw [← Bool.not_eq_true, CommandSet.isQuit_standard_iff, hline]
    rintro ⟨k, hk, -⟩
    cases hk
  · rw [CommandSet.command?_standard_iff, hline]
    exact .inputArea hkeyword

namespace Bench

variable {α ω : Type} [AreaSource α] [Outlet ω] {bench : Bench (Recorder α) ω}
  {line keyword name : String}

/-- An input line without data asks once, with the data of the first text that the name addresses as a
reference. -/
theorem asked_execute_of_input (hline : lineWords line = [keyword, name])
    (hkeyword : sameName keyword "input" = true) :
    (bench.execute line).2.areas.asked
      = bench.areas.asked ++ [(name, (bench.store.lookup name).head?.map Text.data)] := by
  rw [execute_of_wantsArea (Instruction.ofLine_of_input hline hkeyword)]
  dsimp only [AreaSource.readArea]
  rcases AreaSource.readArea name _ bench.areas.areas with ⟨_ | data, areas⟩ <;> rfl

/-- An answer to an input line without data is entered under the name. -/
theorem store_execute_of_input (hline : lineWords line = [keyword, name])
    (hkeyword : sameName keyword "input" = true) {data : String}
    (hanswer : (AreaSource.readArea name ((bench.store.lookup name).head?.map Text.data)
      bench.areas.areas).1 = .ok data) :
    (bench.execute line).2.store = bench.store.addText (enteredText name data) := by
  rw [execute_of_wantsArea (Instruction.ofLine_of_input hline hkeyword)]
  dsimp only [AreaSource.readArea]
  rcases hread : AreaSource.readArea name _ bench.areas.areas with ⟨_ | entered, areas⟩
  · rw [hread] at hanswer
    cases hanswer
  · rw [hread] at hanswer
    cases hanswer
    rfl

/-- In a reachable store, an input line without data shows the data of the first text that its name
addresses as a reference.  If the name has no star, this is exactly the data that an answer replaces, and
nothing is shown exactly if an answer creates a text.  In any case an answer creates a text if nothing is
shown; and if a text is shown, an answer replaces its data if it has the very name, and leaves it as it is
if not. -/
theorem execute_shows_first_addressed (h : bench.store.Reachable)
    (hline : lineWords line = [keyword, name]) (hkeyword : sameName keyword "input" = true) :
    ∃ existing, (bench.execute line).2.areas.asked = bench.areas.asked ++ [(name, existing)]
      ∧ existing = (bench.store.lookup name).head?.map Text.data
      ∧ ∀ data, (AreaSource.readArea name existing bench.areas.areas).1 = .ok data →
        (NamePattern.isPattern name = false →
            (∀ old, existing = some old
              ↔ bench.store.Replaces name old data (bench.execute line).2.store)
            ∧ (existing = none ↔ bench.store.Creates name data (bench.execute line).2.store))
          ∧ (existing = none → bench.store.Creates name data (bench.execute line).2.store)
          ∧ ∀ t, (bench.store.lookup name).head? = some t →
            (sameName t.name name = true →
              bench.store.Replaces name t.data data (bench.execute line).2.store)
            ∧ (sameName t.name name = false → t ∈ (bench.execute line).2.store.texts) := by
  have htidy := h.tidy
  refine ⟨_, asked_execute_of_input hline hkeyword, rfl, ?_⟩
  intro data hanswer
  rw [store_execute_of_input hline hkeyword hanswer]
  refine ⟨?_, ?_, ?_⟩
  · intro hpattern
    rw [Store.head?_lookup_of_not_isPattern hpattern]
    refine ⟨fun old => htidy.distinct.replaces_addText_iff.symm, ?_⟩
    rw [Store.creates_addText_iff, Option.map_eq_none_iff]
  · intro hnone
    exact Store.creates_addText (htidy.get?_eq_none (Option.map_eq_none_iff.1 hnone))
  · intro t ht
    have hmem := Store.mem_of_mem_lookup (List.mem_of_mem_head? ht)
    refine ⟨?_, Store.mem_texts_addText hmem⟩
    intro hname
    exact Store.replaces_addText (htidy.distinct.get?_eq_some_iff.2 ⟨hmem, hname⟩)

/-- A text is shown and replaced under another spelling of its name. -/
theorem execute_shows_other_spelling : ∃ bench : Bench (Recorder Prepared) String,
    bench.store.Reachable
      ∧ (bench.execute "INPUT  Notes").2.areas.asked = [("Notes", some "one")]
      ∧ bench.store.Replaces "Notes" "one" "two" (bench.execute "INPUT  Notes").2.store := by
  let settings : ScriptSettings := { name := "s", terminator := ".", keepGoing := false }
  have h : Store.Reachable (runScript settings "input notes one" {} "").2.1 :=
    .script settings _ "" .empty
  let bench : Bench (Recorder Prepared) String :=
    { store := (runScript settings "input notes one" {} "").2.1
      areas := { areas := Prepared.mk (.ok "two") }
      out := "" }
  have hline : lineWords "INPUT  Notes" = ["INPUT", "Notes"] := by decide +kernel
  rcases bench.execute_shows_first_addressed h hline (by decide) with
    ⟨existing, hasked, hexisting, hanswer⟩
  have hone : existing = some "one" := hexisting.trans (by decide +kernel)
  refine ⟨bench, h, ?_, ((hanswer "two" rfl).1 (by decide)).1 "one" |>.1 hone⟩
  rw [hasked, hone]
  rfl

/-- A name with a star shows the text that it fits, although it is a new text that is entered. -/
theorem execute_shows_text_it_keeps : ∃ bench : Bench (Recorder Prepared) String,
    bench.store.Reachable
      ∧ (bench.execute "input a*").2.areas.asked = [("a*", some "one")]
      ∧ bench.store.Creates "a*" "two" (bench.execute "input a*").2.store
      ∧ ¬ bench.store.Replaces "a*" "one" "two" (bench.execute "input a*").2.store := by
  let settings : ScriptSettings := { name := "s", terminator := ".", keepGoing := false }
  let bench : Bench (Recorder Prepared) String :=
    { store := (runScript settings "input apple one" {} "").2.1
      areas := { areas := Prepared.mk (.ok "two") }
      out := "" }
  have h : bench.store.Reachable := .script settings _ "" .empty
  have hcreates : bench.store.Creates "a*" "two" (bench.execute "input a*").2.store := by
    unfold Store.Creates
    decide +kernel
  refine ⟨bench, h, by decide +kernel, hcreates, ?_⟩
  intro hreplaces
  exact Store.not_replaces_and_creates ⟨hreplaces, hcreates⟩

end Bench

end TextDesk
