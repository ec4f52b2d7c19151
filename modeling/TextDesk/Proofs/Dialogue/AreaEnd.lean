import Mathlib.Data.List.DropRight
import TextDesk.Proofs.Dialogue
import TextDesk.Proofs.Script.Append
import TextDesk.Proofs.Session.ShownData
import TextDesk.Proofs.Store.Put

/-! # The line that ends a text area

A line of a text area is compared with the terminator after the blanks around it are taken away, and the
terminator is compared as it is.  Main statement: a terminator without blanks around it ends every area
whose lines hold something else, in a script and in a dialogue; one with blanks around it ends none, and
all lines behind the input command are lost.
-/

namespace TextDesk

/-! ## Lines that hold a mark -/

/-- There are no blanks behind what is left when those around a text are taken away. -/
theorem rdropWhile_trim (s : List Char) : (trim s).rdropWhile isBlank = trim s :=
  List.rdropWhile_idempotent isBlank (trimStart s)

/-- There are no blanks around what is left when those around a text are taken away. -/
theorem trim_trim (s : List Char) : trim (trim s) = trim s := by
  have hstart : (trim s).dropWhile isBlank = trim s := by
    rw [List.dropWhile_eq_self_iff]
    intro hpos
    have hfront : trim s <+: trimStart s := List.rdropWhile_prefix isBlank (trimStart s)
    -- what is left starts as the text does behind its first blanks
    rw [hfront.getElem hpos]
    exact List.dropWhile_get_zero_not isBlank s (Nat.lt_of_lt_of_le hpos hfront.length_le)
  calc trim (trim s) = ((trim s).dropWhile isBlank).rdropWhile isBlank := rfl
    _ = trim s := by rw [hstart, rdropWhile_trim]

/-- A mark with blanks around it is held by no line. -/
theorem holdsOnly_eq_false {mark : String} (h : trim mark.toList ≠ mark.toList) (line : String) :
    holdsOnly mark line = false := by
  rw [holdsOnly, beq_eq_false_iff_ne]
  intro heq
  apply h
  rw [← heq, trim_trim]

/-- A text that ends with no blank does not end with a carriage return. -/
theorem isLine_of_rdropWhile {line : String} (hfeed : '\n' ∉ line.toList)
    (hend : line.toList.rdropWhile isBlank = line.toList) : IsLine line := by
  refine ⟨hfeed, ?_⟩
  intro hlast
  rcases List.getLast?_eq_some_iff.1 hlast with ⟨front, hline⟩
  rw [hline, List.rdropWhile_concat_pos isBlank front '\r' rfl] at hend
  have hlong := (List.rdropWhile_prefix isBlank front).length_le
  rw [hend, List.length_append, List.length_singleton] at hlong
  omega

/-- A line in front of others is the first line of the text that they make. -/
theorem head?_textLines_unlines {line : String} (h : IsLine line) (more : List String) :
    (textLines (unlines (line :: more))).head? = some line := by
  unfold textLines unlines
  rw [String.toList_ofList, List.flatMap_cons, List.append_assoc, List.singleton_append,
    cutLines_append_cons h.1 h.2, List.map_cons, List.head?_cons, String.ofList_toList]

/-! ## The line that wants the area -/

section

variable {name : String}

/-- The line of an input command without data has two words. -/
theorem lineWords_input (hname : IsWord name.toList) : lineWords ("input " ++ name) = ["input", name] := by
  have hwords : ∀ w ∈ ["input", name], IsWord w.toList := by
    rw [List.forall_mem_cons]
    refine ⟨by decide, ?_⟩
    simpa using hname
  have hline : "input " ++ name = " ".intercalate ["input", name] := by
    rw [← String.toList_inj]
    simp
  rw [hline]
  exact lineWords_intercalate hwords

/-- The line of an input command is no comment. -/
theorem isComment_input (name : String) : isComment ("input " ++ name) = false := by
  unfold isComment
  rw [String.toList_append]
  rfl

/-- The line of an input command without data is one line. -/
theorem isLine_input (hname : IsWord name.toList) : IsLine ("input " ++ name) := by
  have hfeed : '\n' ∉ ("input " ++ name).toList := by
    intro hmem
    rw [String.toList_append] at hmem
    rcases List.mem_append.1 hmem with hmem | hmem
    · exact absurd hmem (by decide)
    · exact absurd (hname.2 _ hmem) (by decide)
  refine isLine_of_rdropWhile hfeed ?_
  rw [List.rdropWhile_eq_self_iff]
  intro hne
  have hlast := List.getLast_mem hname.1
  simp only [String.toList_append, List.getLast_append_of_ne_nil _ hname.1, hname.2 _ hlast]
  decide

end

/-! ## Areas of a script run -/

namespace ScriptRun

variable {ω : Type} [Outlet ω] {settings : ScriptSettings} {run : ScriptRun ω} {name : String}

/-- Lines that do not hold the terminator are gathered behind the line that wants them. -/
theorem steps_input (hmode : run.mode = .command) (hname : IsWord name.toList) {lines : List String}
    (hlines : ∀ line ∈ lines, holdsOnly settings.terminator line = false) (number : Nat) :
    run.steps settings number (("input " ++ name) :: lines)
      = { run with mode := .area number name lines } := by
  have hinput := Instruction.ofLine_of_input (lineWords_input hname) (sameName_refl "input")
  have harea : ∀ line ∈ lines.zipIdx (number + 1), inArea settings.terminator line = true := by
    intro line hline
    rw [inArea, hlines line.1 (List.fst_mem_of_mem_zipIdx hline)]
    rfl
  rw [steps, step_of_wantsArea hmode (isComment_input name) hinput, steps_eq_foldl,
    foldl_take_inArea rfl harea, List.zipIdx_map_fst, List.nil_append]

end ScriptRun

/-! ## What becomes of an area -/

/-- The lines between an input command and the terminator become the data of the text, in a script, of which
that is the one command carried out, and in a dialogue. -/
structure EntersArea (terminator name : String) (lines : List String) (store : Store) : Prop where
  /-- The text has the lines as its data. -/
  data : ((store.addText (enteredText name (joinLines lines))).get? name).map Text.data
    = some (joinLines lines)
  /-- The script leaves this store. -/
  script : ∀ {ω : Type} [Outlet ω] (settings : ScriptSettings) (out : ω), settings.terminator = terminator →
    runScript settings (unlines (("input " ++ name) :: lines ++ [terminator])) store out
      = (.ok { executed := 1 }, store.addText (enteredText name (joinLines lines)), out)
  /-- The dialogue leaves this store. -/
  dialogue : ∀ settings : DialogueSettings, settings.areaTerminator = terminator →
    (Dialogue.hold settings store ((("input " ++ name) :: lines ++ [terminator]).map .line)).1.store
      = store.addText (enteredText name (joinLines lines))

/-- Whatever lines follow an input command are lost, in a script, where the command fails for want of a line
that ends the area, and in a dialogue. -/
structure LosesArea (terminator name : String) (store : Store) : Prop where
  /-- The script carries out nothing. -/
  script : ∀ {ω : Type} [Outlet ω] (settings : ScriptSettings) (source : String) (out : ω),
    settings.terminator = terminator → (textLines source).head? = some ("input " ++ name) →
      let failure := (unclosedArea terminator).placedAt ⟨some settings.name, some 1⟩
      runScript settings source store out
        = (if settings.keepGoing then .ok { failures := [failure] } else .error failure, store, out)
  /-- The dialogue changes nothing. -/
  dialogue : ∀ (settings : DialogueSettings) (lines : List String), settings.areaTerminator = terminator →
    (Dialogue.hold settings store ((("input " ++ name) :: lines).map .line)).1.store = store

section

variable {terminator name : String} {lines : List String}

/-- A dialogue on some lines leaves the store that a script run that keeps going has behind them. -/
theorem Dialogue.store_hold_eq_store_steps (settings : DialogueSettings) (store : Store)
    (lines : List String) :
    (hold settings store (lines.map .line)).1.store
      = (({ store, out := "" } : ScriptRun String).steps
          { name := "", terminator := settings.areaTerminator, keepGoing := true } 1 lines).store := by
  let script : ScriptSettings := { name := "", terminator := settings.areaTerminator, keepGoing := true }
  have hstart : InStep script ({ store, out := "" } : ScriptRun String) { settings, store } :=
    ⟨rfl, .command, rfl⟩
  have hsteps := hstart.steps rfl lines 1
  -- an open area fails at the first end of the input, and its lines are lost
  have hend : ∀ d : Dialogue, (d.steps [.eof, .eof]).1.store = d.store := by
    intro d
    exact (store_step_eof (d.step .eof).1).trans (store_step_eof d)
  show (({ settings, store } : Dialogue).steps (lines.map .line ++ [.eof, .eof])).1.store = _
  rw [fst_steps_append, hend, hsteps.store]

/-- Where no line holds the terminator, the lines of an area are lost. -/
theorem losesArea (hname : IsWord name.toList) (hnone : ∀ line, holdsOnly terminator line = false)
    (store : Store) : LosesArea terminator name store := by
  refine ⟨?_, ?_⟩
  · rintro ω _ settings source out rfl hhead failure
    rcases List.head?_eq_some_iff.1 hhead with ⟨lines, hlines⟩
    have hsteps : ({ store, out } : ScriptRun ω).steps settings 1 (textLines source)
        = { store, out, mode := .area 1 name lines } := by
      rw [hlines]
      exact ScriptRun.steps_input rfl hname (fun line _ => hnone line) 1
    unfold runScript
    dsimp only
    rw [hsteps]
    unfold ScriptRun.finish ScriptRun.fail
    by_cases hkeep : settings.keepGoing = true
    · simp only [hkeep, if_true]
      rfl
    · simp only [hkeep]
      rfl
  · rintro settings lines rfl
    let script : ScriptSettings := { name := "", terminator := settings.areaTerminator, keepGoing := true }
    have hsteps : ({ store, out := "" } : ScriptRun String).steps script 1 (("input " ++ name) :: lines)
        = { store, out := "", mode := .area 1 name lines } :=
      ScriptRun.steps_input rfl hname (fun line _ => hnone line) 1
    rw [Dialogue.store_hold_eq_store_steps, hsteps]

/-- A line that holds the terminator ends an area whose lines do not. -/
theorem entersArea (hname : IsWord name.toList) (hlines : ∀ line ∈ lines, IsLine line)
    (hend : IsLine terminator) (hnone : ∀ line ∈ lines, holdsOnly terminator line = false)
    (hlast : holdsOnly terminator terminator = true) (store : Store) :
    EntersArea terminator name lines store := by
  have hsteps : ∀ {ω : Type} [Outlet ω] (settings : ScriptSettings) (out : ω),
      settings.terminator = terminator →
      ({ store, out } : ScriptRun ω).steps settings 1 (("input " ++ name) :: lines ++ [terminator])
        = { store := store.addText (enteredText name (joinLines lines)), out, executed := 1 } := by
    rintro ω _ settings out rfl
    rw [ScriptRun.steps_append, ScriptRun.steps_input rfl hname hnone, ScriptRun.steps, ScriptRun.steps,
      ScriptRun.step]
    dsimp only
    rw [if_pos hlast]
    rfl
  have hall : ∀ line ∈ ("input " ++ name) :: lines ++ [terminator], IsLine line := by
    rw [List.cons_append, List.forall_mem_cons, List.forall_mem_append]
    exact ⟨isLine_input hname, hlines, by simpa using hend⟩
  refine ⟨?_, ?_, ?_⟩
  · exact Store.data_addText store (enteredText name (joinLines lines))
  · intro ω _ settings out hterminator
    unfold runScript
    dsimp only
    rw [textLines_unlines hall, hsteps settings out hterminator]
    rfl
  · rintro settings rfl
    rw [Dialogue.store_hold_eq_store_steps, hsteps _ _ rfl]

/-- A terminator ends an area whose lines hold something else exactly if it has no blanks around it.  With
blanks around it, it ends no area at all. -/
theorem entersArea_iff_trim_eq (hname : IsWord name.toList) (hfeed : '\n' ∉ terminator.toList)
    (hlines : ∀ line ∈ lines, IsLine line ∧ trim line.toList ≠ trim terminator.toList) (store : Store) :
    (EntersArea terminator name lines store ↔ trim terminator.toList = terminator.toList)
      ∧ (trim terminator.toList ≠ terminator.toList → LosesArea terminator name store) := by
  have hloses : trim terminator.toList ≠ terminator.toList → LosesArea terminator name store := by
    intro hblank
    exact losesArea hname (holdsOnly_eq_false hblank) store
  refine ⟨⟨?_, ?_⟩, hloses⟩
  · intro henters
    by_contra hblank
    -- the same script would come to a report and to a failure
    let settings : ScriptSettings := { name := "", terminator, keepGoing := false }
    have hreport := henters.script settings "" rfl
    rw [List.cons_append,
      (hloses hblank).script settings _ "" rfl (head?_textLines_unlines (isLine_input hname) _)] at hreport
    cases hreport
  · intro htrim
    have hend : IsLine terminator := by
      apply isLine_of_rdropWhile hfeed
      rw [← htrim, rdropWhile_trim]
    have hnone : ∀ line ∈ lines, holdsOnly terminator line = false := by
      intro line hline
      rw [holdsOnly, beq_eq_false_iff_ne, ← htrim]
      exact (hlines line hline).2
    exact entersArea hname (fun line hline => (hlines line hline).1) hend hnone (beq_iff_eq.2 htrim) store

/-- A terminator of several words ends an area that looks like commands, and a dot between blanks ends none. -/
theorem entersArea_of_several_words :
    EntersArea "the end" "notes" ["", "# the end", "quit", "  print notes", "the  end"] {}
      ∧ LosesArea " . " "notes" {} := by
  have hname : IsWord "notes".toList := by decide
  have hlines : ∀ line ∈ ["", "# the end", "quit", "  print notes", "the  end"],
      IsLine line ∧ trim line.toList ≠ trim "the end".toList := by decide
  have hnone : ∀ line ∈ ([] : List String), IsLine line ∧ trim line.toList ≠ trim " . ".toList := by decide
  exact ⟨(entersArea_iff_trim_eq hname (by decide) hlines {}).1.2 (by decide),
    (entersArea_iff_trim_eq hname (by decide) hnone {}).2 (by decide)⟩

/-- The line " . " holds only the terminator " . " and does not end the area. -/
theorem not_entersArea_of_blanks_around_terminator :
    IsWord "n".toList ∧ '\n' ∉ " . ".toList
      ∧ (∀ line ∈ ["x"], IsLine line ∧ trim line.toList ≠ trim " . ".toList)
      ∧ runScript { name := "s", terminator := " . ", keepGoing := false } "input n\nx\n . \n" {} ""
        = (.error ((unclosedArea " . ").placedAt ⟨some "s", some 1⟩), {}, "")
      ∧ ¬ EntersArea " . " "n" ["x"] {} := by
  have hrun : runScript { name := "s", terminator := " . ", keepGoing := false } "input n\nx\n . \n" {} ""
      = (.error ((unclosedArea " . ").placedAt ⟨some "s", some 1⟩), {}, "") := by decide +kernel
  refine ⟨by decide, by decide, by decide, hrun, ?_⟩
  intro henters
  have hreport := henters.script { name := "s", terminator := " . ", keepGoing := false } "" rfl
  have hsource : unlines (("input " ++ "n") :: ["x"] ++ [" . "]) = "input n\nx\n . \n" := by decide
  rw [hsource, hrun] at hreport
  cases hreport

end

end TextDesk
