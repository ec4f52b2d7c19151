import TextDesk.Dialogue
import TextDesk.Proofs.Diagnosis
import TextDesk.Proofs.Lines
import TextDesk.Proofs.Script

/-! # Dialogues and scripts

A dialogue and a script run that keeps going answer the same lines in the same way, as far as the texts
are concerned: they stay in step, line by line.  Main statement: a dialogue on some lines leaves the
store that a script of these lines leaves.
-/

namespace TextDesk

/-! ## Comments -/

/-- The first word of a comment starts with the comment mark. -/
theorem exists_lineWords_of_isComment {line : String} (h : isComment line = true) :
    ∃ cs ws, lineWords line = String.ofList ('#' :: cs) :: ws := by
  obtain ⟨cs, hstart⟩ : ∃ cs, trimStart line.toList = '#' :: cs := by
    have hhead : (trimStart line.toList).head? = some '#' := by simpa [isComment] using h
    exact List.head?_eq_some_iff.1 hhead
  let word := '#' :: cs.takeWhile (!isBlank ·)
  have hparts : '#' :: cs = word ++ cs.dropWhile (!isBlank ·) := by
    simp [word, List.takeWhile_append_dropWhile]
  have hword : IsWord word := by
    refine ⟨List.cons_ne_nil _ _, ?_⟩
    intro c hc
    rcases List.mem_cons.1 hc with rfl | hc
    · rfl
    · simpa using List.all_eq_true.1 List.all_takeWhile c hc
  have hblank : BlankFront (cs.dropWhile (!isBlank ·)) := blankFront_dropWhile cs
  refine ⟨cs.takeWhile (!isBlank ·),
    (words (cs.dropWhile (!isBlank ·))).map String.ofList, ?_⟩
  rw [lineWords, ← words_trimStart, hstart, hparts, words_append hword hblank]
  rfl

/-- A comment has no keyword. -/
theorem CommandSet.lacksKeyword_of_isComment {line : String} (h : isComment line = true) :
    standard.LacksKeyword (lineWords line) := by
  have hkeywords : ∀ k ∈ standard.keywords, (lowered k.toList).head? ≠ some '#' := by decide
  rcases exists_lineWords_of_isComment h with ⟨cs, ws, hwords⟩
  rw [hwords]
  intro w hw k hk
  obtain rfl : String.ofList ('#' :: cs) = w := Option.some.inj hw
  by_contra hsame
  -- a keyword that is the same name as the first word would start with the comment mark
  rw [Bool.not_eq_false, sameName_iff, String.toList_ofList] at hsame
  apply hkeywords k hk
  rw [hsame]
  rfl

/-- A comment is a line that does nothing, or it is rejected. -/
theorem Instruction.ofLine_of_isComment {line : String} (h : isComment line = true) :
    ofLine line = .nothing ∨ ∃ failure, ofLine line = .reject failure := by
  have hnot := CommandSet.not_accepts_of_lacksKeyword (CommandSet.lacksKeyword_of_isComment h)
  have hcommand : CommandSet.standard.command? line = none := by
    rw [Option.eq_none_iff_forall_ne_some]
    intro c hc
    exact hnot (Or.inl ⟨c, hc⟩)
  have hquit : CommandSet.standard.isQuit line = false := by
    rw [← Bool.not_eq_true]
    intro hquit
    exact hnot (Or.inr hquit)
  by_cases hblank : isBlankLine line = true
  · left
    simp [ofLine, hblank]
  · right
    rw [Bool.not_eq_true] at hblank
    exact ofLine_eq_reject hblank hquit hcommand

namespace Dialogue

variable {ω : Type} {settings : ScriptSettings} {run : ScriptRun ω} {d : Dialogue}

/-! ## In step -/

/-- A script run and a dialogue that make the same of the next line. -/
inductive SameMode : ScriptMode → DialogueMode → Prop
  | command : SameMode .command .command
  | area {start : Nat} {name : String} {lines : List String} :
      SameMode (.area start name lines) (.area name lines)
  | finished {result : Except Failure Unit} : SameMode .ended (.closed result)

/-- A script run and a dialogue with the same texts that make the same of the next line. -/
structure InStep (settings : ScriptSettings) (run : ScriptRun ω) (d : Dialogue) : Prop where
  store : run.store = d.store
  mode : SameMode run.mode d.mode
  terminator : d.settings.areaTerminator = settings.terminator

/-- A failure that a script run passes over leaves it where a dialogue waits for a command line. -/
theorem inStep_fail (hkeep : settings.keepGoing = true) (hstore : run.store = d.store)
    (hmode : d.mode = .command) (hterminator : d.settings.areaTerminator = settings.terminator)
    (number : Nat) (failure : Failure) : InStep settings (run.fail settings number failure) d := by
  unfold ScriptRun.fail
  rw [if_pos hkeep]
  refine ⟨hstore, ?_, hterminator⟩
  rw [hmode]
  exact .command

variable [Outlet ω]

/-- A command does the same to the texts of both, also if its output is refused to the script. -/
theorem InStep.obey (h : InStep settings run d) (hkeep : settings.keepGoing = true)
    (hmode : d.mode = .command) (number : Nat) (c : Command) :
    InStep settings (run.obey settings number c) (d.obey c).1 := by
  have hcommand : SameMode .command d.mode := by
    rw [hmode]
    exact .command
  unfold ScriptRun.obey Dialogue.obey
  rw [← h.store]
  cases hobey : run.store.obey c with
  | error failure => exact inStep_fail (d := d.toCommand) hkeep h.store rfl h.terminator number failure
  | ok result =>
    rcases result with ⟨reply, store⟩
    cases reply with
    | done => exact ⟨rfl, hcommand, h.terminator⟩
    | listing texts =>
      have hsame := Store.obey_eq_listing hobey
      dsimp only
      rcases Outlet.write (Listing.render texts) run.out with ⟨reason | _, out⟩
      · -- only the script learns that its output was refused
        apply inStep_fail hkeep
        · exact hsame.symm
        · exact hmode
        · exact h.terminator
      · exact ⟨rfl, hcommand, h.terminator⟩
    | wantsArea name existing =>
      have hsame := (Store.obey_eq_wantsArea hobey).2.1
      exact ⟨hsame.symm, .area, h.terminator⟩

/-- A command line is answered in the same way by both; a comment is no command to either. -/
theorem InStep.answer (h : InStep settings run d) (hkeep : settings.keepGoing = true)
    (hrun : run.mode = .command) (hmode : d.mode = .command) (line : String) (number : Nat) :
    InStep settings (run.step settings line number) (d.answer line).1 := by
  unfold ScriptRun.step Dialogue.answer
  rw [hrun]
  dsimp only
  by_cases hcomment : isComment line = true
  · rw [if_pos hcomment]
    rcases Instruction.ofLine_of_isComment hcomment with hline | ⟨failure, hline⟩
    · rw [hline]
      exact h
    · rw [hline]
      exact ⟨h.store, by rw [hrun]; exact .command, h.terminator⟩
  · rw [if_neg hcomment]
    cases Instruction.ofLine line with
    | nothing => exact h
    | quit => exact ⟨h.store, .finished, h.terminator⟩
    | reject failure =>
      exact inStep_fail (d := d.toCommand) hkeep h.store rfl h.terminator number failure
    | obey c => exact h.obey hkeep hmode number c

/-- Where a command line is to be read, a blank line is answered like any other: not at all. -/
theorem fst_step_of_command (hmode : d.mode = .command) (line : String) :
    (d.step (.line line)).1 = (d.answer line).1 := by
  unfold step onCommand
  rw [hmode]
  dsimp only
  by_cases hblank : isBlankLine line = true
  · rw [if_pos hblank, answer, Instruction.ofLine, if_pos hblank]
  · rw [if_neg hblank]

/-- Both make the same of every line. -/
theorem InStep.step (h : InStep settings run d) (hkeep : settings.keepGoing = true) (line : String)
    (number : Nat) : InStep settings (run.step settings line number) (d.step (.line line)).1 := by
  have hinstep := h
  rcases run with ⟨store, out, executed, failures, mode⟩
  rcases d with ⟨dialogue, texts, place⟩
  rcases h with ⟨hstore, hmode, hterminator⟩
  dsimp only at hstore hmode hterminator
  -- both are at a command line, or in the same area with the same lines so far, or over
  cases hmode with
  | command =>
    rw [fst_step_of_command rfl]
    exact hinstep.answer hkeep rfl rfl line number
  | @area start name lines =>
    unfold ScriptRun.step Dialogue.step onArea
    dsimp only
    rw [hterminator]
    by_cases hlast : holdsOnly settings.terminator line = true
    · rw [if_pos hlast, if_pos hlast, hstore]
      exact ⟨rfl, .command, hterminator⟩
    · rw [if_neg hlast, if_neg hlast]
      exact ⟨hstore, .area, hterminator⟩
  | finished => exact hinstep

/-- Both make the same of any lines. -/
theorem InStep.steps (h : InStep settings run d) (hkeep : settings.keepGoing = true)
    (lines : List String) (number : Nat) :
    InStep settings (run.steps settings number lines) (d.steps (lines.map .line)).1 := by
  induction lines generalizing run d number with
  | nil => exact h
  | cons line lines ih => exact ih (h.step hkeep line number) (number + 1)

/-! ## The end of the lines -/

omit [Outlet ω] in
/-- That there are no more lines leaves the texts of a script run. -/
theorem store_finish (run : ScriptRun ω) : (run.finish settings).store = run.store := by
  unfold ScriptRun.finish ScriptRun.fail
  split
  · dsimp only
    split <;> rfl
  · rfl

/-- Events are answered in order, and the answers to later ones stand behind. -/
theorem steps_append (d : Dialogue) (events more : List Event) :
    d.steps (events ++ more) = (((d.steps events).1.steps more).1,
      (d.steps events).2 ++ ((d.steps events).1.steps more).2) := by
  induction events generalizing d with
  | nil => rfl
  | cons event events ih =>
    have hmore := ih (d.step event).1
    rw [List.cons_append, steps, steps]
    dsimp only
    rw [hmore, List.append_assoc]

theorem fst_steps_append (d : Dialogue) (events more : List Event) :
    (d.steps (events ++ more)).1 = ((d.steps events).1.steps more).1 := by
  rw [steps_append]

/-- The end of the input leaves the texts of a dialogue. -/
theorem store_step_eof (d : Dialogue) : (d.step .eof).1.store = d.store := by
  unfold step
  split <;> rfl

/-- A dialogue on some lines leaves the store that a script of these lines leaves, if it keeps going and
has the same terminator. -/
theorem store_hold_eq_store_runScript (settings : DialogueSettings) (name : String) (store : Store)
    (out : ω) {lines : List String} (hlines : ∀ line ∈ lines, IsLine line) :
    (hold settings store (lines.map .line)).1.store
      = (runScript { name, terminator := settings.areaTerminator, keepGoing := true }
          (unlines lines) store out).2.1 := by
  let script : ScriptSettings := { name, terminator := settings.areaTerminator, keepGoing := true }
  have hstart : InStep script ({ store, out } : ScriptRun ω) { settings, store } :=
    ⟨rfl, .command, rfl⟩
  have hsteps := hstart.steps rfl lines 1
  have hdialogue : (hold settings store (lines.map .line)).1.store
      = (({ settings, store } : Dialogue).steps (lines.map .line)).1.store := by
    show (({ settings, store } : Dialogue).steps (lines.map .line ++ [.eof, .eof])).1.store = _
    -- an open area fails at the first end of the input, and its lines are lost as in the script
    rw [fst_steps_append]
    exact (store_step_eof _).trans (store_step_eof _)
  have hscript : (runScript script (unlines lines) store out).2.1
      = (({ store, out } : ScriptRun ω).steps script 1 lines).store := by
    show ((({ store, out } : ScriptRun ω).steps script 1 (textLines (unlines lines))).finish
      script).store = _
    rw [textLines_unlines hlines, store_finish]
  rw [hdialogue, hscript, hsteps.store]

/-- A dialogue that meets a comment, a failing command, an area, a blank line and an area left open
makes the same texts as a script. -/
theorem store_hold_of_open_area : ∃ lines, (∀ line ∈ lines, IsLine line)
    ∧ (hold {} {} (lines.map .line)).1.store.texts = [{ name := "notes", data := "# one\ninput b" }]
    ∧ (hold {} {} (lines.map .line)).1.store
      = (runScript { name := "s", terminator := ".", keepGoing := true } (unlines lines) {} "").2.1 := by
  let lines := ["# note", "jump", "input notes", "# one", "input b", " . ", "", "input more", "open"]
  have hlines : ∀ line ∈ lines, IsLine line := by decide
  exact ⟨lines, hlines, by decide +kernel, store_hold_eq_store_runScript {} "s" {} "" hlines⟩

end Dialogue

end TextDesk
