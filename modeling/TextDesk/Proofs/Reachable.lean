import TextDesk.Dialogue
import TextDesk.Script
import TextDesk.Proofs.Command.RoundTrip
import TextDesk.Proofs.Session
import TextDesk.Proofs.StateFile
import TextDesk.Proofs.Store.Tidy

/-! # Reachable stores

The stores that can arise from the empty one, by lines, scripts, dialogues and state files in any
order.  Main statement: all of them are tidy.  Each kind of run carries the invariant along its steps:
its store is tidy, and the name of a text whose data is being entered is a word.
-/

namespace TextDesk

/-! ## Commands of lines -/

/-- A line is obeyed only if it gives a command, which is well-formed. -/
theorem Instruction.wellFormed_of_ofLine {line : String} {c : Command}
    (h : Instruction.ofLine line = .obey c) : c.WellFormed :=
  CommandSet.wellFormed_of_command? (ofLine_eq_obey_iff.1 h).2.2

namespace Store

variable {s s' : Store} {c : Command} {reply : Reply}

/-- A cursor that a well-formed command places names a text of the store. -/
theorem tidyIn_resolvedCursor {name target : String} {start stop : Destination} {ahead : Bool}
    (hc : (Command.cursor name target start ahead stop).WellFormed) :
    ∀ n ∈ (s.resolvedCursor name target start ahead stop).target, ∃ t ∈ s.texts, t.name = n
      ∧ (s.resolvedCursor name target start ahead stop).TidyIn n := by
  intro n hn
  rcases hc with ⟨hname, -, hstart, hstop⟩
  -- the target is resolved to the name of the first text that the reference addresses
  rcases Option.map_eq_some_iff.1 hn with ⟨t, ht, rfl⟩
  exact ⟨t, mem_of_mem_lookup (List.mem_of_mem_head? ht), rfl, hname, hn, hstart, hstop⟩

/-- Well-formed commands keep stores tidy. -/
theorem Tidy.obey (h : s.Tidy) (hc : c.WellFormed) (hs : s.obey c = .ok (reply, s')) : s'.Tidy := by
  cases c with
  | input name data =>
    cases data with
    | none =>
      rw [obey_input_none] at hs
      cases hs
      exact h
    | some data =>
      rw [obey_input_some] at hs
      cases hs
      exact h.addText hc.1 data
  | format name separators =>
    rw [obey_format] at hs
    rcases exists_of_map_eq_ok hs with ⟨s'', hformat, heq⟩
    cases heq
    exact h.format hformat
  | cursor name target start ahead stop =>
    rw [obey_cursor] at hs
    rcases exists_of_map_eq_ok hs with ⟨s'', hcursor, heq⟩
    cases heq
    exact h.addCursor hcursor (tidyIn_resolvedCursor hc)
  | send source target =>
    rw [obey_send] at hs
    rcases exists_of_map_eq_ok hs with ⟨s'', hsend, heq⟩
    cases heq
    exact h.sendText hc.2 hsend
  | print reference =>
    rw [obey_print] at hs
    rcases exists_of_map_eq_ok hs with ⟨texts, -, heq⟩
    cases heq
    exact h

/-- A well-formed command wants an area only for a text whose name is a word. -/
theorem isWord_of_obey_eq_wantsArea (hc : c.WellFormed) {name : String} {existing : Option String}
    (hs : s.obey c = .ok (.wantsArea name existing, s')) : IsWord name.toList := by
  rcases obey_eq_wantsArea hs with ⟨rfl, -, -⟩
  exact hc.1

end Store

/-! ## Lines on a bench -/

/-- Executing a line keeps the store of a bench tidy, whatever the answers to its area. -/
theorem Bench.tidy_execute {α ω : Type} [AreaSource α] [Outlet ω] {bench : Bench α ω}
    (h : bench.store.Tidy) (line : String) : (bench.execute line).2.store.Tidy := by
  rw [execute_eq]
  cases hline : Instruction.ofLine line with
  | nothing => exact h
  | quit => exact h
  | reject failure => exact h
  | obey c =>
    have hc := Instruction.wellFormed_of_ofLine hline
    dsimp only
    cases hobey : bench.store.obey c with
    | error failure => exact h
    | ok result =>
      rcases result with ⟨reply, store⟩
      have hstore := h.obey hc hobey
      cases reply with
      | done => exact hstore
      | listing texts =>
        dsimp only
        rcases Outlet.write (Listing.render texts) bench.out with ⟨_ | _, out⟩
        · exact hstore
        · exact hstore
      | wantsArea name existing =>
        have hname := Store.isWord_of_obey_eq_wantsArea hc hobey
        dsimp only
        rcases AreaSource.readArea name existing bench.areas with ⟨_ | data, areas⟩
        · exact hstore
        · exact hstore.addText hname data

/-! ## Scripts -/

namespace ScriptRun

variable {ω : Type} {run : ScriptRun ω} {settings : ScriptSettings}

/-- The store is tidy, and the name of a text whose data is being entered is a word. -/
structure Tidy (run : ScriptRun ω) : Prop where
  store : run.store.Tidy
  area : ∀ start name lines, run.mode = .area start name lines → IsWord name.toList

/-- Where no data is being entered, only the store matters. -/
theorem tidy_of_mode_ne (h : run.store.Tidy)
    (hmode : ∀ start name lines, run.mode ≠ .area start name lines) : run.Tidy := by
  refine ⟨h, ?_⟩
  intro start name lines heq
  exact absurd heq (hmode start name lines)

theorem tidy_count {store : Store} (h : store.Tidy) : (run.count store).Tidy := by
  refine tidy_of_mode_ne h ?_
  intro start name lines heq
  cases heq

theorem tidy_fail (h : run.store.Tidy) (number : Nat) (failure : Failure) :
    (run.fail settings number failure).Tidy := by
  unfold ScriptRun.fail
  split
  · refine tidy_of_mode_ne h ?_
    intro start name lines heq
    cases heq
  · refine tidy_of_mode_ne h ?_
    intro start name lines heq
    cases heq

theorem Tidy.finish (h : run.Tidy) : (run.finish settings).Tidy := by
  unfold ScriptRun.finish
  split
  · exact tidy_fail h.store _ _
  · exact h

variable [Outlet ω]

theorem tidy_obey (h : run.store.Tidy) {c : Command} (hc : c.WellFormed) (number : Nat) :
    (run.obey settings number c).Tidy := by
  unfold ScriptRun.obey
  split
  · exact tidy_fail h number _
  · next store hobey => exact tidy_count (h.obey hc hobey)
  · next texts store hobey =>
    split
    · exact tidy_count (h.obey hc hobey)
    · refine tidy_fail ?_ number _
      exact h
  · next name existing store hobey =>
    -- the entry that starts is of the text that the command names
    refine ⟨h, ?_⟩
    intro start n lines heq
    cases heq
    exact Store.isWord_of_obey_eq_wantsArea hc hobey

/-- Every line of a script keeps the invariant. -/
theorem Tidy.step (h : run.Tidy) (line : String) (number : Nat) :
    (run.step settings line number).Tidy := by
  unfold ScriptRun.step
  split
  · exact h
  · exact h
  · -- a line of the data of a text
    next start name lines hmode =>
    have hname := h.area start name lines hmode
    split
    · exact tidy_count (h.store.addText hname _)
    · refine ⟨h.store, ?_⟩
      intro start' name' lines' heq
      cases heq
      exact hname
  · -- a command line
    split
    · exact h
    split
    · exact h
    · refine tidy_of_mode_ne h.store ?_
      intro start name lines heq
      cases heq
    · exact tidy_fail h.store number _
    · next c hline => exact tidy_obey h.store (Instruction.wellFormed_of_ofLine hline) number

/-- Every run of lines keeps the invariant. -/
theorem Tidy.steps (h : run.Tidy) (number : Nat) (lines : List String) :
    (run.steps settings number lines).Tidy := by
  induction lines generalizing run number with
  | nil => exact h
  | cons line lines ih => exact ih (h.step line number) (number + 1)

end ScriptRun

/-- A script keeps the store tidy, also if it fails. -/
theorem tidy_runScript {ω : Type} [Outlet ω] {s : Store} (h : s.Tidy) (settings : ScriptSettings)
    (source : String) (out : ω) : (runScript settings source s out).2.1.Tidy := by
  have hstart : ({ store := s, out } : ScriptRun ω).Tidy := by
    refine ScriptRun.tidy_of_mode_ne h ?_
    intro start name lines heq
    cases heq
  exact ((hstart.steps 1 (textLines source)).finish).store

/-! ## Dialogues -/

namespace Dialogue

variable {d : Dialogue}

/-- The store is tidy, and the name of a text whose data is being entered is a word. -/
structure Tidy (d : Dialogue) : Prop where
  store : d.store.Tidy
  area : ∀ name lines, d.mode = .area name lines → IsWord name.toList

/-- Where no data is being entered, only the store matters. -/
theorem tidy_of_mode_ne (h : d.store.Tidy) (hmode : ∀ name lines, d.mode ≠ .area name lines) :
    d.Tidy := by
  refine ⟨h, ?_⟩
  intro name lines heq
  exact absurd heq (hmode name lines)

theorem tidy_complain (h : d.store.Tidy) (failure : Failure) : (d.complain failure).1.Tidy := by
  refine tidy_of_mode_ne h ?_
  intro name lines heq
  cases heq

theorem tidy_leave (h : d.store.Tidy) : d.leave.1.Tidy := by
  refine tidy_of_mode_ne h ?_
  intro name lines heq
  cases heq

theorem Tidy.obey (h : d.Tidy) {c : Command} (hc : c.WellFormed) : (d.obey c).1.Tidy := by
  unfold Dialogue.obey
  split
  · exact tidy_complain h.store _
  · next store hobey => exact ⟨h.store.obey hc hobey, h.area⟩
  · next texts store hobey => exact ⟨h.store.obey hc hobey, h.area⟩
  · next name existing store hobey =>
    refine ⟨h.store.obey hc hobey, ?_⟩
    intro n lines heq
    cases heq
    exact Store.isWord_of_obey_eq_wantsArea hc hobey

theorem Tidy.answer (h : d.Tidy) (line : String) : (d.answer line).1.Tidy := by
  unfold Dialogue.answer
  split
  · exact h
  · exact tidy_leave h.store
  · exact tidy_complain h.store _
  · next c hline => exact h.obey (Instruction.wellFormed_of_ofLine hline)

theorem Tidy.onCommand (h : d.Tidy) (event : Event) : (d.onCommand event).1.Tidy := by
  unfold Dialogue.onCommand
  split
  · split
    · exact h
    · exact h.answer _
  · exact h
  · exact tidy_leave h.store
  · refine tidy_of_mode_ne h.store ?_
    intro name lines heq
    cases heq

theorem tidy_onArea (h : d.store.Tidy) {name : String} (hname : IsWord name.toList)
    (lines : List String) (event : Event) : (d.onArea name lines event).1.Tidy := by
  unfold Dialogue.onArea
  split
  · split
    · have hstore := h.addText hname (joinLines lines)
      refine tidy_of_mode_ne hstore ?_
      intro name lines heq
      cases heq
    · refine ⟨h, ?_⟩
      intro n more heq
      cases heq
      exact hname
  · exact tidy_complain h _
  · exact tidy_complain h _
  · exact tidy_complain h _

/-- Every event keeps the invariant. -/
theorem Tidy.step (h : d.Tidy) (event : Event) : (d.step event).1.Tidy := by
  unfold Dialogue.step
  split
  · exact h
  · exact h.onCommand event
  · next name lines hmode => exact tidy_onArea h.store (h.area name lines hmode) lines event

/-- Every run of events keeps the invariant. -/
theorem Tidy.steps (h : d.Tidy) (events : List Event) : (d.steps events).1.Tidy := by
  induction events generalizing d with
  | nil => exact h
  | cons event events ih => exact ih (h.step event)

/-- A dialogue keeps the store tidy. -/
theorem tidy_hold {s : Store} (h : s.Tidy) (settings : DialogueSettings) (events : List Event) :
    (hold settings s events).1.store.Tidy := by
  have hstart : ({ settings, store := s } : Dialogue).Tidy := by
    refine tidy_of_mode_ne h ?_
    intro name lines heq
    cases heq
  exact (hstart.steps (events ++ [.eof, .eof])).store

end Dialogue

/-! ## Reachable stores -/

namespace Store

/-- The stores that arise from the empty one by lines, scripts, dialogues, and saving and loading. -/
inductive Reachable : Store → Prop
  | empty : Reachable {}
  | execute {α ω : Type} [AreaSource α] [Outlet ω] {bench : Bench α ω} (line : String)
      (h : Reachable bench.store) : Reachable (bench.execute line).2.store
  | script {ω : Type} [Outlet ω] {s : Store} (settings : ScriptSettings) (source : String) (out : ω)
      (h : Reachable s) : Reachable (runScript settings source s out).2.1
  | dialogue {s : Store} (settings : DialogueSettings) (events : List Event) (h : Reachable s) :
      Reachable (Dialogue.hold settings s events).1.store
  | reload {s s' : Store} (h : Reachable s) (hs : s.Storable)
      (hload : StateFile.decode (StateFile.encode s) = .ok s') : Reachable s'

/-- Every reachable store is tidy. -/
theorem Reachable.tidy {s : Store} (h : s.Reachable) : s.Tidy := by
  induction h with
  | empty => exact tidy_empty
  | execute line h ih => exact Bench.tidy_execute ih line
  | script settings source out h ih => exact tidy_runScript ih settings source out
  | dialogue settings events h ih => exact Dialogue.tidy_hold ih settings events
  | reload h hs hload ih =>
    -- what is loaded is the store that was saved
    rw [StateFile.decode_eq_of_reads (StateFile.reads_encode hs)] at hload
    cases hload
    exact ih

/-- In every reachable store, the names of texts are words that differ up to ASCII case; in each text, the
names of cursors are words that differ, every cursor names the text as the text is spelled, and both its
ends have exactly one field set. -/
theorem Reachable.names_cursors_and_ends {s : Store} (h : s.Reachable) :
    (∀ t ∈ s.texts, IsWord t.name.toList)
      ∧ (s.texts.Pairwise fun t u => sameName t.name u.name = false)
      ∧ ∀ t ∈ s.texts, (t.cursors.Pairwise fun c d => c.name ≠ d.name)
        ∧ ∀ c ∈ t.cursors, IsWord c.name.toList ∧ c.target = some t.name
          ∧ c.start.WellFormed ∧ c.stop.WellFormed := by
  have htidy := h.tidy
  refine ⟨?_, List.pairwise_map.1 htidy.distinct, ?_⟩
  · intro t ht
    exact (htidy.texts t ht).name
  intro t ht
  refine ⟨List.pairwise_map.1 (htidy.texts t ht).cursorNames, ?_⟩
  intro c hc
  have hcursor := (htidy.texts t ht).cursors c hc
  exact ⟨hcursor.name, hcursor.target, hcursor.start, hcursor.stop⟩

/-- A cursor placed by a pattern names its text as the text was entered. -/
theorem names_cursors_and_ends_of_pattern : ∃ s : Store, s.Reachable
    ∧ (s.texts.map fun t => (t.name, t.cursors.map Cursor.name)) = [("notes", ["c"])]
    ∧ ∀ t ∈ s.texts, ∀ c ∈ t.cursors, c.target = some t.name := by
  let settings : ScriptSettings := { name := "s", terminator := ".", keepGoing := false }
  let source := "input notes abc\ncursor c NOTE* 1 -> end"
  have h : Reachable (runScript settings source {} "").2.1 :=
    .script settings source "" .empty
  rcases h.names_cursors_and_ends with ⟨-, -, hcursors⟩
  exact ⟨_, h, by decide +kernel, fun t ht c hc => ((hcursors t ht).2 c hc).2.1⟩

end Store

end TextDesk
