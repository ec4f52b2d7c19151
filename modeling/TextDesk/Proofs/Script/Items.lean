import TextDesk.Folder
import TextDesk.Proofs.Printed

/-! # What scripts ask for

Scripts ask for lines to be executed, in order.  Here these lines are laid out as one list before any of
them is executed: comments and blank lines are left out, the line that wants an area takes the area behind
it along, and a script that cannot be read is an item of its own.  Executing the items up to the first one
that ends the session is what running the scripts comes to.  Main statement:
`ScriptItem.executeAll_ofLines_append`.
-/

namespace TextDesk

/-! ## Lines and their answers -/

/-- A line ends the session if it is the line for that, and is not blank. -/
theorem Instruction.ofLine_eq_quit_iff {line : String} :
    ofLine line = .quit ↔ isBlankLine line = false ∧ CommandSet.standard.isQuit line = true := by
  unfold ofLine
  constructor
  · intro h
    split at h
    · cases h
    next hblank =>
    split at h
    · next hquit => exact ⟨by simpa using hblank, hquit⟩
    · split at h <;> cases h
  · rintro ⟨hblank, hquit⟩
    simp [hblank, hquit]

section

variable {α : Type} [AreaSource α] {store : Store} {areas : α} {out line : String}

/-- A line that does not end the session answers that the session goes on, unless it fails. -/
theorem Bench.answer_of_execute {ω : Type} [Outlet ω] {bench after : Bench α ω} {answer : Bool}
    (h : bench.execute line = (.ok answer, after))
    (hquit : ¬ CommandSet.standard.isQuit line = true) : answer = true := by
  rw [execute_eq] at h
  cases hline : Instruction.ofLine line with
  | nothing =>
    rw [hline] at h
    cases h
    rfl
  | quit => exact absurd (Instruction.ofLine_eq_quit_iff.1 hline).2 hquit
  | reject failure =>
    rw [hline] at h
    cases h
  | obey c =>
    rw [hline] at h
    cases hobey : bench.store.obey c with
    | error failure =>
      simp only [hobey] at h
      cases h
    | ok result =>
      rcases result with ⟨reply, store⟩
      cases reply with
      | done =>
        simp only [hobey] at h
        cases h
        rfl
      | listing texts =>
        rcases hwrite : Outlet.write (Listing.render texts) bench.out with ⟨_ | _, out⟩ <;>
          simp only [hobey, hwrite] at h <;> cases h
        rfl
      | wantsArea name existing =>
        rcases harea : AreaSource.readArea name existing bench.areas with ⟨_ | _, areas⟩ <;>
          simp only [hobey, harea] at h <;> cases h
        rfl

/-- The result of a line and the store that it leaves do not depend on what was printed. -/
theorem Bench.exists_execute_of_out {result : Except Failure Bool} {after : Bench α String}
    (h : Bench.execute { store, areas, out } line = (result, after)) (other : String) :
    ∃ bench : Bench α String, Bench.execute { store, areas, out := other } line = (result, bench)
      ∧ bench.store = after.store := by
  rcases hempty : Bench.execute { store, areas, out := "" } line with ⟨answer, bench⟩
  have hout := execute_append_out out hempty
  have hother := execute_append_out other hempty
  rw [String.append_empty] at hout hother
  rw [h] at hout
  cases hout
  exact ⟨bench.behind other, hother, rfl⟩

end

/-! ## Items -/

/-- What scripts ask for at one point. -/
inductive ScriptItem where
  /-- The line is executed, with the area behind it for its data. -/
  | line (text : String) (site : Site) (area : Except Failure String)
  /-- The script cannot be read. -/
  | unreadable (failure : Failure)

namespace ScriptItem

/-- What the numbered lines of a script ask for. -/
def ofLines (settings : ScriptSettings) : List (String × Nat) → List ScriptItem
  | [] => []
  | (text, number) :: rest =>
    if isComment text || isBlankLine text then ofLines settings rest
    else
      line text ⟨some settings.name, some number⟩ (areaAhead settings.terminator rest).1
        :: ofLines settings (linesBehind settings.terminator text rest)
termination_by lines => lines.length
decreasing_by
  · exact Nat.lt_succ_self _
  · exact Nat.lt_succ_of_le (length_linesBehind_le settings.terminator text rest)

/-- Executes items in order, up to the first one that ends the session: the line that is for that, a
script that cannot be read, and, unless failing lines are passed over, a line that fails. -/
def executeAll (keepGoing : Bool) (store : Store) : List ScriptItem → Except Failure Unit × Store
  | [] => (.ok (), store)
  | unreadable failure :: _ => (.error failure, store)
  | line text site area :: items =>
    let (result, bench) := Bench.execute { store, areas := Prepared.mk area, out := "" } text
    match result with
    | .ok true => executeAll keepGoing bench.store items
    | .ok false => (.ok (), bench.store)
    | .error failure =>
      if keepGoing then executeAll keepGoing bench.store items
      else (.error (failure.placedAt site), bench.store)

/-- Executing what the lines of a script ask for comes to what the lines come to; if that is not the end
of the session, the items behind them are executed. -/
theorem executeAll_ofLines_append (settings : ScriptSettings) (store : Store) (out : String)
    (lines : List (String × Nat)) (items : List ScriptItem) :
    executeAll settings.keepGoing store (ofLines settings lines ++ items)
      = match Outcome.ofLines settings store out lines with
        | (.error failure, after, _) => (.error failure, after)
        | (.ok report, after, _) =>
          if report.ended then (.ok (), after) else executeAll settings.keepGoing after items := by
  fun_induction Outcome.ofLines settings store out lines with
  | case1 store out => simp [ofLines]
  | case2 store out line number rest hskip ih => rw [ofLines, if_pos hskip, ih]
  | case3 store out line number rest hskip hquit =>
    simp only [Bool.or_eq_true, not_or, Bool.not_eq_true] at hskip
    have hline := Instruction.ofLine_eq_quit_iff.2 ⟨hskip.2, hquit⟩
    rw [ofLines, if_neg (by simp [hskip]), List.cons_append, executeAll, Bench.execute_eq, hline]
    rfl
  | case4 store out line number rest hskip hquit data left answer bench hexecute ih =>
    rcases Bench.exists_execute_of_out hexecute "" with ⟨fresh, hfresh, hstore⟩
    obtain rfl : answer = true := Bench.answer_of_execute hexecute hquit
    rw [ofLines, if_neg hskip, List.cons_append, executeAll, hfresh]
    dsimp only
    rw [hstore, ih, Outcome.behind]
    rcases Outcome.ofLines settings bench.store bench.out left with ⟨_ | report, after, printed⟩ <;> rfl
  | case5 store out line number rest hskip hquit data left failure bench hexecute placed hkeep ih =>
    rcases Bench.exists_execute_of_out hexecute "" with ⟨fresh, hfresh, hstore⟩
    have hsame : bench.store = store := (Bench.eq_of_execute_eq_error hexecute).1
    rw [ofLines, if_neg hskip, List.cons_append, executeAll, hfresh]
    dsimp only
    rw [if_pos hkeep, hstore, hsame, ih, Outcome.behind]
    rcases Outcome.ofLines settings store bench.out left with ⟨_ | report, after, printed⟩ <;> rfl
  | case6 store out line number rest hskip hquit data failure bench hexecute placed hstop =>
    rcases Bench.exists_execute_of_out hexecute "" with ⟨fresh, hfresh, hstore⟩
    have hsame : bench.store = store := (Bench.eq_of_execute_eq_error hexecute).1
    rw [ofLines, if_neg hskip, List.cons_append, executeAll, hfresh]
    dsimp only
    rw [if_neg hstop, hstore, hsame]

/-- What a script file asks for, from what opening it came to. -/
def ofFile (settings : ScriptSettings) (opened : Opened) : List ScriptItem :=
  match scriptSource settings.name opened with
  | .error failure => [unreadable failure]
  | .ok source => ofLines settings ((textLines source).zipIdx 1)

/-- Executing what a script file asks for comes to what running the file comes to; if that is not the
end of the session, the items behind them are executed. -/
theorem executeAll_ofFile_append (settings : ScriptSettings) (opened : Opened) (store : Store)
    (out : String) (items : List ScriptItem) :
    executeAll settings.keepGoing store (ofFile settings opened ++ items)
      = match runScriptFile settings opened store out with
        | (.error failure, after, _) => (.error failure, after)
        | (.ok report, after, _) =>
          if report.ended then (.ok (), after) else executeAll settings.keepGoing after items := by
  unfold ofFile runScriptFile
  cases scriptSource settings.name opened with
  | error failure => rfl
  | ok source =>
    have hrun : runScript settings source store out
        = Outcome.ofLines settings store out ((textLines source).zipIdx 1) :=
      ScriptRun.outcome_steps store out (textLines source)
    dsimp only
    rw [hrun]
    exact executeAll_ofLines_append settings store out _ items

end ScriptItem

end TextDesk
