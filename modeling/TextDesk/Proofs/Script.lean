import TextDesk.Proofs.Session
import TextDesk.Script

/-! # Scripts line by line

A script run takes one line after the other and remembers whether it is inside a text area.  Here the
same run is described without that memory, by recursion on the lines that are left: a line is executed,
and if it wants data, the data is looked up ahead.  Main statement: both come to the same outcome.
-/

namespace TextDesk

/-! ## Looking ahead -/

/-- A source of text areas that has one answer for whoever asks. -/
structure Prepared where
  answer : Except Failure String

instance : AreaSource Prepared where
  readArea _ _ prepared := (prepared.answer, prepared)

/-- Whether a line is an input command without data. -/
def wantsArea (line : String) : Bool :=
  match CommandSet.standard.command? line with
  | some (.input _ none) => true
  | _ => false

/-- Only an input command without data wants an area. -/
theorem wantsArea_iff {line : String} :
    wantsArea line = true ↔ ∃ name, CommandSet.standard.command? line = some (.input name none) := by
  unfold wantsArea
  constructor
  · intro h
    split at h
    · next name hc => exact ⟨name, hc⟩
    · cases h
  · rintro ⟨name, hc⟩
    rw [hc]

/-- Whether a numbered line is one of the data of a text area, that is, does not close it. -/
def inArea (terminator : String) (line : String × Nat) : Bool := !holdsOnly terminator line.1

/-- The data of a text area at the head of the lines, which the first line that holds only the
terminator closes, and the lines behind that line; without such a line, all lines are used up. -/
def areaAhead (terminator : String) (lines : List (String × Nat)) :
    Except Failure String × List (String × Nat) :=
  match lines.dropWhile (inArea terminator) with
  | [] => (.error (unclosedArea terminator), [])
  | _ :: behind => (.ok (joinLines ((lines.takeWhile (inArea terminator)).map Prod.fst)), behind)

/-- An area is either closed by a first line that holds only the terminator, or by none. -/
theorem areaAhead_cases (terminator : String) (lines : List (String × Nat)) :
    (∃ area last behind, lines = area ++ last :: behind
        ∧ (∀ line ∈ area, inArea terminator line = true) ∧ inArea terminator last = false
        ∧ areaAhead terminator lines = (.ok (joinLines (area.map Prod.fst)), behind))
      ∨ (∀ line ∈ lines, inArea terminator line = true)
        ∧ areaAhead terminator lines = (.error (unclosedArea terminator), []) := by
  have hparts := List.takeWhile_append_dropWhile (p := inArea terminator) (l := lines)
  have harea := List.all_eq_true.1 (List.all_takeWhile (p := inArea terminator) (l := lines))
  unfold areaAhead
  cases hdrop : lines.dropWhile (inArea terminator) with
  | nil =>
    -- nothing is left behind the lines of the area, so these are all the lines
    right
    rw [hdrop, List.append_nil] at hparts
    rw [hparts] at harea
    exact ⟨harea, rfl⟩
  | cons last behind =>
    left
    rw [hdrop] at hparts
    have hlast := List.head?_dropWhile_not (inArea terminator) lines
    rw [hdrop] at hlast
    exact ⟨_, last, behind, hparts.symm, harea, hlast, rfl⟩

/-- The lines at which a run goes on behind a line: an area belongs to the line that wants it. -/
def linesBehind (terminator line : String) (rest : List (String × Nat)) : List (String × Nat) :=
  if wantsArea line then (areaAhead terminator rest).2 else rest

/-- A run goes on at lines that are left. -/
theorem length_linesBehind_le (terminator line : String) (rest : List (String × Nat)) :
    (linesBehind terminator line rest).length ≤ rest.length := by
  unfold linesBehind
  split
  · rcases areaAhead_cases terminator rest with ⟨area, last, behind, hrest, -, -, heq⟩ | ⟨-, heq⟩
    · rw [heq]
      simp only [hrest, List.length_append, List.length_cons]
      omega
    · rw [heq]
      exact Nat.zero_le _
  · exact Nat.le_refl _

/-! ## Outcomes -/

/-- What a run comes to: its report or the failure that ended it, the store and the output. -/
abbrev Outcome (ω : Type) : Type := Except Failure Report × Store × ω

namespace Outcome

variable {ω : Type}

/-- The outcome of a run that goes on behind the given number of commands that were carried out and the
given failures. -/
def behind (executed : Nat) (failures : List Failure) (o : Outcome ω) : Outcome ω :=
  (o.1.map fun r =>
    { r with executed := executed + r.executed, failures := failures ++ r.failures }, o.2)

/-- What went before is added up. -/
theorem behind_behind (m n : Nat) (first second : List Failure) (o : Outcome ω) :
    (o.behind n second).behind m first = o.behind (m + n) (first ++ second) := by
  rcases o with ⟨_ | report, store, out⟩
  · rfl
  · simp [behind, Except.map, Nat.add_assoc]

/-- The outcome of the given numbered lines, run on a store.

Comments and blank lines are passed over, and the line that ends the session ends the run.  Any other
line is executed, with the area ahead for a line that wants one; it counts, or its failure is placed at
its number and ends the run, or is noted. -/
def ofLines [Outlet ω] (settings : ScriptSettings) (store : Store) (out : ω) :
    List (String × Nat) → Outcome ω
  | [] => (.ok {}, store, out)
  | (line, number) :: rest =>
    if isComment line || isBlankLine line then ofLines settings store out rest
    else if CommandSet.standard.isQuit line then (.ok { ended := true }, store, out)
    else
      let data := (areaAhead settings.terminator rest).1
      let left := linesBehind settings.terminator line rest
      match Bench.execute { store, areas := Prepared.mk data, out } line with
      | (.ok _, bench) => (ofLines settings bench.store bench.out left).behind 1 []
      | (.error failure, bench) =>
        let placed := failure.placedAt ⟨some settings.name, some number⟩
        if settings.keepGoing then (ofLines settings store bench.out left).behind 0 [placed]
        else (.error placed, store, bench.out)
termination_by lines => lines.length
decreasing_by
  · exact Nat.lt_succ_self _
  · exact Nat.lt_succ_of_le (length_linesBehind_le settings.terminator line rest)
  · exact Nat.lt_succ_of_le (length_linesBehind_le settings.terminator line rest)

end Outcome

/-! ## Script runs over numbered lines -/

namespace ScriptRun

variable {ω : Type} [Outlet ω] {settings : ScriptSettings} {run : ScriptRun ω} {line : String}

/-- Takes a numbered line. -/
def take (settings : ScriptSettings) (run : ScriptRun ω) (line : String × Nat) : ScriptRun ω :=
  run.step settings line.1 line.2

/-- Taking lines is taking them with their numbers. -/
theorem steps_eq_foldl (number : Nat) (lines : List String) :
    run.steps settings number lines = (lines.zipIdx number).foldl (take settings) run := by
  induction lines generalizing run number with
  | nil => rfl
  | cons line lines ih =>
    rw [steps, ih, List.zipIdx_cons, List.foldl_cons]
    rfl

/-- What a run comes to if there are no more lines. -/
def outcome (settings : ScriptSettings) (run : ScriptRun ω) : Outcome ω :=
  ((run.finish settings).result, (run.finish settings).store, (run.finish settings).out)

/-- A run that is over takes no notice of more lines. -/
theorem foldl_take_of_over (hmode : run.mode = .ended ∨ ∃ failure, run.mode = .stopped failure)
    (lines : List (String × Nat)) : lines.foldl (take settings) run = run := by
  induction lines with
  | nil => rfl
  | cons line lines ih =>
    have htake : take settings run line = run := by
      unfold take step
      rcases hmode with hmode | ⟨failure, hmode⟩
      · rw [hmode]
      · rw [hmode]
    rw [List.foldl_cons, htake, ih]

/-- If the run keeps going, a failure is noted and the lines that are left are taken. -/
theorem foldl_take_fail_of_keepGoing (hkeep : settings.keepGoing = true) (number : Nat)
    (failure : Failure) (lines : List (String × Nat)) :
    lines.foldl (take settings) (run.fail settings number failure)
      = lines.foldl (take settings)
        { run with
          failures := run.failures ++ [failure.placedAt ⟨some settings.name, some number⟩]
          mode := .command } := by
  rw [fail, if_pos hkeep]

/-- If the run does not keep going, a failure ends it. -/
theorem outcome_foldl_fail_of_stop (hstop : ¬ settings.keepGoing = true) (number : Nat)
    (failure : Failure) (lines : List (String × Nat)) :
    outcome settings (lines.foldl (take settings) (run.fail settings number failure))
      = (.error (failure.placedAt ⟨some settings.name, some number⟩), run.store, run.out) := by
  rw [fail, if_neg hstop, foldl_take_of_over (Or.inr ⟨_, rfl⟩)]
  rfl

/-- The lines of an area are gathered. -/
theorem foldl_take_inArea {start : Nat} {name : String} {entered : List String}
    (hmode : run.mode = .area start name entered) {area : List (String × Nat)}
    (harea : ∀ line ∈ area, inArea settings.terminator line = true) :
    area.foldl (take settings) run
      = { run with mode := .area start name (entered ++ area.map Prod.fst) } := by
  induction area generalizing run entered with
  | nil => simp [← hmode]
  | cons line area ih =>
    have hline : holdsOnly settings.terminator line.1 = false := by
      simpa [inArea] using harea line (by simp)
    have htake : take settings run line
        = { run with mode := .area start name (entered ++ [line.1]) } := by
      simp [take, step, hmode, hline]
    rw [List.foldl_cons, htake, ih rfl (fun l hl => harea l (by simp [hl]))]
    simp

/-- An area that is closed enters its data, and one that is not fails the command that wanted it. -/
theorem outcome_foldl_area {start : Nat} {name : String} (hmode : run.mode = .area start name [])
    (lines : List (String × Nat)) :
    outcome settings (lines.foldl (take settings) run)
      = match areaAhead settings.terminator lines with
        | (.ok data, behind) =>
          outcome settings (behind.foldl (take settings)
            (run.count (run.store.addText (enteredText name data))))
        | (.error failure, behind) =>
          outcome settings (behind.foldl (take settings) (run.fail settings start failure)) := by
  rcases areaAhead_cases settings.terminator lines with
    ⟨area, last, behind, rfl, harea, hlast, heq⟩ | ⟨harea, heq⟩
  · have hclosed : holdsOnly settings.terminator last.1 = true := by simpa [inArea] using hlast
    have htake : take settings { run with mode := .area start name (area.map Prod.fst) } last
        = run.count (run.store.addText (enteredText name (joinLines (area.map Prod.fst)))) := by
      simp [take, step, hclosed, count]
    rw [List.foldl_append, foldl_take_inArea hmode harea, List.nil_append, List.foldl_cons, htake,
      heq]
  · rw [foldl_take_inArea hmode harea, heq]
    -- the lines are used up, and the run takes note of the open area
    unfold outcome finish fail
    by_cases hkeep : settings.keepGoing = true <;> simp [hkeep]

/-- A command line that is no comment and wants no area is executed, whatever the area source. -/
theorem step_eq_execute {α : Type} [AreaSource α] (areas : α) (hmode : run.mode = .command)
    (hcomment : isComment line = false) (hblank : isBlankLine line = false)
    (hquit : CommandSet.standard.isQuit line = false) (hwants : wantsArea line = false)
    (number : Nat) :
    run.step settings line number
      = match Bench.execute { store := run.store, areas, out := run.out } line with
        | (.ok _, bench) => { run with out := bench.out }.count bench.store
        | (.error failure, bench) => { run with out := bench.out }.fail settings number failure := by
  rw [step, hmode, Bench.execute_eq]
  dsimp only
  rw [if_neg (by rw [hcomment]; decide)]
  cases hc : CommandSet.standard.command? line with
  | none =>
    rcases Instruction.ofLine_eq_reject hblank hquit hc with ⟨failure, hline⟩
    rw [hline]
    rfl
  | some c =>
    rw [Instruction.ofLine_eq_obey_iff.2 ⟨hblank, hquit, hc⟩]
    dsimp only
    unfold obey
    cases hobey : run.store.obey c with
    | error failure => rfl
    | ok result =>
      rcases result with ⟨reply, store⟩
      cases reply with
      | done => rfl
      | listing texts =>
        dsimp only
        rcases Outlet.write (Listing.render texts) run.out with ⟨_ | _, out⟩ <;> rfl
      | wantsArea name existing =>
        rw [(Store.obey_eq_wantsArea hobey).1] at hc
        rw [wantsArea_iff.2 ⟨name, hc⟩] at hwants
        cases hwants

/-- A command line that wants an area has the lines that follow gathered. -/
theorem step_of_wantsArea {name : String} (hmode : run.mode = .command)
    (hcomment : isComment line = false)
    (hline : Instruction.ofLine line = .obey (.input name none)) (number : Nat) :
    run.step settings line number = { run with mode := .area number name [] } := by
  rw [step, hmode]
  dsimp only
  rw [if_neg (by rw [hcomment]; decide), hline]
  rfl

/-- A line that is executed takes the lines of its area with it, if it wants one. -/
theorem outcome_foldl_take_step (hmode : run.mode = .command)
    (hskip : ¬ (isComment line || isBlankLine line) = true)
    (hquit : ¬ CommandSet.standard.isQuit line = true) (number : Nat)
    (rest : List (String × Nat)) :
    outcome settings (rest.foldl (take settings) (take settings run (line, number)))
      = match Bench.execute
            { store := run.store
              areas := Prepared.mk (areaAhead settings.terminator rest).1
              out := run.out } line with
        | (.ok _, bench) =>
          outcome settings ((linesBehind settings.terminator line rest).foldl (take settings)
            ({ run with out := bench.out }.count bench.store))
        | (.error failure, bench) =>
          outcome settings ((linesBehind settings.terminator line rest).foldl (take settings)
            ({ run with out := bench.out }.fail settings number failure)) := by
  simp only [Bool.or_eq_true, not_or, Bool.not_eq_true] at hskip hquit
  rcases hskip with ⟨hcomment, hblank⟩
  unfold take linesBehind
  dsimp only
  by_cases hwants : wantsArea line = true
  · rcases wantsArea_iff.1 hwants with ⟨name, hc⟩
    have hline := Instruction.ofLine_eq_obey_iff.2 ⟨hblank, hquit, hc⟩
    rw [step_of_wantsArea hmode hcomment hline, if_pos hwants, Bench.execute_of_wantsArea hline]
    -- the area that is gathered line by line is the one that is found ahead
    refine (outcome_foldl_area rfl rest).trans ?_
    rcases areaAhead settings.terminator rest with ⟨_ | data, behind⟩ <;> rfl
  · rw [Bool.not_eq_true] at hwants
    rw [step_eq_execute (Prepared.mk _) hmode hcomment hblank hquit hwants, hwants]
    rcases Bench.execute _ line with ⟨_ | _, bench⟩ <;> rfl

/-- A run that is to take a command line comes to the outcome of its lines, behind what it did so far. -/
theorem outcome_foldl_take (store : Store) (out : ω) (lines : List (String × Nat)) (executed : Nat)
    (failures : List Failure) :
    outcome settings (lines.foldl (take settings) { store, out, executed, failures })
      = (Outcome.ofLines settings store out lines).behind executed failures := by
  -- along the recursion on the lines; what was done before is general, as it grows from line to line
  fun_induction Outcome.ofLines settings store out lines generalizing executed failures with
  | case1 store out => simp [outcome, finish, result, Outcome.behind, Except.map]
  | case2 store out line number rest hskip ih =>
    -- comments and blank lines leave the run as it is
    have htake : take settings { store, out, executed, failures } (line, number)
        = ({ store, out, executed, failures } : ScriptRun ω) := by
      by_cases hcomment : isComment line = true
      · simp [take, step, hcomment]
      · have hblank : isBlankLine line = true := by simpa [hcomment] using hskip
        simp [take, step, Instruction.ofLine, hcomment, hblank]
    rw [List.foldl_cons, htake, ih]
  | case3 store out line number rest hskip hquit =>
    simp only [Bool.or_eq_true, not_or, Bool.not_eq_true] at hskip
    have htake : take settings { store, out, executed, failures } (line, number)
        = ({ store, out, executed, failures, mode := .ended } : ScriptRun ω) := by
      simp [take, step, Instruction.ofLine, hskip.1, hskip.2, hquit]
    rw [List.foldl_cons, htake, foldl_take_of_over (Or.inl rfl)]
    simp [outcome, finish, result, Outcome.behind, Except.map]
  | case4 store out line number rest hskip hquit data left answer bench hexecute ih =>
    rw [List.foldl_cons, outcome_foldl_take_step rfl hskip hquit, hexecute]
    refine (ih (executed + 1) failures).trans ?_
    rw [Outcome.behind_behind, List.append_nil]
  | case5 store out line number rest hskip hquit data left failure bench hexecute placed hkeep ih =>
    rw [List.foldl_cons, outcome_foldl_take_step rfl hskip hquit, hexecute]
    dsimp only
    rw [foldl_take_fail_of_keepGoing hkeep]
    refine (ih executed (failures ++ [placed])).trans ?_
    rw [Outcome.behind_behind, Nat.add_zero]
  | case6 store out line number rest hskip hquit data failure bench hexecute placed hstop =>
    rw [List.foldl_cons, outcome_foldl_take_step rfl hskip hquit, hexecute]
    exact outcome_foldl_fail_of_stop hstop number failure _

/-- A run that starts with the first line comes to the outcome of all lines, numbered from one. -/
theorem outcome_steps (store : Store) (out : ω) (lines : List String) :
    ({ store, out : ScriptRun ω }.steps settings 1 lines).outcome settings
      = Outcome.ofLines settings store out (lines.zipIdx 1) := by
  rw [steps_eq_foldl, outcome_foldl_take]
  rcases Outcome.ofLines settings store out (lines.zipIdx 1) with ⟨_ | report, rest⟩
  · rfl
  · simp [Outcome.behind, Except.map]

end ScriptRun

/-- A script comes to the outcome of its lines, numbered from one. -/
theorem runScript_eq_outcome_ofLines {ω : Type} [Outlet ω] (settings : ScriptSettings)
    (source : String) (store : Store) (out : ω) :
    runScript settings source store out
      = Outcome.ofLines settings store out ((textLines source).zipIdx 1) := by
  have houtcome : runScript settings source store out
      = ({ store, out : ScriptRun ω }.steps settings 1 (textLines source)).outcome settings := rfl
  rw [houtcome, ScriptRun.outcome_steps]

end TextDesk
