import TextDesk.Proofs.Lines
import TextDesk.Proofs.Script

/-! # Scripts one behind the other

A run that is to take a command line carries nothing along but the store, the output, and what it has
counted and noted.  So a script that leaves a run there, which is neither over nor inside a text area, can
be put in front of another: the other runs on the store that the first one leaves, and its failures stand
on later lines.  Main statement: `runScript_append`.
-/

namespace TextDesk

/-! ## Later lines -/

/-- The failure, placed the given number of lines further on. -/
def Failure.moved (f : Failure) (lines : Nat) : Failure :=
  { f with site := f.site.map fun site => { site with line := site.line.map (· + lines) } }

/-- What a run makes of its next line, if its lines stand the given number of lines further on. -/
def ScriptMode.moved (mode : ScriptMode) (lines : Nat) : ScriptMode :=
  match mode with
  | .command => .command
  | .area start name entered => .area (start + lines) name entered
  | .ended => .ended
  | .stopped failure => .stopped (failure.moved lines)

/-- What a script comes to behind a first one, which had the given report and number of lines: the commands
of both are counted, and its failures stand behind those of the first and on later lines. -/
def resultBehind (first : Report) (lines : Nat) : Except Failure Report → Except Failure Report
  | .ok second => .ok
    { executed := first.executed + second.executed
      failures := first.failures ++ second.failures.map (·.moved lines)
      ended := second.ended }
  | .error failure => .error (failure.moved lines)

namespace ScriptRun

variable {ω : Type} {settings : ScriptSettings} {run : ScriptRun ω}

/-! ## A run behind a first script -/

/-- A run behind a first script, which had the given report and number of lines. -/
def behind (first : Report) (lines : Nat) (run : ScriptRun ω) : ScriptRun ω :=
  { run with
    executed := first.executed + run.executed
    failures := first.failures ++ run.failures.map (·.moved lines)
    mode := run.mode.moved lines }

section

variable (first : Report) (lines : Nat)

/-- A failure is noted, or ends the run, on a later line. -/
theorem fail_behind (run : ScriptRun ω) (number : Nat) (failure : Failure) :
    (run.behind first lines).fail settings (number + lines) failure
      = (run.fail settings number failure).behind first lines := by
  unfold fail
  by_cases hkeep : settings.keepGoing = true
  · -- the failure is noted behind those of both scripts
    rw [if_pos hkeep, if_pos hkeep]
    simp only [behind, List.map_append, List.append_assoc]
    rfl
  · rw [if_neg hkeep, if_neg hkeep]
    rfl

/-- A command is counted with those of the first script. -/
theorem count_behind (run : ScriptRun ω) (store : Store) :
    (run.behind first lines).count store = (run.count store).behind first lines := by
  simp only [behind, count, ScriptMode.moved, Nat.add_assoc]

variable [Outlet ω]

/-- A command does the same behind a first script. -/
theorem obey_behind (number : Nat) (c : Command) :
    (run.behind first lines).obey settings (number + lines) c
      = (run.obey settings number c).behind first lines := by
  have hstore : (run.behind first lines).store = run.store := rfl
  have hout : (run.behind first lines).out = run.out := rfl
  unfold obey
  rw [hstore, hout]
  cases run.store.obey c with
  | error failure => exact fail_behind first lines run number failure
  | ok result =>
    rcases result with ⟨reply, store⟩
    cases reply with
    | done => exact count_behind first lines run store
    | listing texts =>
      dsimp only
      rcases Outlet.write (Listing.render texts) run.out with ⟨reason | _, out⟩
      · exact fail_behind first lines { run with out } number (.io reason)
      · exact count_behind first lines { run with out } store
    | wantsArea name existing => rfl

/-- A line does the same behind a first script. -/
theorem step_behind (line : String) (number : Nat) :
    (run.behind first lines).step settings line (number + lines)
      = (run.step settings line number).behind first lines := by
  have hmode : (run.behind first lines).mode = run.mode.moved lines := rfl
  unfold step
  rw [hmode]
  cases hrun : run.mode with
  | ended => rfl
  | stopped failure => rfl
  | area start name entered =>
    dsimp only [ScriptMode.moved]
    by_cases hclosed : holdsOnly settings.terminator line = true
    · rw [if_pos hclosed, if_pos hclosed]
      exact count_behind first lines run _
    · rw [if_neg hclosed, if_neg hclosed]
      rfl
  | command =>
    dsimp only [ScriptMode.moved]
    by_cases hcomment : isComment line = true
    · rw [if_pos hcomment, if_pos hcomment]
    rw [if_neg hcomment, if_neg hcomment]
    cases Instruction.ofLine line with
    | nothing => rfl
    | quit => rfl
    | reject failure => exact fail_behind first lines run number failure
    | obey c => exact obey_behind first lines number c

/-- Any lines do the same behind a first script. -/
theorem steps_behind (number : Nat) (more : List String) :
    (run.behind first lines).steps settings (number + lines) more
      = (run.steps settings number more).behind first lines := by
  induction more generalizing run number with
  | nil => rfl
  | cons line more ih =>
    have hnumber : number + lines + 1 = number + 1 + lines := by omega
    rw [steps, steps, step_behind, hnumber, ih]

end

/-- The end of the lines does the same behind a first script. -/
theorem finish_behind (first : Report) (lines : Nat) :
    (run.behind first lines).finish settings = (run.finish settings).behind first lines := by
  have hmode : (run.behind first lines).mode = run.mode.moved lines := rfl
  unfold finish
  rw [hmode]
  cases run.mode with
  | area start name entered => exact fail_behind first lines run start _
  | _ => rfl

/-- A run behind a first script comes to what both come to. -/
theorem result_behind (first : Report) (lines : Nat) :
    (run.behind first lines).result = resultBehind first lines run.result := by
  have hmode : (run.behind first lines).mode = run.mode.moved lines := rfl
  unfold result
  rw [hmode]
  cases run.mode <;> rfl

/-! ## The end of the first script -/

/-- Lines are taken one after the other. -/
theorem steps_append [Outlet ω] (number : Nat) (before more : List String) :
    run.steps settings number (before ++ more)
      = (run.steps settings number before).steps settings (number + before.length) more := by
  induction before generalizing run number with
  | nil => rfl
  | cons line before ih =>
    have hnumber : number + (line :: before).length = number + 1 + before.length := by
      rw [List.length_cons]
      omega
    rw [List.cons_append, steps, steps, ih, hnumber]

/-- A run that comes to a report, has not ended the session and has noted no open area is to take a
command line. -/
theorem mode_of_result {report : Report} (hresult : (run.finish settings).result = .ok report)
    (hended : report.ended = false)
    (hclosed : ∀ failure ∈ report.failures,
      failure.cause ≠ (unclosedArea settings.terminator).cause) : run.mode = .command := by
  unfold finish at hresult
  cases hmode : run.mode with
  | command => rfl
  | ended =>
    rw [hmode] at hresult
    dsimp only at hresult
    rw [result, hmode] at hresult
    obtain rfl := Except.ok.inj hresult
    cases hended
  | stopped failure =>
    rw [hmode] at hresult
    dsimp only at hresult
    rw [result, hmode] at hresult
    cases hresult
  | area start name entered =>
    rw [hmode] at hresult
    dsimp only at hresult
    unfold fail at hresult
    by_cases hkeep : settings.keepGoing = true
    · -- the open area has been noted, last of all
      rw [if_pos hkeep] at hresult
      obtain rfl := Except.ok.inj hresult
      exact absurd rfl
        (hclosed (.placedAt _ _) (List.mem_append_right _ (List.mem_singleton_self _)))
    · rw [if_neg hkeep] at hresult
      cases hresult

/-- Such a run goes on like a run on its store that starts anew behind it. -/
theorem eq_behind_of_result {report : Report} (hmode : run.mode = .command)
    (hresult : run.result = .ok report) (lines : Nat) :
    run = ({ store := run.store, out := run.out } : ScriptRun ω).behind report lines := by
  rcases run with ⟨store, out, executed, failures, mode⟩
  dsimp only at hmode
  subst hmode
  obtain rfl := Except.ok.inj hresult
  simp [behind, ScriptMode.moved]

end ScriptRun

/-- If a first script ends with a line feed, does not end the session and leaves no text area open, then
that script and a second one behind it do what they do one after the other: the store and the output are
those that the second leaves behind the first, both have their commands counted and their failures noted,
and the failures of the second stand as many lines further on as the first has. -/
theorem runScript_append {ω : Type} [Outlet ω] (settings : ScriptSettings) {first : String}
    (hfirst : EndsLine first) (second : String) {store between : Store} {out printed : ω}
    {report : Report}
    (hrun : runScript settings first store out = (.ok report, between, printed))
    (hended : report.ended = false)
    (hclosed : ∀ failure ∈ report.failures,
      failure.cause ≠ (unclosedArea settings.terminator).cause) :
    let lines := (textLines first).length
    let rest := runScript settings second between printed
    runScript settings (first ++ second) store out = (resultBehind report lines rest.1, rest.2) := by
  intro lines rest
  let start : ScriptRun ω := { store, out }
  let before := start.steps settings 1 (textLines first)
  have hresult : (before.finish settings).result = .ok report := congrArg Prod.fst hrun
  have hmode := ScriptRun.mode_of_result hresult hended hclosed
  -- the run stands where a run on the store of the first script starts
  have hfinish : before.finish settings = before := by
    unfold ScriptRun.finish
    rw [hmode]
  have hstore : before.store = between := by
    rw [← hfinish]
    exact congrArg (·.2.1) hrun
  have hout : before.out = printed := by
    rw [← hfinish]
    exact congrArg (·.2.2) hrun
  let fresh : ScriptRun ω := { store := between, out := printed }
  have hbefore : before = fresh.behind report lines := by
    rw [hfinish] at hresult
    have hbehind := ScriptRun.eq_behind_of_result hmode hresult lines
    rwa [hstore, hout] at hbehind
  have hsteps : (start.steps settings 1 (textLines (first ++ second))).finish settings
      = ((fresh.steps settings 1 (textLines second)).finish settings).behind report lines := by
    rw [textLines_append hfirst, ScriptRun.steps_append, show start.steps _ _ _ = before from rfl,
      hbefore, ScriptRun.steps_behind, ScriptRun.finish_behind]
  unfold runScript
  dsimp only
  rw [hsteps, ScriptRun.result_behind]
  rfl

/-- A script with a failing line and a closed area, in front of one that fails and ends the session. -/
theorem runScript_append_of_closed_area :
    let settings : ScriptSettings := { name := "s", terminator := ".", keepGoing := true }
    let first := "input a one\r\njump\ninput b\n# two\n.\n"
    let second := "send x a\nsend a b\nquit\nprint"
    let noted := (Failure.mk (.unknownCommand "jump") none).placedAt ⟨some "s", some 2⟩
    let store : Store := ⟨[{ name := "a", data := "one" }, { name := "b", data := "# two" }]⟩
    EndsLine first ∧ runScript settings first {} "" = (.ok ⟨2, [noted], false⟩, store, "")
      ∧ runScript settings (first ++ second) {} ""
        = (.ok ⟨3, [noted, (Failure.textNotFound "x").placedAt ⟨some "s", some 6⟩], true⟩,
          ⟨[{ name := "a", data := "one" }, { name := "b", data := "# two\none" }]⟩, "") := by
  intro settings first second noted store
  have hfirst : runScript settings first {} "" = (.ok ⟨2, [noted], false⟩, store, "") := by
    decide +kernel
  have hends : EndsLine first := by decide
  refine ⟨hends, hfirst, ?_⟩
  have hclosed : ∀ failure ∈ [noted], failure.cause ≠ (unclosedArea settings.terminator).cause := by
    decide
  have happend := runScript_append settings hends second hfirst rfl hclosed
  have hsecond : runScript settings second store ""
      = (.ok ⟨1, [(Failure.textNotFound "x").placedAt ⟨some "s", some 1⟩], true⟩,
        ⟨[{ name := "a", data := "one" }, { name := "b", data := "# two\none" }]⟩, "") := by
    decide +kernel
  have hlines : (textLines first).length = 5 := by decide
  rw [happend, hsecond, hlines]
  rfl

end TextDesk
