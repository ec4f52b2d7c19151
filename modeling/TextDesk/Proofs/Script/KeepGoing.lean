import TextDesk.Proofs.Script

/-! # Scripts that keep going

A script run that keeps going notes its failures, and one that does not is over with its first failure.
Both take the same lines in the same way up to there, be it that a command fails or that an area is not
closed.  What the first run does behind its first failure only adds to its failures and its output.  Main
statement: `runScript_keeping`.
-/

namespace TextDesk

/-! ## More output -/

/-- An outlet to which texts were written one behind the other. -/
def Outlet.writeAll {ω : Type} [Outlet ω] (texts : List String) (out : ω) : ω :=
  texts.foldl (fun out text => (write text out).2) out

/-- To write more is to write all at once. -/
theorem Outlet.writeAll_append {ω : Type} [Outlet ω] (first second : List String) (out : ω) :
    writeAll (first ++ second) out = writeAll second (writeAll first out) :=
  List.foldl_append

/-! ## Two ways to run a script -/

/-- The same script, run up to its first failure. -/
def ScriptSettings.stopping (settings : ScriptSettings) : ScriptSettings :=
  { settings with keepGoing := false }

/-- The same script, run to its end. -/
def ScriptSettings.keeping (settings : ScriptSettings) : ScriptSettings :=
  { settings with keepGoing := true }

namespace ScriptRun

variable {ω : Type} {run after later stopping keeping : ScriptRun ω} {settings : ScriptSettings}

/-- A run that a failure has ended. -/
def stoppedBy (failure : Failure) (run : ScriptRun ω) : ScriptRun ω :=
  { run with mode := .stopped failure }

/-- A run that has noted a failure and goes on behind it. -/
def noting (failure : Failure) (run : ScriptRun ω) : ScriptRun ω :=
  { run with failures := run.failures ++ [failure], mode := .command }

/-- No failure has ended the run. -/
def GoesOn (run : ScriptRun ω) : Prop := ∀ failure, run.mode ≠ .stopped failure

/-- A run that no failure has ended has a report. -/
theorem GoesOn.result_eq (h : run.GoesOn) :
    run.result = .ok ⟨run.executed, run.failures, run.mode = .ended⟩ := by
  unfold result
  split
  · next failure hmode => exact absurd hmode (h failure)
  · rfl

theorem goesOn_noting (failure : Failure) : (run.noting failure).GoesOn := by
  intro ended hmode
  cases hmode

variable [Outlet ω]

/-- The second run stands where the first may come to: it keeps its failures and its output, and has
perhaps more of them. -/
structure GrowsTo (run after : ScriptRun ω) : Prop where
  failures : run.failures <+: after.failures
  out : ∃ texts, after.out = Outlet.writeAll texts run.out
  goesOn : run.GoesOn → after.GoesOn

theorem GrowsTo.refl (run : ScriptRun ω) : run.GrowsTo run :=
  ⟨List.prefix_rfl, ⟨[], rfl⟩, id⟩

theorem GrowsTo.trans (h : run.GrowsTo after) (hlater : after.GrowsTo later) :
    run.GrowsTo later := by
  rcases h.out with ⟨first, hfirst⟩
  rcases hlater.out with ⟨second, hsecond⟩
  refine ⟨h.failures.trans hlater.failures, ⟨first ++ second, ?_⟩, hlater.goesOn ∘ h.goesOn⟩
  rw [hsecond, hfirst, Outlet.writeAll_append]

/-- What one and the same move makes of a run, if the run is to stop at failures and if it is to keep
going. -/
inductive Parts (run : ScriptRun ω) : ScriptRun ω → ScriptRun ω → Prop
  /-- Nothing fails, and it makes no difference. -/
  | together {after : ScriptRun ω} (h : run.GrowsTo after) (hsame : after.failures = run.failures) :
      Parts run after after
  /-- The move fails, which ends the one run and is noted by the other. -/
  | apart {after : ScriptRun ω} (h : run.GrowsTo after) (hsame : after.failures = run.failures)
      (failure : Failure) : Parts run (after.stoppedBy failure) (after.noting failure)

/-- A move that changes neither failures nor output, and does not fail. -/
theorem Parts.of_eq (hfailures : after.failures = run.failures) (hout : after.out = run.out)
    (hmode : after.GoesOn) : run.Parts after after :=
  .together ⟨hfailures ▸ List.prefix_rfl, ⟨[], hout⟩, fun _ => hmode⟩ hfailures

/-- A failure parts the runs. -/
theorem Parts.fail (h : run.GrowsTo after) (hsame : after.failures = run.failures) (number : Nat)
    (failure : Failure) :
    run.Parts (after.fail settings.stopping number failure)
      (after.fail settings.keeping number failure) :=
  .apart h hsame _

/-- Whatever a run that keeps going does adds to it. -/
theorem Parts.growsTo (h : run.Parts stopping keeping) : run.GrowsTo keeping := by
  cases h with
  | together h => exact h
  | apart h _ failure =>
    exact ⟨h.failures.trans (List.prefix_append _ _), h.out, fun _ => goesOn_noting failure⟩

theorem parts_count (store : Store) : run.Parts (run.count store) (run.count store) :=
  .of_eq rfl rfl (fun _ hmode => by cases hmode)

/-- A command parts the runs only if it fails. -/
theorem parts_obey (number : Nat) (c : Command) :
    run.Parts (run.obey settings.stopping number c) (run.obey settings.keeping number c) := by
  unfold obey
  cases run.store.obey c with
  | error failure => exact .fail (.refl run) rfl number failure
  | ok result =>
    rcases result with ⟨reply, store⟩
    cases reply with
    | done => exact parts_count store
    | listing texts =>
      -- what the outlet took is there whether or not it failed in the end
      have hout : run.GrowsTo { run with out := (Outlet.write (Listing.render texts) run.out).2 } :=
        ⟨List.prefix_rfl, ⟨[Listing.render texts], rfl⟩, id⟩
      dsimp only
      rcases hwrite : Outlet.write (Listing.render texts) run.out with ⟨_ | _, out⟩
      · rw [hwrite] at hout
        exact .fail hout rfl number _
      · rw [hwrite] at hout
        exact .together (hout.trans (parts_count store).growsTo) rfl
    | wantsArea name existing => exact .of_eq rfl rfl (fun _ hmode => by cases hmode)

/-- A line parts the runs only if it fails. -/
theorem parts_step (settings : ScriptSettings) (run : ScriptRun ω) (line : String) (number : Nat) :
    run.Parts (run.step settings.stopping line number) (run.step settings.keeping line number) := by
  have hrefl : run.Parts run run := .together (.refl run) rfl
  unfold step
  cases run.mode with
  | ended => exact hrefl
  | stopped failure => exact hrefl
  | area start name lines =>
    change run.Parts (if holdsOnly settings.terminator line then _ else _)
      (if holdsOnly settings.terminator line then _ else _)
    by_cases hclosed : holdsOnly settings.terminator line = true
    · rw [if_pos hclosed]
      exact parts_count _
    · rw [if_neg hclosed]
      exact .of_eq rfl rfl (fun _ hmode => by cases hmode)
  | command =>
    dsimp only
    by_cases hcomment : isComment line = true
    · rw [if_pos hcomment, if_pos hcomment]
      exact hrefl
    rw [if_neg hcomment, if_neg hcomment]
    cases Instruction.ofLine line with
    | nothing => exact hrefl
    | quit => exact .of_eq rfl rfl (fun _ hmode => by cases hmode)
    | reject failure => exact .fail (.refl run) rfl number failure
    | obey c => exact parts_obey number c

/-- The end of the lines parts the runs only if an area is open. -/
theorem parts_finish (settings : ScriptSettings) (run : ScriptRun ω) :
    run.Parts (run.finish settings.stopping) (run.finish settings.keeping) := by
  unfold finish
  cases run.mode with
  | area start name lines => exact .fail (.refl run) rfl start _
  | _ => exact .together (.refl run) rfl

/-! ## Runs of many lines -/

/-- Where a run stands at any time: before each line, behind the last line, and at its end. -/
def stages (settings : ScriptSettings) (number : Nat) (run : ScriptRun ω) :
    List String → List (ScriptRun ω)
  | [] => [run, run.finish settings]
  | line :: lines => run :: (run.step settings line number).stages settings (number + 1) lines

/-- The first stage is where the run starts. -/
theorem exists_stages_eq_cons (settings : ScriptSettings) (number : Nat) (run : ScriptRun ω)
    (lines : List String) : ∃ behind, run.stages settings number lines = run :: behind := by
  cases lines with
  | nil => exact ⟨_, rfl⟩
  | cons line lines => exact ⟨_, rfl⟩

/-- The last stage is where the run ends. -/
theorem getLast?_stages (settings : ScriptSettings) (number : Nat) (run : ScriptRun ω)
    (lines : List String) : (run.stages settings number lines).getLast?
      = some ((run.steps settings number lines).finish settings) := by
  induction lines generalizing run number with
  | nil => rfl
  | cons line lines ih =>
    have hlast := ih (number + 1) (run.step settings line number)
    rcases exists_stages_eq_cons settings (number + 1) (run.step settings line number) lines with
      ⟨behind, hbehind⟩
    rw [hbehind] at hlast
    rw [stages, hbehind, List.getLast?_cons_cons, hlast]
    rfl

/-- A run that keeps going only adds to what it did. -/
theorem growsTo_finish_steps (settings : ScriptSettings) (run : ScriptRun ω) (number : Nat)
    (lines : List String) :
    run.GrowsTo ((run.steps settings.keeping number lines).finish settings.keeping) := by
  induction lines generalizing run number with
  | nil => exact (parts_finish settings run).growsTo
  | cons line lines ih => exact (parts_step settings run line number).growsTo.trans (ih _ _)

/-- A run that a failure has ended stays as it is. -/
theorem finish_steps_of_stopped {failure : Failure} (hmode : run.mode = .stopped failure)
    (number : Nat) (lines : List String) :
    (run.steps settings number lines).finish settings = run := by
  rw [steps_eq_foldl, foldl_take_of_over (Or.inr ⟨failure, hmode⟩), finish, hmode]

/-- A run that keeps going notes its first failure at one of its stages, and there the other run is over. -/
structure PartAt (run stopped kept stage : ScriptRun ω) (failure : Failure) : Prop where
  noted : stage.failures = run.failures ++ [failure]
  ended : stopped.mode = .stopped failure
  store : stage.store = stopped.store
  out : stage.out = stopped.out
  goesOn : stage.GoesOn
  kept : stage.GrowsTo kept

/-- The runs part where the one notes a failure, which ends the other. -/
theorem PartAt.of_noting {failure : Failure} (hsame : after.failures = run.failures)
    (hkept : (after.noting failure).GrowsTo keeping) :
    PartAt run (after.stoppedBy failure) keeping (after.noting failure) failure where
  noted := congrArg (· ++ [failure]) hsame
  ended := rfl
  store := rfl
  out := rfl
  goesOn := goesOn_noting failure
  kept := hkept

/-- Both ways to run lines are one up to the first failure. -/
theorem finish_steps_cases (settings : ScriptSettings) (hgoes : run.GoesOn) (number : Nat)
    (lines : List String)
    (hstopped : (run.steps settings.stopping number lines).finish settings.stopping = stopping)
    (hkept : (run.steps settings.keeping number lines).finish settings.keeping = keeping) :
    (stopping = keeping ∧ keeping.failures = run.failures ∧ keeping.GoesOn)
      ∨ ∃ before stage behind failure,
        run.stages settings.keeping number lines = before ++ stage :: behind
          ∧ (∀ earlier ∈ before, earlier.failures = run.failures)
          ∧ PartAt run stopping keeping stage failure := by
  -- along the lines, as long as neither run has failed
  induction lines generalizing run number with
  | nil =>
    have hparts := parts_finish settings run
    have hstages : run.stages settings.keeping number [] = [run] ++ [keeping] := by
      rw [← hkept]
      rfl
    rw [show run.finish settings.stopping = stopping from hstopped,
      show run.finish settings.keeping = keeping from hkept] at hparts
    cases hparts with
    | together h hsame => exact .inl ⟨rfl, hsame, h.goesOn hgoes⟩
    | apart h hsame failure =>
      exact .inr ⟨[run], _, [], failure, hstages, by simp, .of_noting hsame (.refl _)⟩
  | cons line lines ih =>
    have hparts := parts_step settings run line number
    rw [steps] at hstopped hkept
    rw [stages]
    generalize run.step settings.stopping line number = stopped at hparts hstopped
    generalize run.step settings.keeping line number = kept at hparts hkept
    cases hparts with
    | together h hsame =>
      rcases ih (h.goesOn hgoes) (number + 1) hstopped hkept with
        hend | ⟨before, stage, behind, failure, hstages, hbefore, hpart⟩
      · exact .inl (hsame ▸ hend)
      · rw [hsame] at hbefore
        refine .inr ⟨run :: before, stage, behind, failure, by rw [hstages]; rfl, ?_, ?_⟩
        · exact List.forall_mem_cons.2 ⟨rfl, hbefore⟩
        · exact { hpart with noted := hsame ▸ hpart.noted }
    | @apart after h hsame failure =>
      -- the one run is over, and the other goes on from the stage at hand
      rw [finish_steps_of_stopped rfl] at hstopped
      rcases exists_stages_eq_cons settings.keeping (number + 1) (after.noting failure) lines with
        ⟨behind, hbehind⟩
      rw [hbehind, ← hstopped, ← hkept]
      exact .inr ⟨[run], _, behind, failure, rfl, by simp, .of_noting hsame (growsTo_finish_steps ..)⟩

end ScriptRun

/-- A script that keeps going always has a report.  If the script would have a report if it stopped at its
first failure, that is the same report, without failures, and the store and the output are the same.  If it
would fail, that failure is the first one of the report; the output goes on where the other stops, and the
stage at which the failure is noted, before which none is, has the store of the other. -/
theorem runScript_keeping {ω : Type} [Outlet ω] (settings : ScriptSettings) (source : String)
    (store : Store) (out : ω) :
    let stopped := runScript settings.stopping source store out
    let kept := runScript settings.keeping source store out
    ∃ report, kept.1 = .ok report
      ∧ (∀ r, stopped.1 = .ok r → r = report ∧ report.failures = [] ∧ kept.2 = stopped.2)
      ∧ ∀ failure, stopped.1 = .error failure → report.failures.head? = some failure
        ∧ (∃ more, kept.2.2 = Outlet.writeAll more stopped.2.2)
        ∧ ∃ before stage behind,
          ({ store, out } : ScriptRun ω).stages settings.keeping 1 (textLines source)
              = before ++ stage :: behind
            ∧ (∀ earlier ∈ before, earlier.failures = [])
            ∧ stage.failures = [failure] ∧ stage.store = stopped.2.1 ∧ stage.out = stopped.2.2 := by
  have hstart : ({ store, out } : ScriptRun ω).GoesOn := fun _ hmode => by cases hmode
  have hcases := ScriptRun.finish_steps_cases settings hstart 1 (textLines source) rfl rfl
  unfold runScript
  dsimp only
  generalize ScriptRun.finish settings.stopping _ = stopping at hcases ⊢
  generalize ScriptRun.finish settings.keeping _ = keeping at hcases ⊢
  rcases hcases with
    ⟨rfl, hfailures, hgoes⟩ | ⟨before, stage, behind, failure, hstages, hbefore, hpart⟩
  · -- no failure: the two runs end alike
    refine ⟨_, hgoes.result_eq, ?_, ?_⟩
    · intro r hr
      rw [hgoes.result_eq] at hr
      exact ⟨(Except.ok.inj hr).symm, hfailures, rfl⟩
    · intro failure hfailure
      rw [hgoes.result_eq] at hfailure
      cases hfailure
  · have hover : stopping.result = .error failure := by
      rw [ScriptRun.result, hpart.ended]
    refine ⟨_, (hpart.kept.goesOn hpart.goesOn).result_eq, ?_, ?_⟩
    · intro r hr
      rw [hover] at hr
      cases hr
    · intro e he
      rw [hover] at he
      cases he
      refine ⟨?_, ?_, before, stage, behind, hstages, hbefore, hpart.noted, hpart.store, hpart.out⟩
      · rcases hpart.kept.failures with ⟨more, hmore⟩
        rw [← hmore, hpart.noted]
        rfl
      · rcases hpart.kept.out with ⟨more, hmore⟩
        exact ⟨more, hpart.out ▸ hmore⟩

/-- A script with a failing line and an area that is not closed notes first what would end it. -/
theorem runScript_keeping_of_missing_text :
    let settings : ScriptSettings := { name := "s", terminator := ".", keepGoing := false }
    let source := "input a one\nprint x\nprint a\ninput b\nrest"
    let failure := (Failure.textNotFound "x").placedAt ⟨some "s", some 2⟩
    (runScript settings.stopping source {} "").1 = .error failure
      ∧ ∃ report, (runScript settings.keeping source {} "").1 = .ok report
        ∧ report.failures.head? = some failure := by
  intro settings source failure
  have hmode : ((({ store := {}, out := "" } : ScriptRun String).steps settings.stopping 1
      (textLines source)).finish settings.stopping).mode = .stopped failure := by decide +kernel
  have hstopped : (runScript settings.stopping source {} "").1 = .error failure := by
    unfold runScript ScriptRun.result
    dsimp only
    rw [hmode]
  rcases runScript_keeping settings source {} "" with ⟨report, hreport, -, herror⟩
  exact ⟨hstopped, report, hreport, (herror failure hstopped).1⟩

end TextDesk
