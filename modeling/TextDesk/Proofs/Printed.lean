import TextDesk.Proofs.Script

/-! # What was printed before

A string takes whatever is printed.  So what lines and scripts do does not depend on what was printed
before them: it stays in front of what they print.
-/

namespace TextDesk

/-- A bench on which something was printed before. -/
def Bench.behind {α : Type} (before : String) (bench : Bench α String) : Bench α String :=
  { bench with out := before ++ bench.out }

/-- What a line does to a bench does not depend on what was printed before. -/
theorem Bench.execute_behind {α : Type} [AreaSource α] (before : String) (bench : Bench α String)
    (line : String) :
    (bench.behind before).execute line
      = ((bench.execute line).1, (bench.execute line).2.behind before) := by
  rw [execute_eq, execute_eq]
  cases Instruction.ofLine line with
  | nothing => rfl
  | quit => rfl
  | reject failure => rfl
  | obey c =>
    dsimp only [Bench.behind]
    cases bench.store.obey c with
    | error failure => rfl
    | ok result =>
      rcases result with ⟨reply, store⟩
      cases reply with
      | done => rfl
      | listing texts => simp [Outlet.write, String.append_assoc]
      | wantsArea name existing =>
        dsimp only
        rcases AreaSource.readArea name existing bench.areas with ⟨_ | _, areas⟩ <;> rfl

/-- A line that is executed behind something printed has the same result, and prints the same. -/
theorem Bench.execute_append_out {α : Type} [AreaSource α] {store : Store} {areas : α}
    {out line : String} {result : Except Failure Bool} {after : Bench α String} (before : String)
    (h : Bench.execute { store, areas, out } line = (result, after)) :
    Bench.execute { store, areas, out := before ++ out } line = (result, after.behind before) := by
  have hbehind := execute_behind before { store, areas, out } line
  rwa [h] at hbehind

/-- An outcome behind which something was printed before. -/
def Outcome.afterPrinting (before : String) (o : Outcome String) : Outcome String :=
  (o.1, o.2.1, before ++ o.2.2)

/-- What lines come to does not depend on what was printed before. -/
theorem Outcome.ofLines_append_out (settings : ScriptSettings) (store : Store) (before out : String)
    (lines : List (String × Nat)) :
    ofLines settings store (before ++ out) lines
      = (ofLines settings store out lines).afterPrinting before := by
  fun_induction ofLines settings store out lines with
  | case1 store out => rw [ofLines]; rfl
  | case2 store out line number rest hskip ih => rw [ofLines, if_pos hskip, ih]
  | case3 store out line number rest hskip hquit => rw [ofLines, if_neg hskip, if_pos hquit]; rfl
  | case4 store out line number rest hskip hquit data left answer bench hexecute ih =>
    rw [ofLines, if_neg hskip, if_neg hquit]
    dsimp only
    rw [Bench.execute_append_out before hexecute]
    exact congrArg (Outcome.behind 1 []) ih
  | case5 store out line number rest hskip hquit data left failure bench hexecute placed hkeep ih =>
    rw [ofLines, if_neg hskip, if_neg hquit]
    dsimp only
    rw [Bench.execute_append_out before hexecute]
    dsimp only
    rw [if_pos hkeep]
    exact congrArg (Outcome.behind 0 [placed]) ih
  | case6 store out line number rest hskip hquit data failure bench hexecute placed hstop =>
    rw [ofLines, if_neg hskip, if_neg hquit]
    dsimp only
    rw [Bench.execute_append_out before hexecute]
    dsimp only
    rw [if_neg hstop]
    rfl

/-- What a script does to a store does not depend on what was printed before. -/
theorem runScript_append_out (settings : ScriptSettings) (source : String) (store : Store)
    (before out : String) :
    runScript settings source store (before ++ out)
      = Outcome.afterPrinting before (runScript settings source store out) := by
  have hrun (out : String) : runScript settings source store out
      = Outcome.ofLines settings store out ((textLines source).zipIdx 1) :=
    ScriptRun.outcome_steps store out (textLines source)
  rw [hrun, hrun, Outcome.ofLines_append_out]

end TextDesk
