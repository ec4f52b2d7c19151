import TextDesk.CommandLine
import TextDesk.Proofs.Folder
import TextDesk.Proofs.Script.Items
import TextDesk.Proofs.StateFile

/-! # Batch sessions with a state file

A batch session loads its state file, runs its scripts and saves the store that they leave, also if they
fail.  From script to script only the store passes: what went to the streams before stays in front of what
goes there later.  Main statement: `run_saves_what_was_executed`, by which a session leaves in its state
file the store that executing what its scripts ask for leaves.
-/

namespace TextDesk.CommandLine

open Folder

variable {o : Options} {p q : Progress} {path : String} {folder : Folder} {names : List String}

/-! ## Scripts in a row -/

/-- How a script of a session is run. -/
def scriptSettings (o : Options) (path : String) : ScriptSettings :=
  { name := path, terminator := (dialogueSettings o).areaTerminator, keepGoing := o.keepGoing }

/-- The progress behind a script that ran to its end and left a store and what was printed. -/
def Progress.afterScript (p : Progress) (report : Report) (store : Store) (stdout : String) : Progress :=
  { store, stdout, stderr := p.stderr ++ String.join (report.failures.map Failure.report) }

/-- The first of the scripts is run, and then the others unless it ended the session. -/
theorem runScripts_cons (o : Options) (p : Progress) (path : String) (opened : Opened)
    (scripts : List (String × Opened)) :
    runScripts o p ((path, opened) :: scripts)
      = match runScriptFile (scriptSettings o path) opened p.store p.stdout with
        | (.error failure, store, stdout) => (.failed failure, { p with store, stdout })
        | (.ok report, store, stdout) =>
          if report.ended then (.quit, p.afterScript report store stdout)
          else runScripts o (p.afterScript report store stdout) scripts := rfl

/-- Of the options, only whether failing lines are passed over matters to scripts. -/
theorem runScripts_congr {o' : Options} (hkeep : o.keepGoing = o'.keepGoing)
    (scripts : List (String × Opened)) : runScripts o p scripts = runScripts o' p scripts := by
  induction scripts generalizing p with
  | nil => rfl
  | cons script scripts ih =>
    rcases script with ⟨path, opened⟩
    have hsettings : scriptSettings o path = scriptSettings o' path := by
      simp [scriptSettings, dialogueSettings, hkeep]
    rw [runScripts_cons, runScripts_cons, hsettings]
    simp only [ih]

/-- Scripts that run to their end are followed by the scripts behind them. -/
theorem runScripts_append {first : List (String × Opened)}
    (h : runScripts o p first = (.finished, q)) (second : List (String × Opened)) :
    runScripts o p (first ++ second) = runScripts o q second := by
  induction first generalizing p with
  | nil =>
    cases h
    rfl
  | cons script first ih =>
    rcases script with ⟨path, opened⟩
    rw [List.cons_append, runScripts_cons]
    rw [runScripts_cons] at h
    rcases hrun : runScriptFile (scriptSettings o path) opened p.store p.stdout with
      ⟨failure | report, store, stdout⟩
    · rw [hrun] at h
      cases h
    · rw [hrun] at h
      dsimp only at h ⊢
      by_cases hended : report.ended = true
      · rw [if_pos hended] at h
        cases h
      · rw [if_neg hended] at h ⊢
        exact ih h

/-- Progress on top of earlier progress. -/
def Progress.behind (earlier p : Progress) : Progress :=
  { p with stdout := earlier.stdout ++ p.stdout, stderr := earlier.stderr ++ p.stderr }

/-- A script file does the same whatever was printed before. -/
theorem runScriptFile_append_out (settings : ScriptSettings) (opened : Opened) (store : Store)
    (before out : String) :
    runScriptFile settings opened store (before ++ out)
      = Outcome.afterPrinting before (runScriptFile settings opened store out) := by
  unfold runScriptFile
  cases scriptSource settings.name opened with
  | error failure => rfl
  | ok source => exact runScript_append_out settings source store before out

/-- What scripts do does not depend on what went to the streams before. -/
theorem runScripts_behind (earlier p : Progress) (scripts : List (String × Opened)) :
    runScripts o (earlier.behind p) scripts
      = ((runScripts o p scripts).1, earlier.behind (runScripts o p scripts).2) := by
  induction scripts generalizing p with
  | nil => rfl
  | cons script scripts ih =>
    rcases script with ⟨path, opened⟩
    have hfile := runScriptFile_append_out (scriptSettings o path) opened p.store earlier.stdout p.stdout
    rw [runScripts_cons, runScripts_cons]
    dsimp only [Progress.behind]
    rw [hfile]
    rcases runScriptFile (scriptSettings o path) opened p.store p.stdout with
      ⟨failure | report, store, stdout⟩
    · rfl
    · have hnext : (earlier.behind p).afterScript report store (earlier.stdout ++ stdout)
          = earlier.behind (p.afterScript report store stdout) := by
        simp [Progress.behind, Progress.afterScript, String.append_assoc]
      dsimp only [Outcome.afterPrinting]
      by_cases hended : report.ended = true
      · rw [if_pos hended, if_pos hended]
        exact congrArg (ScriptsOutcome.quit, ·) hnext
      · rw [if_neg hended, if_neg hended]
        exact (congrArg (runScripts o · scripts) hnext).trans (ih _)

/-- Scripts that run to their end pass nothing but the store on to the scripts behind them. -/
theorem runScripts_append_eq_behind {first : List (String × Opened)}
    (h : runScripts o p first = (.finished, q)) (second : List (String × Opened)) :
    runScripts o p (first ++ second)
      = ((runScripts o { store := q.store } second).1,
        q.behind (runScripts o { store := q.store } second).2) := by
  have hstart : q.behind { store := q.store } = q := by simp [Progress.behind]
  rw [runScripts_append h, ← runScripts_behind, hstart]

/-! ## What the scripts ask for -/

/-- What the script files of a session ask for, in file order. -/
def agenda (o : Options) (folder : Folder) : List ScriptItem :=
  o.files.flatMap fun path => ScriptItem.ofFile (scriptSettings o path) (folder.open? path)

/-- The result of a batch session. -/
def ScriptsOutcome.result : ScriptsOutcome → Except Failure Unit
  | failed failure => .error failure
  | quit | finished => .ok ()

/-- Scripts come to what executing all that they ask for comes to. -/
theorem executeAll_flatMap_ofFile (o : Options) (p : Progress) (scripts : List (String × Opened)) :
    ScriptItem.executeAll o.keepGoing p.store
        (scripts.flatMap fun (path, opened) => ScriptItem.ofFile (scriptSettings o path) opened)
      = ((runScripts o p scripts).1.result, (runScripts o p scripts).2.store) := by
  induction scripts generalizing p with
  | nil => rfl
  | cons script scripts ih =>
    rcases script with ⟨path, opened⟩
    have hfile := ScriptItem.executeAll_ofFile_append (scriptSettings o path) opened p.store p.stdout
    rw [List.flatMap_cons, runScripts_cons]
    refine (hfile _).trans ?_
    rcases runScriptFile (scriptSettings o path) opened p.store p.stdout with
      ⟨failure | report, store, stdout⟩
    · rfl
    · dsimp only
      by_cases hended : report.ended = true
      · rw [if_pos hended, if_pos hended]
        rfl
      · rw [if_neg hended, if_neg hended]
        exact ih (p.afterScript report store stdout)

/-! ## Batch sessions -/

/-- A batch session ends with its scripts. -/
theorem ScriptsOutcome.result?_of_batch (hbatch : o.batch = true) (outcome : ScriptsOutcome) :
    outcome.result? o = some outcome.result := by
  cases outcome with
  | finished => exact if_pos hbatch
  | quit => rfl
  | failed failure => rfl

/-- The store that a session with the state file of the path starts with: the one that the file holds,
or an empty one if there is nothing at the path. -/
inductive HoldsState (folder : Folder) (path : String) : Store → Prop
  | absent (h : (folder.open? path).isPresent = false) : HoldsState folder path {}
  | held {bytes : Bytes} {store : Store} (hopen : folder.open? path = .file bytes)
      (hdecode : StateFile.decode bytes = .ok store) : HoldsState folder path store

theorem HoldsState.initialStore_eq {store : Store} (h : HoldsState folder path store) :
    initialStore (some (path, folder.open? path)) = .ok store := by
  unfold initialStore
  cases h with
  | absent habsent => exact if_neg (by simp [habsent])
  | held hopen hdecode =>
    rw [hopen]
    show (StateFile.decode _).mapError _ = _
    rw [hdecode]
    rfl

/-- What went to the streams before a session's end stays in front there, and changes nothing else. -/
theorem exitOf_behind (outcome : Except Failure Unit) (earlier p : Progress) (folder : Folder) :
    exitOf outcome (earlier.behind p) folder
      = { exitOf outcome p folder with
          stdout := earlier.stdout ++ (exitOf outcome p folder).stdout
          stderr := earlier.stderr ++ (exitOf outcome p folder).stderr } := by
  cases outcome with
  | ok u => rfl
  | error failure => simp [exitOf, Progress.behind, String.append_assoc]

theorem folder_exitOf (outcome : Except Failure Unit) (p : Progress) (folder : Folder) :
    (exitOf outcome p folder).folder = folder := by
  cases outcome <;> rfl

/-- The scripts of a session, with what opening them comes to. -/
def openedFiles (folder : Folder) (files : List String) : List (String × Opened) :=
  files.map fun file => (file, folder.open? file)

/-- A batch session runs its scripts on the store of its state file, and saves what they leave, whatever
their outcome. -/
theorem run_of_batch {arguments : List String} {store : Store} {outcome : ScriptsOutcome}
    (harguments : Arguments.ofList arguments = .session o) (hbatch : o.batch = true)
    (hstate : o.state = some path) (haddresses : folder.Addresses path names)
    (hholds : HoldsState folder path store)
    (hscripts : runScripts o { store } (openedFiles folder o.files) = (outcome, p)) (stdin : Bytes) :
    run arguments folder stdin
      = exitOf outcome.result p (folder.set names (.file (StateFile.encode p.store))) := by
  have hsession : runSession o (openedFiles folder o.files) store stdin = (outcome.result, p) := by
    rw [runSession, hscripts]
    dsimp only
    rw [ScriptsOutcome.result?_of_batch hbatch]
  have hsave : folder.save path p.store = .ok (folder.set names (.file (StateFile.encode p.store))) := by
    rw [Folder.save, haddresses.write]
    rfl
  rw [run, harguments]
  dsimp only [runIn]
  rw [hstate, Option.map_some, hholds.initialStore_eq]
  dsimp only
  rw [← openedFiles, hsession]
  dsimp only [Folder.saveAfter]
  rw [hsave]

/-- What a batch session leaves in its state file.  A state file that holds no store is left as it is: the
session fails before its scripts.  Otherwise the file holds the store that executing what the scripts ask
for leaves, up to the first item that ends the session, and the exit code tells whether that was a
failure. -/
theorem run_saves_what_was_executed {arguments : List String}
    (harguments : Arguments.ofList arguments = .session o) (hbatch : o.batch = true)
    (hstate : o.state = some path) (hwritable : folder.Writable path) (stdin : Bytes) :
    (∀ bytes e, folder.open? path = .file bytes → StateFile.decode bytes = .error e →
        run arguments folder stdin
          = { code := 1, stdout := "", stderr := Failure.report ⟨.serialization e.message, none⟩, folder })
      ∧ ∀ store, HoldsState folder path store →
        let executed := ScriptItem.executeAll o.keepGoing store (agenda o folder)
        (run arguments folder stdin).folder.open? path = .file (StateFile.encode executed.2)
          ∧ (run arguments folder stdin).code = match executed.1 with
            | .ok () => 0
            | .error _ => 1 := by
  constructor
  · intro bytes e hopen hdecode
    have hload : initialStore (some (path, folder.open? path))
        = .error ⟨.serialization e.message, none⟩ := by
      rw [hopen]
      show (StateFile.decode bytes).mapError _ = _
      rw [hdecode]
      rfl
    rw [run, harguments]
    dsimp only [runIn]
    rw [hstate, Option.map_some, hload]
    simp [exitOf]
  · intro store hholds
    rcases hwritable.addresses with ⟨names, haddresses⟩
    rcases hscripts : runScripts o { store } (openedFiles folder o.files) with ⟨outcome, p⟩
    have hrun := run_of_batch harguments hbatch hstate haddresses hholds hscripts stdin
    have hexecuted : ScriptItem.executeAll o.keepGoing store (agenda o folder)
        = (outcome.result, p.store) := by
      have hitems := executeAll_flatMap_ofFile o { store } (openedFiles folder o.files)
      rw [hscripts, openedFiles, List.flatMap_map] at hitems
      exact hitems
    rw [hrun, hexecuted, folder_exitOf]
    refine ⟨haddresses.open?_set _, ?_⟩
    cases outcome.result <;> rfl

/-- A script that fails at its second command leaves what the first one did, and the script behind it is
not run; and a state file that holds no store is left as it is. -/
theorem run_saves_in_spite_of_failure :
    ∃ (arguments : List String) (folder broken : Folder),
      Arguments.ofList arguments
          = .session { files := ["a", "b"], batch := true, state := some "s" }
        ∧ (run arguments folder []).folder.open? "s"
            = .file (StateFile.encode ⟨[{ name := "t", data := "one" }]⟩)
        ∧ (run arguments folder []).code = 1
        ∧ broken.open? "s" = .file [0xc1] ∧ (run arguments broken []).folder = broken := by
  let o : Options := { files := ["a", "b"], batch := true, state := some "s" }
  let arguments := ["a", "--batch", "--state=s", "b"]
  let scripts : List (List String × Entry) :=
    [([".", "a"], .file (utf8Bytes "input t one\nsend x t\ninput t two\n")),
      ([".", "b"], .file (utf8Bytes "input t three\n"))]
  let folder : Folder := ⟨scripts⟩
  let broken : Folder := ⟨([".", "s"], .file [0xc1]) :: scripts⟩
  have harguments : Arguments.ofList arguments = .session o := by decide +kernel
  have hwrite : folder.write "s" [] = .ok (folder.set [".", "s"] (.file [])) := rfl
  have hoverwrite : broken.write "s" [] = .ok (broken.set [".", "s"] (.file [])) := rfl
  have hholds : HoldsState folder "s" {} := .absent (by decide +kernel)
  have hopen : broken.open? "s" = .file [0xc1] := by decide +kernel
  have hexecuted : (ScriptItem.executeAll o.keepGoing {} (agenda o folder)).2
      = ⟨[{ name := "t", data := "one" }]⟩ := by decide +kernel
  have hsaved := (run_saves_what_was_executed harguments rfl rfl (writable_of_write hwrite) []).2
    {} hholds
  have hleft := (run_saves_what_was_executed harguments rfl rfl (writable_of_write hoverwrite) []).1
    _ .reserved hopen rfl
  exact ⟨arguments, folder, broken, harguments, hsaved.1.trans (by rw [hexecuted]),
    hsaved.2.trans (by decide +kernel), hopen, by rw [hleft]⟩

end TextDesk.CommandLine
