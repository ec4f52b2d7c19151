import TextDesk.Proofs.CommandLine
import TextDesk.Proofs.StateFile.LostSize

/-! # Sessions one behind the other

A batch session that runs all its scripts to their end can be split: a second session with the state file
that the first one leaves goes on where the first one stopped, as nothing but the store passes from script
to script.  The store in between must fit in the format, since a head does not hold a size above its
bound, and what stands on the command line must be taken for scripts, which a name that starts with a dash is
not.  Main statements: `run_split`, and that it holds neither without the one condition nor without the other.
-/

namespace TextDesk.CommandLine

open Folder

variable {o : Options} {path : String} {folder : Folder}

/-- Files other than the one that was written are opened as before. -/
theorem openedFiles_set {names : List String} (haddresses : folder.Addresses path names)
    {files : List String} (hreadable : ∀ file ∈ files, ∃ bytes, folder.open? file = .file bytes)
    (hother : ∀ file ∈ files, ¬ folder.SameFile file path) (written : Bytes) :
    openedFiles (folder.set names (.file written)) files = openedFiles folder files := by
  apply List.map_congr_left
  intro file hfile
  rcases hreadable file hfile with ⟨bytes, hopen⟩
  rw [hopen, haddresses.open?_set_of_not_sameFile hopen (hother file hfile)]

/-- Two sessions, the second with the state file that the first one leaves, leave the same files as one
session with the scripts of both, print the same together, and the second ends with the same code. -/
theorem run_split {first second : List String} {firstArguments secondArguments arguments : List String}
    (hfirst : Arguments.ofList firstArguments = .session { o with files := first })
    (hsecond : Arguments.ofList secondArguments = .session { o with files := second })
    (hwhole : Arguments.ofList arguments = .session { o with files := first ++ second })
    (hbatch : o.batch = true) (hstate : o.state = some path)
    (hwritable : folder.Writable path) {store : Store} (hholds : HoldsState folder path store)
    (hreadable : ∀ file ∈ second, ∃ bytes, folder.open? file = .file bytes)
    (hother : ∀ file ∈ second, ¬ folder.SameFile file path)
    {between : Progress}
    (hfinished : runScripts o { store } (openedFiles folder first) = (.finished, between))
    (hstorable : between.store.Storable) (stdin firstStdin secondStdin : Bytes) :
    let one := run firstArguments folder firstStdin
    let two := run secondArguments one.folder secondStdin
    let whole := run arguments folder stdin
    two.folder = whole.folder ∧ (∃ bytes, whole.folder.open? path = .file bytes)
      ∧ one.stdout ++ two.stdout = whole.stdout ∧ one.stderr ++ two.stderr = whole.stderr
      ∧ one.code = 0 ∧ two.code = whole.code := by
  rcases hwritable.addresses with ⟨names, haddresses⟩
  let written := folder.set names (.file (StateFile.encode between.store))
  -- the options of the three sessions differ in their files only
  have hoptions (files : List String) (p : Progress) (scripts : List (String × Opened)) :
      runScripts { o with files } p scripts = runScripts o p scripts :=
    @runScripts_congr { o with files } p o rfl scripts
  have hone : run firstArguments folder firstStdin = exitOf (.ok ()) between written :=
    run_of_batch hfirst hbatch hstate haddresses hholds ((hoptions ..).trans hfinished) firstStdin
  -- the second session finds what the first one saved, and the scripts as they were
  have hkept : HoldsState written path between.store :=
    .held (haddresses.open?_set _) (StateFile.decode_eq_of_reads (StateFile.reads_encode hstorable))
  have hopened : openedFiles written second = openedFiles folder second :=
    openedFiles_set haddresses hreadable hother _
  rcases hlast : runScripts o { store := between.store } (openedFiles folder second) with
    ⟨outcome, last⟩
  have htwo : run secondArguments written secondStdin = exitOf outcome.result last
      (written.set names (.file (StateFile.encode last.store))) := by
    refine run_of_batch hsecond hbatch hstate (haddresses.set haddresses.notFolder _) hkept ?_ _
    rw [hoptions, hopened, hlast]
  have hboth : run arguments folder stdin = exitOf outcome.result (between.behind last)
      (folder.set names (.file (StateFile.encode last.store))) := by
    refine run_of_batch hwhole hbatch hstate haddresses hholds ?_ stdin
    rw [hoptions, openedFiles, List.map_append]
    refine (runScripts_append_eq_behind hfinished _).trans ?_
    rw [← openedFiles, hlast]
  dsimp only
  rw [hone, hboth, exitOf_behind, show (exitOf (.ok ()) between written).folder = written from rfl, htwo,
    set_set, folder_exitOf]
  exact ⟨rfl, ⟨_, haddresses.open?_set _⟩, rfl, rfl, rfl, rfl⟩

/-- A script that leaves a text and one that shows it, run one behind the other. -/
theorem run_split_of_input_and_print :
    ∃ folder : Folder,
      let one := run ["--batch", "--state=s", "a"] folder []
      let two := run ["--batch", "--state=s", "b"] one.folder []
      let whole := run ["--batch", "--state=s", "a", "b"] folder []
      two.folder = whole.folder
        ∧ whole.folder.open? "s" = .file (StateFile.encode ⟨[{ name := "t", data := "one" }]⟩)
        ∧ one.stdout ++ two.stdout = whole.stdout ∧ whole.stdout ≠ "" := by
  let o : Options := { files := [], batch := true, state := some "s" }
  let folder : Folder :=
    ⟨[([".", "a"], .file (utf8Bytes "input t one\n")), ([".", "b"], .file (utf8Bytes "print t\n"))]⟩
  have hwrite : folder.write "s" [] = .ok (folder.set [".", "s"] (.file [])) := rfl
  have hreadable : ∀ file ∈ ["b"], ∃ bytes, folder.open? file = .file bytes := by
    intro file hfile
    obtain rfl := List.mem_singleton.1 hfile
    exact ⟨utf8Bytes "print t\n", by decide +kernel⟩
  have hother : ∀ file ∈ ["b"], ¬ folder.SameFile file "s" := by
    intro file hfile
    obtain rfl := List.mem_singleton.1 hfile
    have hb : folder.Addresses "b" [".", "b"] :=
      ⟨rfl, rfl, rfl, by decide +kernel⟩
    have hs : folder.Addresses "s" [".", "s"] :=
      ⟨rfl, rfl, rfl, by decide +kernel⟩
    exact not_sameFile_of_ne hb hs (by decide)
  have hfinished : runScripts o { store := {} } (openedFiles folder ["a"])
      = (.finished, { store := ⟨[{ name := "t", data := "one" }]⟩ }) := by decide +kernel
  have hfirst : Arguments.ofList ["--batch", "--state=s", "a"] = .session { o with files := ["a"] } := by
    decide +kernel
  have hsecond : Arguments.ofList ["--batch", "--state=s", "b"] = .session { o with files := ["b"] } := by
    decide +kernel
  have hwhole : Arguments.ofList ["--batch", "--state=s", "a", "b"]
      = .session { o with files := ["a"] ++ ["b"] } := by decide +kernel
  have hholds : HoldsState folder "s" {} := .absent (by decide +kernel)
  have hsplit := run_split hfirst hsecond hwhole rfl rfl (writable_of_write hwrite) hholds hreadable
    hother hfinished (by decide +kernel) [] [] []
  exact ⟨folder, hsplit.1, by decide +kernel, hsplit.2.2.1, by decide +kernel⟩

/-! ## The conditions -/

/-- The arguments of a batch session with a state file. -/
def batchArguments (keepGoing : Bool) (path : String) (files : List String) : List String :=
  ["--batch", "--state", path] ++ (if keepGoing then ["--keep-going"] else []) ++ files

/-- A batch session finds what it needs for being split behind the scripts `first`: the state file can be
written and holds a store if it is there, the scripts are readable and other files, and those of `first` run
to their end. -/
structure Splittable (folder : Folder) (path : String) (keepGoing : Bool) (first second : List String) :
    Prop where
  writable : folder.Writable path
  readable : ∀ file ∈ first ++ second, ∃ source, folder.open? file = .file (utf8Bytes source)
  other : ∀ file ∈ first ++ second, ¬ folder.SameFile file path
  finished : ∃ store between, HoldsState folder path store
    ∧ runScripts { batch := true, state := some path, keepGoing } { store } (openedFiles folder first)
      = (.finished, between)

/-- Two batch sessions leave the state file and print together what one with the scripts of both does. -/
def SplitsAlike (folder : Folder) (path : String) (keepGoing : Bool) (first second : List String) : Prop :=
  let one := run (batchArguments keepGoing path first) folder []
  let two := run (batchArguments keepGoing path second) one.folder []
  let whole := run (batchArguments keepGoing path (first ++ second)) folder []
  two.folder.open? path = whole.folder.open? path ∧ one.stdout ++ two.stdout = whole.stdout

instance (folder : Folder) (path : String) (keepGoing : Bool) (first second : List String) :
    Decidable (SplitsAlike folder path keepGoing first second) :=
  inferInstanceAs (Decidable (_ ∧ _))

/-- A script that sends a text to itself doubles its data. -/
theorem runScripts_of_doubling (o : Options) {data : String} (hdata : data ≠ "") :
    runScripts o { store := ⟨[{ name := "t", data }]⟩ } [("a", .file (utf8Bytes "send t t\n"))]
      = (.finished, { store := ⟨[{ name := "t", data := data ++ ("\n" ++ data) }]⟩ }) := by
  let s : Store := ⟨[{ name := "t", data }]⟩
  let sent : Store := ⟨[{ name := "t", data := data ++ ("\n" ++ data) }]⟩
  have hlines : textLines "send t t\n" = ["send t t"] := by decide +kernel
  have hcomment : isComment "send t t" = false := by decide +kernel
  have hline : Instruction.ofLine "send t t" = .obey (.send "t" "t") := by decide +kernel
  have hobey : s.obey (.send "t" "t") = .ok (.done, sent) := by
    have hname : sameName "t" "t" = true := by decide
    have hsend : s.sendText "t" "t" = .ok sent := by
      simp [s, sent, Store.sendText, Store.get?, Store.modify, modifyFirst, Store.appendData, hname, hdata,
        String.append_assoc]
    rw [Store.obey_send, hsend]
    rfl
  have hscript (settings : ScriptSettings) :
      runScript settings "send t t\n" s "" = (.ok { executed := 1 }, sent, "") := by
    simp only [runScript, hlines, ScriptRun.steps, ScriptRun.step, hcomment, hline, ScriptRun.obey, hobey]
    rfl
  rw [runScripts_cons]
  dsimp only [runScriptFile, scriptSource]
  rw [ofUtf8?_utf8Bytes]
  dsimp only
  rw [hscript]
  rfl

/-- A session is not even split alike from one without scripts if the store that it leaves is read back from
its state file as another one. -/
theorem not_splitsAlike_of_lost {keepGoing : Bool} {first : List String} {names : List String}
    {store lost : Store} {between : Progress} (haddresses : folder.Addresses path names)
    (hfirst : Arguments.ofList (batchArguments keepGoing path first)
      = .session { files := first, batch := true, state := some path, keepGoing })
    (hsecond : Arguments.ofList (batchArguments keepGoing path [])
      = .session { batch := true, state := some path, keepGoing })
    (hholds : HoldsState folder path store)
    (hfinished : runScripts { files := first, batch := true, state := some path, keepGoing } { store }
      (openedFiles folder first) = (.finished, between))
    (hlost : StateFile.decode (StateFile.encode between.store) = .ok lost)
    (hne : StateFile.encode between.store ≠ StateFile.encode lost) :
    ¬ SplitsAlike folder path keepGoing first [] := by
  rintro ⟨hsame, -⟩
  have hone := run_of_batch hfirst rfl rfl haddresses hholds hfinished []
  -- the second session finds the other store, and saves it
  let written := folder.set names (.file (StateFile.encode between.store))
  have hwritten : written.Addresses path names := haddresses.set haddresses.notFolder _
  have hfound : HoldsState written path lost := .held (haddresses.open?_set _) hlost
  have htwo := run_of_batch hsecond rfl rfl hwritten hfound rfl []
  rw [List.append_nil, hone, folder_exitOf, htwo, folder_exitOf, hwritten.open?_set,
    haddresses.open?_set] at hsame
  exact hne (Opened.file.inj hsame).symm

/-- A session that doubles data of the largest size that fits does not split alike: the next one finds the
data as they were before, and saves them so. -/
theorem exists_not_splitsAlike_of_lost_size :
    ∃ folder, Splittable folder "s" false ["a"] [] ∧ ¬ SplitsAlike folder "s" false ["a"] [] := by
  rcases StateFile.exists_utf8Bytes_eq_cons (2 ^ 32 - 2) with ⟨data, rest, hstart, hsize⟩
  let s : Store := ⟨[{ name := "t", data }]⟩
  let sent : Store := ⟨[{ name := "t", data := data ++ ("\n" ++ data) }]⟩
  have hname : MessagePack.IsShortString "t" := by decide
  have hstorable : s.Storable :=
    StateFile.storable_singleton hname (StateFile.isShortString_of_size hsize)
  rcases StateFile.decode_encode_of_doubled hname hsize hstart (by decide) with ⟨hlost, hne⟩
  -- a state file with the text beside the script that doubles its data
  let base : Folder := ⟨[([".", "a"], .file (utf8Bytes "send t t\n"))]⟩
  let folder := base.set [".", "s"] (.file (StateFile.encode s))
  have hstate : base.Addresses "s" [".", "s"] := ⟨rfl, rfl, rfl, by decide +kernel⟩
  have hscript : base.Addresses "a" [".", "a"] := ⟨rfl, rfl, rfl, by decide +kernel⟩
  have hother : ¬ base.SameFile "a" "s" := not_sameFile_of_ne hscript hstate (by decide)
  have haddresses : folder.Addresses "s" [".", "s"] := hstate.set hstate.notFolder _
  have hopened : folder.open? "a" = .file (utf8Bytes "send t t\n") :=
    hstate.open?_set_of_not_sameFile (hscript.open?_eq_file rfl) hother _
  have hholds : HoldsState folder "s" s :=
    .held (hstate.open?_set _) (StateFile.decode_eq_of_reads (StateFile.reads_encode hstorable))
  have hrun (o : Options) : runScripts o { store := s } (openedFiles folder ["a"])
      = (.finished, { store := sent }) := by
    have hdata : data ≠ "" := by
      rintro rfl
      cases hstart
    rw [openedFiles, List.map_singleton, hopened]
    exact runScripts_of_doubling o hdata
  refine ⟨folder, ⟨?_, ?_, ?_, s, { store := sent }, hholds, hrun _⟩, ?_⟩
  · exact fun bytes => ⟨_, haddresses.write bytes⟩
  · rw [List.append_nil, List.forall_mem_singleton]
    exact ⟨_, hopened⟩
  · rw [List.append_nil, List.forall_mem_singleton]
    exact not_sameFile_of_ne (hscript.set hstate.notFolder _) haddresses (by decide)
  · exact not_splitsAlike_of_lost haddresses (by decide +kernel) (by decide +kernel) hholds (hrun _)
      hlost hne

/-- If the name of a script starts with a dash, the arguments are refused: in a session of its own that
script leaves the state as the first session left it, but together with others it keeps them from being
run. -/
theorem exists_not_splitsAlike_of_dash :
    ∃ folder, Splittable folder "s" false ["a"] ["-x"] ∧ ¬ SplitsAlike folder "s" false ["a"] ["-x"] := by
  let folder : Folder :=
    ⟨[([".", "a"], .file (utf8Bytes "input t one\n")), ([".", "-x"], .file (utf8Bytes "print t\n"))]⟩
  let between : Progress := { store := ⟨[{ name := "t", data := "one" }]⟩ }
  have hwrite : folder.write "s" [] = .ok (folder.set [".", "s"] (.file [])) := rfl
  have hstate : folder.Addresses "s" [".", "s"] := ⟨rfl, rfl, rfl, by decide +kernel⟩
  have hscript : folder.Addresses "a" [".", "a"] := ⟨rfl, rfl, rfl, by decide +kernel⟩
  have hdashed : folder.Addresses "-x" [".", "-x"] := ⟨rfl, rfl, rfl, by decide +kernel⟩
  have hholds : HoldsState folder "s" {} := .absent (by decide +kernel)
  refine ⟨folder, ⟨writable_of_write hwrite, ?_, ?_, {}, between, hholds, by decide +kernel⟩,
    by decide +kernel⟩
  · rw [List.singleton_append, List.forall_mem_cons, List.forall_mem_singleton]
    exact ⟨⟨_, hscript.open?_eq_file rfl⟩, ⟨_, hdashed.open?_eq_file rfl⟩⟩
  · rw [List.singleton_append, List.forall_mem_cons, List.forall_mem_singleton]
    exact ⟨not_sameFile_of_ne hscript hstate (by decide), not_sameFile_of_ne hdashed hstate (by decide)⟩

/-- A session that can be split by its files need not split alike: the store in between must fit in the
format, and no script may have a name that is taken for an option. -/
theorem not_splitsAlike_of_lost_size_and_of_dash :
    (∃ folder, Splittable folder "s" false ["a"] [] ∧ ¬ SplitsAlike folder "s" false ["a"] [])
      ∧ ∃ folder, Splittable folder "s" false ["a"] ["-x"]
        ∧ ¬ SplitsAlike folder "s" false ["a"] ["-x"] :=
  ⟨exists_not_splitsAlike_of_lost_size, exists_not_splitsAlike_of_dash⟩

end TextDesk.CommandLine
