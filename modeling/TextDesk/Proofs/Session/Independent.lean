import TextDesk.Proofs.Session
import TextDesk.Proofs.Store

/-! # Commands that keep out of each other's way

A command that creates no text puts a changed text in the place of one text of the store, and nothing
else.  What it finds by names, exact or as a pattern, is not changed by any other command, since names
stay; so two commands can be carried out in either order if neither changes the text that the other changes
or reads.  Main statement: `Session.run_comm`.
-/

namespace TextDesk

/-- Whether a command is carried out at once and changes a text: an input command with its data, or one
that formats, places a cursor or sends. -/
def Command.isEdit : Command → Bool
  | .input _ (some _) | .format .. | .cursor .. | .send .. => true
  | _ => false

/-! ## One text in the place of another -/

/-- The text `u`, if it is to stand in the place of the given text `t`. -/
def Text.exchange (t u x : Text) : Text := if x = t then u else x

namespace Store

variable {s s' : Store} {t u v w x : Text} {name : String} {c d : Command}

/-- The store with the text `u` in the place of the text `t`. -/
def replace (s : Store) (t u : Text) : Store := ⟨s.texts.map (t.exchange u)⟩

theorem exchange_self : t.exchange u t = u := if_pos rfl

theorem exchange_of_ne (h : x ≠ t) : t.exchange u x = x := if_neg h

theorem name_exchange (hname : u.name = t.name) (x : Text) : (t.exchange u x).name = x.name := by
  by_cases h : x = t
  · rw [h, exchange_self, hname]
  · rw [exchange_of_ne h]

/-- What a reference addresses depends on the names only. -/
theorem lookup_replace (hname : u.name = t.name) (reference : String) :
    (s.replace t u).lookup reference = (s.lookup reference).map (t.exchange u) := by
  unfold lookup replace get?
  by_cases hpattern : NamePattern.isPattern reference = true
  · rw [if_pos hpattern, if_pos hpattern, List.filter_map]
    simp only [Function.comp_def, name_exchange hname]
  · rw [if_neg hpattern, if_neg hpattern, List.find?_map]
    simp only [Function.comp_def, name_exchange hname]
    cases s.texts.find? _ <;> rfl

/-- What a name addresses depends on the names only. -/
theorem get?_replace (hname : u.name = t.name) (name : String) :
    (s.replace t u).get? name = (s.get? name).map (t.exchange u) := by
  unfold replace get?
  rw [List.find?_map]
  simp only [Function.comp_def, name_exchange hname]

theorem Distinct.replace (h : s.Distinct) (hname : u.name = t.name) : (s.replace t u).Distinct := by
  have hnames : (s.replace t u).names = s.names := by
    unfold names Store.replace
    rw [List.map_map]
    apply List.map_congr_left
    intro x _
    exact name_exchange hname x
  unfold Distinct
  rw [hnames]
  exact h

/-- Texts can be put in the place of two others in either order. -/
theorem replace_comm (hu : u.name = t.name) (hv : v.name = w.name) (hne : t.name ≠ w.name) :
    (s.replace t u).replace w v = (s.replace w v).replace t u := by
  have huw : u ≠ w := by
    rintro rfl
    exact hne hu.symm
  have hvt : v ≠ t := by
    rintro rfl
    exact hne hv
  have htw : t ≠ w := by
    rintro rfl
    exact hne rfl
  unfold replace
  rw [List.map_map, List.map_map]
  congr 1
  apply List.map_congr_left
  intro x _
  show w.exchange v (t.exchange u x) = t.exchange u (w.exchange v x)
  by_cases hxt : x = t
  · rw [hxt, exchange_self, exchange_of_ne huw, exchange_of_ne htw, exchange_self]
  · rw [exchange_of_ne hxt]
    by_cases hxw : x = w
    · rw [hxw, exchange_self, exchange_of_ne hvt]
    · rw [exchange_of_ne hxw, exchange_of_ne hxt]

/-- To change the text of a name is to put the changed text in its place. -/
theorem Distinct.modify_eq_replace (h : s.Distinct) {f : Text → Text} (ht : s.get? name = some t) :
    s.modify name f = s.replace t (f t) := by
  have htexts : (s.modify name f).texts = (s.replace t (f t)).texts := by
    rw [h.texts_modify]
    apply List.map_congr_left
    intro x hx
    by_cases hname : sameName x.name name = true
    · have hxt : x = t := by
        have hget := h.get?_eq_some_iff.2 ⟨hx, hname⟩
        rw [ht] at hget
        exact (Option.some.inj hget).symm
      rw [if_pos hname, hxt, exchange_self]
    · have hxt : x ≠ t := by
        rintro rfl
        exact hname (h.get?_eq_some_iff.1 ht).2
      rw [if_neg hname, exchange_of_ne hxt]
  exact congrArg Store.mk htexts

/-! ## What a command works on -/

/-- The text that a command changes, unless it creates one. -/
def written? (s : Store) : Command → Option Text
  | .input name _ => s.get? name
  | .format name _ => s.get? name
  | .cursor _ target .. => (s.lookup target).head?
  | .send _ target => s.get? target
  | .print _ => none

/-- The text whose data a command takes. -/
def read? (s : Store) : Command → Option Text
  | .send source _ => s.get? source
  | _ => none

/-- A command that creates no text, the text that it changes, and what it makes of it. -/
inductive Edits (s : Store) : Command → Text → Text → Prop
  | input {name data : String} {t : Text} (ht : s.get? name = some t) :
      Edits s (.input name (some data)) t { t with data }
  | format {name : String} {separators : Option (List String)} {t : Text}
      (ht : s.get? name = some t) :
      Edits s (.format name separators) t
        { t with data := reflow (separators.getD standardSeparators) t.data }
  | cursor {name target : String} {start stop : Destination} {ahead : Bool} {t : Text}
      (ht : (s.lookup target).head? = some t) :
      Edits s (.cursor name target start ahead stop) t
        (placeCursor { name, target := some t.name, start, ahead, stop } t)
  | send {source target : String} {sender t : Text} (hsender : s.get? source = some sender)
      (ht : s.get? target = some t) : Edits s (.send source target) t (appendData sender.data t)

namespace Edits

theorem written?_eq (h : s.Edits c t u) : s.written? c = some t := by
  cases h with
  | input ht => exact ht
  | format ht => exact ht
  | cursor ht => exact ht
  | send _ ht => exact ht

theorem name_eq (h : s.Edits c t u) : u.name = t.name := by
  cases h <;> rfl

theorem mem_texts (h : s.Edits c t u) : t ∈ s.texts := by
  cases h with
  | input ht => exact List.mem_of_find?_eq_some ht
  | format ht => exact List.mem_of_find?_eq_some ht
  | cursor ht => exact mem_of_mem_lookup (List.mem_of_mem_head? ht)
  | send _ ht => exact List.mem_of_find?_eq_some ht

/-- What a command works on is the same in a store where another text has changed. -/
theorem replace (h : s.Edits c t u) (hname : v.name = w.name) (hne : t ≠ w)
    (hread : s.read? c ≠ some w) : (s.replace w v).Edits c t u := by
  have hget {n : String} {x : Text} (hx : s.get? n = some x) (hxw : x ≠ w) :
      (s.replace w v).get? n = some x := by
    rw [get?_replace hname, hx, Option.map_some, exchange_of_ne hxw]
  cases h with
  | input ht => exact .input (hget ht hne)
  | format ht => exact .format (hget ht hne)
  | cursor ht =>
    apply Edits.cursor
    rw [lookup_replace hname, List.head?_map, ht, Option.map_some, exchange_of_ne hne]
  | send hsender ht =>
    refine .send (hget hsender ?_) (hget ht hne)
    rintro rfl
    exact hread hsender

/-- A command that creates no text modifies the text that a name addresses. -/
theorem exists_modify (hs : s.Distinct) (h : s.Edits c t u) :
    ∃ name f, s.get? name = some t ∧ f t = u ∧ s.obey c = .ok (.done, s.modify name f) := by
  cases h with
  | @input name data t ht =>
    have hsome : (s.get? (enteredText name data).name).isSome = true := by
      rw [show (enteredText name data).name = name from rfl, ht]
      rfl
    refine ⟨name, (replaceData · (enteredText name data)), ht, rfl, ?_⟩
    rw [obey_input_some, addText, if_pos hsome]
    rfl
  | @format name separators t ht =>
    let f (t : Text) : Text :=
      { t with data := reflow (separators.getD standardSeparators) t.data }
    refine ⟨name, f, ht, rfl, ?_⟩
    rw [obey_format, Store.format, ht]
    rfl
  | @cursor name target start stop ahead t ht =>
    -- the target may be a pattern, but the text is then sought by its own name
    have hmem := mem_of_mem_lookup (List.mem_of_mem_head? ht)
    have hget := hs.get?_eq_some_iff.2 ⟨hmem, sameName_refl t.name⟩
    refine ⟨t.name, placeCursor { name, target := some t.name, start, ahead, stop }, hget, rfl, ?_⟩
    rw [obey_cursor, resolvedCursor, ht, Option.map_some, addCursor]
    dsimp only
    rw [hget]
    rfl
  | @send source target sender t hsender ht =>
    refine ⟨target, appendData sender.data, ht, rfl, ?_⟩
    rw [obey_send, sendText, hsender, ht]
    rfl

/-- A command that creates no text puts the changed text in the place of the one that it changes. -/
theorem obey_eq (hs : s.Distinct) (h : s.Edits c t u) :
    s.obey c = .ok (.done, s.replace t u) := by
  obtain ⟨name, f, hget, rfl, hobey⟩ := h.exists_modify hs
  rw [hobey, hs.modify_eq_replace hget]

end Edits

/-- A command that changes a text has nothing left to do. -/
theorem obey_of_isEdit (hc : c.isEdit = true) {reply : Reply}
    (hobey : s.obey c = .ok (reply, s')) : reply = .done := by
  rcases obey_cases hobey with ⟨hdone, -, -⟩ | ⟨reference, texts, rfl, -⟩ | ⟨name, rfl, -⟩
  · exact hdone
  · cases hc
  · cases hc

/-- A command that is carried out and adds no text changes one that is there. -/
theorem exists_edits_of_obey (hc : c.isEdit = true) {reply : Reply}
    (hobey : s.obey c = .ok (reply, s')) (hkeep : s'.texts.length = s.texts.length) :
    ∃ t u, s.Edits c t u := by
  have hnew {x : Text} (hadded : s' = ⟨s.texts ++ [x]⟩) : False := by
    rw [hadded, List.length_append, List.length_singleton] at hkeep
    omega
  cases c with
  | print reference => cases hc
  | input name data =>
    cases data with
    | none => cases hc
    | some data =>
      rw [obey_input_some] at hobey
      obtain ⟨-, hadd⟩ := Prod.mk.inj (Except.ok.inj hobey)
      cases ht : s.get? name with
      | some t => exact ⟨t, _, .input ht⟩
      | none =>
        have hnone : ¬ (s.get? (enteredText name data).name).isSome = true := by
          rw [show (enteredText name data).name = name from rfl, ht]
          decide
        rw [addText, if_neg hnone] at hadd
        exact (hnew hadd.symm).elim
  | format name separators =>
    rw [obey_format] at hobey
    obtain ⟨after, hformat, -⟩ := exists_of_map_eq_ok hobey
    cases ht : s.get? name with
    | some t => exact ⟨t, _, .format ht⟩
    | none =>
      rw [Store.format, ht] at hformat
      cases hformat
  | cursor name target start ahead stop =>
    rw [obey_cursor] at hobey
    obtain ⟨after, hcursor, -⟩ := exists_of_map_eq_ok hobey
    cases ht : (s.lookup target).head? with
    | some t => exact ⟨t, _, .cursor ht⟩
    | none =>
      rw [resolvedCursor, ht] at hcursor
      cases hcursor
  | send source target =>
    rw [obey_send] at hobey
    obtain ⟨after, hsend, hafter⟩ := exists_of_map_eq_ok hobey
    obtain ⟨-, rfl⟩ := Prod.mk.inj hafter
    cases hsender : s.get? source with
    | none =>
      rw [sendText, hsender] at hsend
      cases hsend
    | some sender =>
      rw [sendText, hsender] at hsend
      dsimp only at hsend
      cases ht : s.get? target with
      | some t => exact ⟨t, _, .send hsender ht⟩
      | none =>
        rw [ht] at hsend
        exact (hnew (Except.ok.inj hsend).symm).elim

end Store

/-! ## Commands on a bench -/

namespace Session

variable {α ω : Type} [AreaSource α] [Outlet ω] {bench after first second : Bench α ω} {c d : Command}

/-- A command that changes a text asks for nothing and prints nothing. -/
theorem run_eq_ok_iff (hc : c.isEdit = true) :
    (c.run : Session α ω Unit).run.run bench = (.ok (), after)
      ↔ ∃ s, bench.store.obey c = .ok (.done, s) ∧ after = { bench with store := s } := by
  rw [run_command]
  cases hobey : bench.store.obey c with
  | error failure =>
    constructor
    · intro h
      cases (Prod.mk.inj h).1
    · rintro ⟨s, hs, -⟩
      cases hs
  | ok result =>
    rcases result with ⟨reply, store⟩
    obtain rfl := Store.obey_of_isEdit hc hobey
    constructor
    · intro h
      exact ⟨store, rfl, (Prod.mk.inj h).2.symm⟩
    · rintro ⟨s, hs, rfl⟩
      cases hs
      rfl

/-- Two commands that both can be carried out on a store of different names, and create no text there,
can be carried out in either order with the same result, if the text that each changes is neither changed
nor read by the other. -/
theorem run_comm (h : bench.store.Distinct) (hc : c.isEdit = true) (hd : d.isEdit = true)
    (hfirst : (c.run : Session α ω Unit).run.run bench = (.ok (), first))
    (hsecond : (d.run : Session α ω Unit).run.run bench = (.ok (), second))
    (hkeepFirst : first.store.texts.length = bench.store.texts.length)
    (hkeepSecond : second.store.texts.length = bench.store.texts.length)
    (hwritten : bench.store.written? c ≠ bench.store.written? d)
    (hreadSecond : bench.store.written? c ≠ bench.store.read? d)
    (hreadFirst : bench.store.written? d ≠ bench.store.read? c) :
    ∃ after, (d.run : Session α ω Unit).run.run first = (.ok (), after)
      ∧ (c.run : Session α ω Unit).run.run second = (.ok (), after) := by
  obtain ⟨sc, hobeyFirst, rfl⟩ := (run_eq_ok_iff hc).1 hfirst
  obtain ⟨sd, hobeySecond, rfl⟩ := (run_eq_ok_iff hd).1 hsecond
  obtain ⟨t, u, hcEdits⟩ := Store.exists_edits_of_obey hc hobeyFirst hkeepFirst
  obtain ⟨w, v, hdEdits⟩ := Store.exists_edits_of_obey hd hobeySecond hkeepSecond
  rw [hcEdits.written?_eq] at hwritten hreadSecond
  rw [hdEdits.written?_eq] at hwritten hreadFirst
  -- the two texts differ, so their names do
  have hne : t ≠ w := fun heq => hwritten (congrArg some heq)
  have hnames : t.name ≠ w.name := by
    intro hname
    apply hne
    apply h.eq_of_sameName hcEdits.mem_texts hdEdits.mem_texts
    rw [hname]
    exact sameName_refl w.name
  rw [hcEdits.obey_eq h] at hobeyFirst
  rw [hdEdits.obey_eq h] at hobeySecond
  obtain ⟨-, rfl⟩ := Prod.mk.inj (Except.ok.inj hobeyFirst)
  obtain ⟨-, rfl⟩ := Prod.mk.inj (Except.ok.inj hobeySecond)
  -- each command works on the same texts behind the other
  have hdBehind := hdEdits.replace hcEdits.name_eq hne.symm hreadSecond.symm
  have hcBehind := hcEdits.replace hdEdits.name_eq hne hreadFirst.symm
  have hdObey := hdBehind.obey_eq (h.replace hcEdits.name_eq)
  have hcObey := hcBehind.obey_eq (h.replace hdEdits.name_eq)
  rw [← Store.replace_comm hcEdits.name_eq hdEdits.name_eq hnames] at hcObey
  exact ⟨_, (run_eq_ok_iff hd).2 ⟨_, hdObey, rfl⟩, (run_eq_ok_iff hc).2 ⟨_, hcObey, rfl⟩⟩

/-- A cursor whose target is a pattern, and a send that names its texts in other spellings. -/
theorem run_comm_of_cursor_and_send :
    ∃ (_ : AreaSource Unit) (bench first second after : Bench Unit String) (c d : Command),
      c = .cursor "here" "N*" { position := some 0 } true { word := some "end" }
        ∧ d = .send "SOURCE" "Log"
        ∧ bench.store.texts.map Text.name = ["Notes", "Source", "log"] ∧ bench.store.Distinct
        ∧ (c.run : Session Unit String Unit).run.run bench = (.ok (), first)
        ∧ (d.run : Session Unit String Unit).run.run bench = (.ok (), second)
        ∧ bench.store.written? c ≠ bench.store.written? d
        ∧ bench.store.written? c ≠ bench.store.read? d
        ∧ bench.store.written? d ≠ bench.store.read? c
        ∧ (d.run : Session Unit String Unit).run.run first = (.ok (), after)
        ∧ (c.run : Session Unit String Unit).run.run second = (.ok (), after) := by
  let areas : AreaSource Unit := ⟨fun _ _ _ => (.error (.internal "no area"), ())⟩
  let notes : Text := { name := "Notes", data := "one" }
  let source : Text := { name := "Source", data := "two" }
  let log : Text := { name := "log", data := "three" }
  let bench : Bench Unit String := { store := ⟨[notes, source, log]⟩, areas := (), out := "" }
  let c : Command := .cursor "here" "N*" { position := some 0 } true { word := some "end" }
  let d : Command := .send "SOURCE" "Log"
  let placed : Cursor :=
    { name := "here", target := some "Notes", start := { position := some 0 }, ahead := true
      stop := { word := some "end" } }
  let first : Bench Unit String :=
    { bench with store := ⟨[{ notes with cursors := [placed] }, source, log]⟩ }
  let second : Bench Unit String :=
    { bench with store := ⟨[notes, source, { log with data := "three\ntwo" }]⟩ }
  have hdistinct : bench.store.Distinct := by
    unfold Store.Distinct
    decide
  have hobeyFirst : bench.store.obey c = .ok (.done, first.store) := by decide +kernel
  have hobeySecond : bench.store.obey d = .ok (.done, second.store) := by decide +kernel
  have hfirst : (c.run : Session Unit String Unit).run.run bench = (.ok (), first) :=
    (run_eq_ok_iff rfl).2 ⟨_, hobeyFirst, rfl⟩
  have hsecond : (d.run : Session Unit String Unit).run.run bench = (.ok (), second) :=
    (run_eq_ok_iff rfl).2 ⟨_, hobeySecond, rfl⟩
  have hwritten : bench.store.written? c ≠ bench.store.written? d := by decide +kernel
  have hreadSecond : bench.store.written? c ≠ bench.store.read? d := by decide +kernel
  have hreadFirst : bench.store.written? d ≠ bench.store.read? c := by decide +kernel
  obtain ⟨after, hbehindFirst, hbehindSecond⟩ :=
    run_comm hdistinct rfl rfl hfirst hsecond rfl rfl hwritten hreadSecond hreadFirst
  exact ⟨areas, bench, first, second, after, c, d, rfl, rfl, rfl, hdistinct, hfirst, hsecond,
    hwritten, hreadSecond, hreadFirst, hbehindFirst, hbehindSecond⟩

end Session

end TextDesk
