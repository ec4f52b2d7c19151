import TextDesk.Session

/-! # What a line does

`Store.obey` is one operation on the store for each command, and `Bench.execute_eq` says what executing
a line does to the store, the source of text areas and the outlet, in every case.  Main statement: a
line that fails leaves the texts as they were, and so do blank lines, the line that ends the session
and print commands.
-/

namespace TextDesk

/-- Outcomes can be compared if failures and values can. -/
instance decidableEqExcept {ε α : Type} [DecidableEq ε] [DecidableEq α] :
    DecidableEq (Except ε α)
  | .error e, .error e' => decidable_of_iff (e = e') ⟨congrArg Except.error, Except.error.inj⟩
  | .ok a, .ok a' => decidable_of_iff (a = a') ⟨congrArg Except.ok, Except.ok.inj⟩
  | .error _, .ok _ => isFalse nofun
  | .ok _, .error _ => isFalse nofun

/-- What a mapped outcome comes from. -/
theorem exists_of_map_eq_ok {ε α β : Type} {f : α → β} {outcome : Except ε α} {b : β}
    (h : outcome.map f = .ok b) : ∃ a, outcome = .ok a ∧ f a = b := by
  cases outcome with
  | error e => cases h
  | ok a => exact ⟨a, rfl, Except.ok.inj h⟩

/-! ## Commands on a store -/

namespace Store

variable {s s' : Store} {reply : Reply}

/-- The cursor that a cursor command places. -/
def resolvedCursor (s : Store) (name target : String) (start : Destination) (ahead : Bool)
    (stop : Destination) : Cursor :=
  { name, target := (s.lookup target).head?.map Text.name, start, ahead, stop }

theorem obey_input_some (name data : String) :
    s.obey (.input name (some data)) = .ok (.done, s.addText (enteredText name data)) := rfl

theorem obey_input_none (name : String) :
    s.obey (.input name none) = .ok (.wantsArea name ((s.lookup name).head?.map Text.data), s) := rfl

theorem obey_format (name : String) (separators : Option (List String)) :
    s.obey (.format name separators) = (s.format name separators).map (.done, ·) := by
  show (Except.map _ _ >>= _) = _
  cases s.format name separators <;> rfl

theorem obey_cursor (name target : String) (start : Destination) (ahead : Bool) (stop : Destination) :
    s.obey (.cursor name target start ahead stop)
      = (s.addCursor (s.resolvedCursor name target start ahead stop)).map (.done, ·) := by
  unfold resolvedCursor
  show (Except.map _ _ >>= _) = _
  cases s.addCursor _ <;> rfl

theorem obey_send (source target : String) :
    s.obey (.send source target) = (s.sendText source target).map (.done, ·) := by
  show (Except.map _ _ >>= _) = _
  cases s.sendText source target <;> rfl

theorem obey_print (reference : Option String) :
    s.obey (.print reference) = (s.print reference).map (.listing ·, s) := by
  show (Except.map _ _ >>= _) = _
  cases s.print reference <;> rfl

/-- What a command that is carried out comes to: it is done, or it is a print command that has texts
to print, or an input command that wants an area; the latter two leave the store as it is. -/
theorem obey_cases {c : Command} (hs : s.obey c = .ok (reply, s')) :
    (reply = .done ∧ (∀ reference, c ≠ .print reference) ∧ ∀ name, c ≠ .input name none)
      ∨ (∃ reference texts, c = .print reference ∧ s.print reference = .ok texts
        ∧ reply = .listing texts ∧ s' = s)
      ∨ ∃ name, c = .input name none
        ∧ reply = .wantsArea name ((s.lookup name).head?.map Text.data) ∧ s' = s := by
  cases c with
  | input name data =>
    cases data with
    | none =>
      rw [obey_input_none] at hs
      cases hs
      exact Or.inr (Or.inr ⟨name, rfl, rfl, rfl⟩)
    | some data =>
      rw [obey_input_some] at hs
      cases hs
      exact Or.inl ⟨rfl, nofun, nofun⟩
  | format name separators =>
    rw [obey_format] at hs
    rcases exists_of_map_eq_ok hs with ⟨s'', -, heq⟩
    cases heq
    exact Or.inl ⟨rfl, nofun, nofun⟩
  | cursor name target start ahead stop =>
    rw [obey_cursor] at hs
    rcases exists_of_map_eq_ok hs with ⟨s'', -, heq⟩
    cases heq
    exact Or.inl ⟨rfl, nofun, nofun⟩
  | send source target =>
    rw [obey_send] at hs
    rcases exists_of_map_eq_ok hs with ⟨s'', -, heq⟩
    cases heq
    exact Or.inl ⟨rfl, nofun, nofun⟩
  | print reference =>
    rw [obey_print] at hs
    rcases exists_of_map_eq_ok hs with ⟨texts, htexts, heq⟩
    cases heq
    exact Or.inr (Or.inl ⟨reference, texts, rfl, htexts, rfl, rfl⟩)

/-- Only an input command wants an area, for the text that it names. -/
theorem obey_eq_wantsArea {c : Command} {name : String} {existing : Option String}
    (hs : s.obey c = .ok (.wantsArea name existing, s')) :
    c = .input name none ∧ s' = s ∧ existing = (s.lookup name).head?.map Text.data := by
  rcases obey_cases hs with ⟨hdone, -, -⟩ | ⟨reference, texts, -, -, hlisting, -⟩ | ⟨n, hc, hwants, hsame⟩
  · cases hdone
  · cases hlisting
  · cases hwants
    exact ⟨hc, hsame, rfl⟩

/-- A command that has texts to print leaves the store as it is. -/
theorem obey_eq_listing {c : Command} {texts : List Text}
    (hs : s.obey c = .ok (.listing texts, s')) : s' = s := by
  rcases obey_cases hs with ⟨hdone, -, -⟩ | ⟨reference, found, -, -, -, hsame⟩ | ⟨name, -, hwants, -⟩
  · cases hdone
  · exact hsame
  · cases hwants

end Store

/-! ## Reading a line -/

namespace Instruction

variable {line : String} {c : Command}

/-- A line is obeyed if it is not blank, does not end the session, and gives a command. -/
theorem ofLine_eq_obey_iff :
    ofLine line = .obey c ↔ isBlankLine line = false ∧ CommandSet.standard.isQuit line = false
      ∧ CommandSet.standard.command? line = some c := by
  constructor
  · intro h
    unfold ofLine at h
    split at h
    · cases h
    next hblank =>
    split at h
    · cases h
    next hquit =>
    rw [Bool.not_eq_true] at hblank hquit
    refine ⟨hblank, hquit, ?_⟩
    unfold CommandSet.read at h
    cases hcommand : CommandSet.standard.command? line with
    | none =>
      rw [hcommand] at h
      cases h
    | some command =>
      rw [hcommand] at h
      rw [Instruction.obey.inj h]
  · rintro ⟨hblank, hquit, hcommand⟩
    simp [ofLine, hblank, hquit, CommandSet.read, hcommand]

/-- A line that is not blank, does not end the session and gives no command is rejected. -/
theorem ofLine_eq_reject (hblank : isBlankLine line = false)
    (hquit : CommandSet.standard.isQuit line = false)
    (hcommand : CommandSet.standard.command? line = none) :
    ∃ failure, ofLine line = .reject failure := by
  simp [ofLine, hblank, hquit, CommandSet.read, hcommand]

end Instruction

/-! ## Lines on a bench -/

section

variable {α ω : Type} (bench : Bench α ω)

/-- What a bench becomes by a step on its store: if the step fails, the bench stays. -/
def Bench.after {β : Type} : Except Failure (β × Store) → Except Failure β × Bench α ω
  | .ok (b, store) => (.ok b, { bench with store })
  | .error failure => (.error failure, bench)

namespace Session

/-- What comes next gets the store of the bench. -/
theorem run_getStore_bind {β : Type} (next : Store → Session α ω β) :
    (getStore >>= next).run.run bench = (next bench.store).run.run bench := rfl

/-- Asking for a text changes nothing, be it there or not. -/
theorem run_demand (name : String) :
    (demand name : Session α ω Text).run.run bench
      = match bench.store.get? name with
        | some text => (.ok text, bench)
        | none => (.error (.textNotFound name), bench) := by
  unfold demand
  rw [run_getStore_bind]
  cases bench.store.get? name <;> rfl

/-- Breaking a text into lines changes the bench as the store tells; if it fails, the bench stays. -/
theorem run_format (name : String) (separators : Option (List String)) :
    (format name separators : Session α ω Unit).run.run bench
      = bench.after ((bench.store.format name separators).map ((), ·)) := by
  unfold format Store.format
  rw [ExceptT.run_bind, StateT.run_bind, run_demand]
  cases bench.store.get? name <;> rfl

/-- Placing a cursor changes the bench as the store tells; if it fails, the bench stays. -/
theorem run_addCursor (cursor : Cursor) :
    (addCursor cursor : Session α ω Unit).run.run bench
      = bench.after ((bench.store.addCursor cursor).map ((), ·)) := by
  unfold addCursor Store.addCursor
  cases cursor.target with
  | none => rfl
  | some target =>
    dsimp only
    rw [ExceptT.run_bind, StateT.run_bind, run_demand]
    cases bench.store.get? target <;> rfl

/-- Sending a text changes the bench as the store tells; if it fails, the bench stays. -/
theorem run_sendText (source target : String) :
    (sendText source target : Session α ω Unit).run.run bench
      = bench.after ((bench.store.sendText source target).map ((), ·)) := by
  unfold sendText Store.sendText
  rw [ExceptT.run_bind, StateT.run_bind, run_demand]
  cases bench.store.get? source with
  | none => rfl
  | some sender =>
    dsimp only
    show (getStore >>= _).run.run bench = _
    rw [run_getStore_bind]
    cases bench.store.get? target <;> rfl

/-- Finding the texts to print changes nothing, be there any or not. -/
theorem run_print (reference? : Option String) :
    (print reference? : Session α ω (List Text)).run.run bench
      = bench.after ((bench.store.print reference?).map (·, bench.store)) := by
  cases reference? with
  | none => rfl
  | some reference =>
    unfold print Store.print
    rw [run_getStore_bind]
    dsimp only
    cases bench.store.lookup reference <;> rfl

/-- A step whose outcome makes the reply leaves the bench as the step does. -/
theorem run_bind_reply {β : Type} {step : Session α ω β} {outcome : Except Failure (β × Store)}
    (hstep : step.run.run bench = bench.after outcome) (reply : β → Reply) :
    (step >>= fun b => pure (reply b)).run.run bench
      = bench.after (outcome.map fun (b, store) => (reply b, store)) := by
  rw [ExceptT.run_bind, StateT.run_bind, hstep]
  rcases outcome with failure | ⟨b, store⟩ <;> rfl

/-- A command is carried out on the store of a bench. -/
theorem run_perform (c : Command) :
    (c.perform : Session α ω Reply).run.run bench = bench.after (bench.store.obey c) := by
  cases c with
  | input name data =>
    cases data with
    | none => rfl
    | some data => rfl
  | format name separators =>
    rw [Store.obey_format]
    refine (run_bind_reply bench (run_format bench name separators) _).trans ?_
    cases bench.store.format name separators <;> rfl
  | cursor name target start ahead stop =>
    -- looking up the target leaves the store as it is
    have hlookup : (MonadTexts.lookup target : Session α ω (List Text)).run.run bench
        = (.ok (bench.store.lookup target), bench) := rfl
    have hplace := run_bind_reply bench
      (run_addCursor bench (bench.store.resolvedCursor name target start ahead stop)) fun _ => .done
    rw [Store.obey_cursor, Command.perform, ExceptT.run_bind, StateT.run_bind, hlookup]
    refine hplace.trans ?_
    cases bench.store.addCursor _ <;> rfl
  | send source target =>
    rw [Store.obey_send]
    refine (run_bind_reply bench (run_sendText bench source target) _).trans ?_
    cases bench.store.sendText source target <;> rfl
  | print reference =>
    rw [Store.obey_print]
    refine (run_bind_reply bench (run_print bench reference) _).trans ?_
    cases bench.store.print reference <;> rfl

end Session

variable [AreaSource α] [Outlet ω]

/-- A command is carried out on the store of a bench, and its reply is settled on the bench that this
leaves. -/
theorem Session.run_command (c : Command) :
    (c.run : Session α ω Unit).run.run bench
      = match bench.store.obey c with
        | .error failure => (.error failure, bench)
        | .ok (reply, store) => (reply.settle : Session α ω Unit).run.run { bench with store } := by
  unfold Command.run
  rw [ExceptT.run_bind, StateT.run_bind, run_perform]
  cases bench.store.obey c <;> rfl

/-- Printing leaves a bench with the outlet that the write leaves. -/
theorem Session.run_settle_listing (texts : List Text) :
    ((Reply.listing texts).settle : Session α ω Unit).run.run bench
      = match Outlet.write (Listing.render texts) bench.out with
        | (.ok (), out) => (.ok (), { bench with out })
        | (.error reason, out) => (.error (.io reason), { bench with out }) := by
  have h : ((Reply.listing texts).settle : Session α ω Unit).run.run bench
      = ((Outlet.write (Listing.render texts) bench.out).1.mapError Failure.io,
        { bench with out := (Outlet.write (Listing.render texts) bench.out).2 }) := rfl
  rw [h]
  rcases Outlet.write (Listing.render texts) bench.out with ⟨_ | _, out⟩ <;> rfl

/-- An area leaves a bench with the text that was entered, if there is an answer. -/
theorem Session.run_settle_wantsArea (name : String) (existing : Option String) :
    ((Reply.wantsArea name existing).settle : Session α ω Unit).run.run bench
      = match AreaSource.readArea name existing bench.areas with
        | (.ok data, areas) =>
          (.ok (), { bench with store := bench.store.addText (enteredText name data), areas })
        | (.error failure, areas) => (.error failure, { bench with areas }) := by
  have h : (askAreas name existing : Session α ω String).run.run bench
      = ((AreaSource.readArea name existing bench.areas).1,
        { bench with areas := (AreaSource.readArea name existing bench.areas).2 }) := rfl
  show (askAreas name existing >>= fun data => MonadTexts.addText (enteredText name data) :
    Session α ω Unit).run.run bench = _
  rw [ExceptT.run_bind, StateT.run_bind, h]
  rcases AreaSource.readArea name existing bench.areas with ⟨_ | _, areas⟩ <;> rfl

/-- What executing a line does to a bench. -/
theorem Bench.execute_eq (line : String) :
    bench.execute line = match Instruction.ofLine line with
      | .nothing => (.ok true, bench)
      | .quit => (.ok false, bench)
      | .reject failure => (.error failure, bench)
      | .obey c =>
        match bench.store.obey c with
        | .error failure => (.error failure, bench)
        | .ok (.done, store) => (.ok true, { bench with store })
        | .ok (.listing texts, store) =>
          match Outlet.write (Listing.render texts) bench.out with
          | (.ok (), out) => (.ok true, { bench with store, out })
          | (.error reason, out) => (.error (.io reason), { bench with store, out })
        | .ok (.wantsArea name existing, store) =>
          match AreaSource.readArea name existing bench.areas with
          | (.ok data, areas) =>
            (.ok true, { bench with store := store.addText (enteredText name data), areas })
          | (.error failure, areas) => (.error failure, { bench with store, areas }) := by
  unfold Bench.execute TextDesk.execute
  cases Instruction.ofLine line with
  | nothing => rfl
  | quit => rfl
  | reject failure => rfl
  | obey c =>
    -- first the command on the store, then its reply on the bench that this leaves
    unfold Command.run
    simp only [bind_assoc]
    rw [ExceptT.run_bind, StateT.run_bind, Session.run_perform]
    cases bench.store.obey c with
    | error failure => rfl
    | ok result =>
      rcases result with ⟨reply, store⟩
      cases reply with
      | done => rfl
      | listing texts =>
        show ((Reply.listing texts).settle >>= fun _ => pure true : Session α ω Bool).run.run
          { bench with store } = _
        rw [ExceptT.run_bind, StateT.run_bind, Session.run_settle_listing]
        dsimp only
        rcases Outlet.write (Listing.render texts) bench.out with ⟨_ | _, out⟩ <;> rfl
      | wantsArea name existing =>
        show ((Reply.wantsArea name existing).settle >>= fun _ => pure true : Session α ω Bool).run.run
          { bench with store } = _
        rw [ExceptT.run_bind, StateT.run_bind, Session.run_settle_wantsArea]
        dsimp only
        rcases AreaSource.readArea name existing bench.areas with ⟨_ | _, areas⟩ <;> rfl

variable {bench} {line : String} {after : Bench α ω} {failure : Failure}

/-- A line that wants an area enters the data that the area source answers, or fails as it does. -/
theorem Bench.execute_of_wantsArea {name : String}
    (hline : Instruction.ofLine line = .obey (.input name none)) :
    bench.execute line
      = match AreaSource.readArea name ((bench.store.lookup name).head?.map Text.data) bench.areas with
        | (.ok data, areas) =>
          (.ok true, { bench with store := bench.store.addText (enteredText name data), areas })
        | (.error failure, areas) => (.error failure, { bench with areas }) := by
  have hexecute := execute_eq bench line
  rw [hline] at hexecute
  simp only [Store.obey_input_none] at hexecute
  exact hexecute

/-! ## Lines that change nothing -/

/-- A failing line leaves the store as it was, and the outlet too unless the outlet refused a text. -/
theorem Bench.eq_of_execute_eq_error (h : bench.execute line = (.error failure, after)) :
    after.store = bench.store
      ∧ (after.out = bench.out
        ∨ ∃ texts reason, Outlet.write (Listing.render texts) bench.out = (.error reason, after.out)
          ∧ failure = .io reason) := by
  rw [execute_eq] at h
  cases hline : Instruction.ofLine line with
  | nothing =>
    rw [hline] at h
    cases h
  | quit =>
    rw [hline] at h
    cases h
  | reject reason =>
    rw [hline] at h
    cases h
    exact ⟨rfl, Or.inl rfl⟩
  | obey c =>
    rw [hline] at h
    cases hobey : bench.store.obey c with
    | error reason =>
      simp only [hobey] at h
      cases h
      exact ⟨rfl, Or.inl rfl⟩
    | ok result =>
      rcases result with ⟨reply, store⟩
      cases reply with
      | done =>
        simp only [hobey] at h
        cases h
      | listing texts =>
        -- the store was only read, so all that can have changed is the outlet
        have hsame := Store.obey_eq_listing hobey
        rcases hwrite : Outlet.write (Listing.render texts) bench.out with ⟨_ | _, out⟩
        · next reason =>
          simp only [hobey, hwrite] at h
          cases h
          exact ⟨hsame, Or.inr ⟨texts, reason, hwrite, rfl⟩⟩
        · simp only [hobey, hwrite] at h
          cases h
      | wantsArea name existing =>
        have hsame := (Store.obey_eq_wantsArea hobey).2.1
        rcases harea : AreaSource.readArea name existing bench.areas with ⟨_ | _, areas⟩
        · simp only [hobey, harea] at h
          cases h
          exact ⟨hsame, Or.inl rfl⟩
        · simp only [hobey, harea] at h
          cases h

/-- A line that gives no command leaves the store as it was. -/
theorem Bench.store_execute_of_ne_obey (h : ∀ c, Instruction.ofLine line ≠ .obey c) :
    (bench.execute line).2.store = bench.store := by
  rw [execute_eq]
  cases hline : Instruction.ofLine line with
  | nothing => rfl
  | quit => rfl
  | reject failure => rfl
  | obey c => exact absurd hline (h c)

/-- A print command leaves the store as it was, whether or not its texts were printed. -/
theorem Bench.store_execute_of_print {reference : Option String}
    (h : CommandSet.standard.command? line = some (.print reference)) :
    (bench.execute line).2.store = bench.store := by
  by_cases hobeys : ∃ c, Instruction.ofLine line = .obey c
  · rcases hobeys with ⟨c, hline⟩
    have hc : c = .print reference := by
      have hcommand := (Instruction.ofLine_eq_obey_iff.1 hline).2.2
      rw [h] at hcommand
      exact (Option.some.inj hcommand).symm
    rw [execute_eq, hline, hc]
    dsimp only
    rw [Store.obey_print]
    cases bench.store.print reference with
    | error failure => rfl
    | ok texts =>
      dsimp only [Except.map]
      rcases Outlet.write (Listing.render texts) bench.out with ⟨_ | _, out⟩ <;> rfl
  · exact store_execute_of_ne_obey fun c hline => hobeys ⟨c, hline⟩

/-- Whatever the area source and the outlet do, a failing line leaves the store as it was and, unless it
is the outlet that failed, the outlet too; and blank lines, the line that ends the session and print
commands leave the store as it was, also if they succeed. -/
theorem Bench.execute_leaves_store (bench : Bench α ω) (line : String) :
    (∀ failure after, bench.execute line = (.error failure, after) →
        after.store = bench.store
          ∧ (after.out = bench.out
            ∨ ∃ texts reason,
              Outlet.write (Listing.render texts) bench.out = (.error reason, after.out)
                ∧ failure = .io reason))
      ∧ ((isBlankLine line = true ∨ CommandSet.standard.isQuit line = true
          ∨ ∃ reference, CommandSet.standard.command? line = some (.print reference)) →
        (bench.execute line).2.store = bench.store) := by
  refine ⟨fun failure after h => eq_of_execute_eq_error h, ?_⟩
  rintro (hblank | hquit | ⟨reference, hprint⟩)
  · apply store_execute_of_ne_obey
    intro c hline
    rw [(Instruction.ofLine_eq_obey_iff.1 hline).1] at hblank
    cases hblank
  · apply store_execute_of_ne_obey
    intro c hline
    rw [(Instruction.ofLine_eq_obey_iff.1 hline).2.1] at hquit
    cases hquit
  · exact store_execute_of_print hprint

/-- A print command that meets a full outlet fails and leaves the texts. -/
theorem Bench.execute_print_to_full_outlet :
    ∃ (_ : AreaSource Unit) (_ : Outlet Nat) (bench after : Bench Unit Nat),
      bench.execute "print" = (.error (.io "full"), after) ∧ after.out ≠ bench.out
        ∧ after.store = bench.store
        ∧ CommandSet.standard.command? "print" = some (.print none)
        ∧ (bench.execute "print").2.store = bench.store := by
  let areas : AreaSource Unit := ⟨fun _ _ _ => (.error (.internal "no area"), ())⟩
  let counting : Outlet Nat := ⟨fun _ attempts => (.error "full", attempts + 1)⟩
  let bench : Bench Unit Nat := { store := ⟨[{ name := "notes", data := "one" }]⟩, areas := (), out := 0 }
  have hline : Instruction.ofLine "print" = .obey (.print none) := by decide +kernel
  have hprint := (Instruction.ofLine_eq_obey_iff.1 hline).2.2
  have h : bench.execute "print" = (.error (.io "full"), { bench with out := 1 }) := by
    rw [execute_eq, hline]
    rfl
  have hleaves := bench.execute_leaves_store "print"
  exact ⟨areas, counting, bench, _, h, by decide, (hleaves.1 _ _ h).1, hprint,
    hleaves.2 (Or.inr (Or.inr ⟨none, hprint⟩))⟩

end

end TextDesk
