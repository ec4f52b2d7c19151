import TextDesk.Proofs.Session
import TextDesk.Proofs.Store

/-! # Where a cursor goes

The target of a cursor command is looked up twice: first as a reference, which may be a pattern and compares
letters under full folding, and then by the exact name of the first text that was found.  Main statement: in
a store of different names both searches come to the same text, which alone is changed, and only its cursors
are; and a cursor command fails exactly if its target addresses no text.
-/

namespace TextDesk

namespace Store

variable {s : Store} {t : Text} {reference : String}

/-- The text that a reference addresses first has none in front of it that the reference addresses. -/
theorem exists_texts_eq_of_head?_lookup (h : (s.lookup reference).head? = some t) :
    ∃ before behind, s.texts = before ++ t :: behind ∧ ∀ u ∈ before, u ∉ s.lookup reference := by
  unfold lookup at h ⊢
  split at h
  · next hpattern =>
    rw [if_pos hpattern]
    rw [List.head?_filter] at h
    rcases List.find?_eq_some_iff_append.1 h with ⟨-, before, behind, htexts, hbefore⟩
    refine ⟨before, behind, htexts, ?_⟩
    intro u hu hmem
    have hnot := hbefore u hu
    rw [(List.mem_filter.1 hmem).2] at hnot
    cases hnot
  · next hpattern =>
    rw [if_neg hpattern]
    rw [Option.head?_toList] at h
    rcases List.find?_eq_some_iff_append.1 h with ⟨hname, before, behind, htexts, hbefore⟩
    refine ⟨before, behind, htexts, ?_⟩
    intro u hu hmem
    -- the only text that an exact name addresses is the one that was found
    rw [h, Option.toList_some, List.mem_singleton] at hmem
    have hnot := hbefore u hu
    rw [hmem, hname] at hnot
    cases hnot

variable {name : String} {start stop : Destination} {ahead : Bool}

/-- Where a reference addresses no text, no cursor is placed. -/
theorem obey_cursor_of_head?_eq_none (h : (s.lookup reference).head? = none) :
    s.obey (.cursor name reference start ahead stop)
      = .error (.textNotFound ("target of cursor " ++ name)) := by
  rw [obey_cursor, resolvedCursor, h]
  rfl

/-- A cursor is placed in the text that the reference addresses first. -/
theorem Distinct.obey_cursor_of_head?_eq_some {before behind : List Text}
    (hdistinct : Distinct ⟨before ++ t :: behind⟩)
    (h : ((⟨before ++ t :: behind⟩ : Store).lookup reference).head? = some t) :
    (⟨before ++ t :: behind⟩ : Store).obey (.cursor name reference start ahead stop)
      = .ok (.done, ⟨before
          ++ placeCursor { name, target := some t.name, start, ahead, stop } t :: behind⟩) := by
  -- the exact name of the text that was found leads to that text again
  have ht : t ∈ (⟨before ++ t :: behind⟩ : Store).texts := List.mem_append_right _ List.mem_cons_self
  have hget : (⟨before ++ t :: behind⟩ : Store).get? t.name = some t :=
    hdistinct.get?_eq_some_iff.2 ⟨ht, sameName_refl t.name⟩
  rw [obey_cursor, resolvedCursor, h, Option.map_some, addCursor]
  dsimp only
  rw [hget, hdistinct.modify_append_cons]
  rfl

end Store

namespace Session

variable {α ω : Type} [AreaSource α] [Outlet ω]

/-- In a store of different names, a cursor command fails, and leaves everything as it is, exactly if its
target addresses no text.  Otherwise it changes the first text that the target addresses, and nothing else:
the cursors of the same name in that text go, all others keep their order, and the new one is last and names
the text as the text is spelled. -/
theorem run_cursor_changes_first_addressed {bench : Bench α ω} (h : bench.store.Distinct)
    (name target : String) (start : Destination) (ahead : Bool) (stop : Destination) :
    ((∃ text, ((Command.cursor name target start ahead stop).run : Session α ω Unit).run.run bench
          = (.error (.textNotFound text), bench))
        ↔ bench.store.lookup target = [])
      ∧ ∀ t, (bench.store.lookup target).head? = some t →
        ∃ before behind, bench.store.texts = before ++ t :: behind
          ∧ (∀ u ∈ before, u ∉ bench.store.lookup target)
          ∧ ((Command.cursor name target start ahead stop).run : Session α ω Unit).run.run bench
            = (.ok (), { bench with store := ⟨before
                ++ { t with cursors := t.cursors.filter (·.name != name)
                      ++ [{ name, target := some t.name, start, ahead, stop }] } :: behind⟩ }) := by
  have hplaced : ∀ t, (bench.store.lookup target).head? = some t →
      ∃ before behind, bench.store.texts = before ++ t :: behind
        ∧ (∀ u ∈ before, u ∉ bench.store.lookup target)
        ∧ ((Command.cursor name target start ahead stop).run : Session α ω Unit).run.run bench
          = (.ok (), { bench with store := ⟨before
              ++ { t with cursors := t.cursors.filter (·.name != name)
                    ++ [{ name, target := some t.name, start, ahead, stop }] } :: behind⟩ }) := by
    intro t ht
    rcases Store.exists_texts_eq_of_head?_lookup ht with ⟨before, behind, htexts, hbefore⟩
    refine ⟨before, behind, htexts, hbefore, ?_⟩
    have hstore : bench.store = ⟨before ++ t :: behind⟩ := by
      rw [← htexts]
    rw [hstore] at h ht
    rw [run_command, hstore, h.obey_cursor_of_head?_eq_some ht]
    rfl
  refine ⟨?_, hplaced⟩
  constructor
  · rintro ⟨text, hfailed⟩
    by_contra hfound
    rcases List.exists_cons_of_ne_nil hfound with ⟨t, others, hlookup⟩
    rcases hplaced t (by rw [hlookup]; rfl) with ⟨before, behind, -, -, hrun⟩
    rw [hrun] at hfailed
    cases hfailed
  · intro hnone
    refine ⟨"target of cursor " ++ name, ?_⟩
    rw [run_command, Store.obey_cursor_of_head?_eq_none (by rw [hnone]; rfl)]

/-- A pattern addresses a text by the full folding of its long s; the cursor of the same name goes there, and
stays in the later text that the pattern addresses too. -/
theorem run_cursor_changes_first_addressed_of_long_s :
    ∃ (_ : AreaSource Unit) (bench : Bench Unit String) (old older later : Cursor),
      bench.store = ⟨[{ name := "Log", data := "one", cursors := [old] },
          { name := "ſketch", data := "two", cursors := [old, older] },
          { name := "Sums", data := "three", cursors := [later, old] }]⟩
        ∧ bench.store.Distinct
        ∧ ((Command.cursor "here" "S*" old.stop false old.start).run : Session Unit String Unit).run.run bench
          = (.ok (), { bench with store := ⟨[{ name := "Log", data := "one", cursors := [old] },
              { name := "ſketch", data := "two", cursors := [older,
                { name := "here", target := some "ſketch", start := old.stop, ahead := false
                  stop := old.start }] },
              { name := "Sums", data := "three", cursors := [later, old] }]⟩ })
        ∧ ∃ text, ((Command.cursor "here" "T*" old.stop false old.start).run
            : Session Unit String Unit).run.run bench = (.error (.textNotFound text), bench) := by
  let areas : AreaSource Unit := ⟨fun _ _ _ => (.error (.internal "no area"), ())⟩
  let old : Cursor :=
    { name := "here", start := { position := some 0 }, ahead := true, stop := { word := some "end" } }
  let older : Cursor := { old with name := "HERE" }
  let later : Cursor := { old with name := "there" }
  let log : Text := { name := "Log", data := "one", cursors := [old] }
  let sketch : Text := { name := "ſketch", data := "two", cursors := [old, older] }
  let sums : Text := { name := "Sums", data := "three", cursors := [later, old] }
  let bench : Bench Unit String := { store := ⟨[log, sketch, sums]⟩, areas := (), out := "" }
  have hdistinct : bench.store.Distinct := by
    unfold Store.Distinct
    decide
  have hlookup : bench.store.lookup "S*" = [sketch, sums] := by decide +kernel
  have hnone : bench.store.lookup "T*" = [] := by decide +kernel
  refine ⟨areas, bench, old, older, later, rfl, hdistinct, ?_, ?_⟩
  · rcases (run_cursor_changes_first_addressed hdistinct "here" "S*" old.stop false old.start).2 sketch
      (by rw [hlookup]; rfl) with ⟨before, behind, htexts, -, hrun⟩
    have hone : before = [log] ∧ behind = [sums] := by
      rcases before with _ | ⟨first, _ | ⟨second, before⟩⟩
      · exact absurd (List.cons.inj htexts).1 (by decide)
      · rcases List.cons.inj htexts with ⟨rfl, hrest⟩
        exact ⟨rfl, (List.cons.inj hrest).2.symm⟩
      · have hrest := (List.cons.inj (List.cons.inj htexts).2).2
        have hmem : sketch ∈ [sums] := hrest ▸ List.mem_append_right _ List.mem_cons_self
        exact absurd hmem (by decide)
    rcases hone with ⟨rfl, rfl⟩
    exact hrun
  · exact (run_cursor_changes_first_addressed hdistinct "here" "T*" old.stop false old.start).1.2 hnone

end Session

end TextDesk
