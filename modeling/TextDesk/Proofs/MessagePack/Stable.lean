import TextDesk.Proofs.MessagePack.Record

/-! # Readers do not look ahead

What a reader makes of some bytes it also makes of them with more bytes behind, which it leaves.  Such
a reader never takes a cut-off value for a whole one: it would also take it from the front of the whole
value, and leave what was cut off.  Main statements: `Reads.error_of_cut`, and that records are read
in this way if their fields are.
-/

namespace TextDesk.MessagePack

/-- What is read from bytes is also read from them with more bytes behind, which are left. -/
def Stable {α : Type} (read : Reader α) : Prop :=
  ∀ bytes more a rest,
    read.run bytes = .ok (a, rest) → read.run (bytes ++ more) = .ok (a, rest ++ more)

variable {α β δ : Type}

/-- The first bytes of what is read are not read as a whole. -/
theorem Reads.error_of_cut {read : Reader α} {cut lost : Bytes} {a : α}
    (hreads : Reads read (cut ++ lost) a) (hstable : Stable read) (hlost : lost ≠ []) :
    ∃ e, read.run cut = .error e := by
  cases hcut : read.run cut with
  | error e => exact ⟨e, rfl⟩
  | ok result =>
    rcases result with ⟨b, rest⟩
    -- the bytes that are cut off would be left of the whole, of which nothing is left
    have hwhole := hreads []
    rw [List.append_nil, hstable cut lost b rest hcut] at hwhole
    have hleft : rest ++ lost = [] := (Prod.mk.inj (Except.ok.inj hwhole)).2
    exact absurd (List.append_eq_nil_iff.1 hleft).2 hlost

namespace Stable

theorem pure (a : α) : Stable (Pure.pure a : Reader α) := by
  intro bytes more b rest h
  cases h
  rfl

theorem throw (e : ReadError) : Stable (throw e : Reader α) := by
  intro bytes more a rest h
  cases h

theorem bind {read : Reader α} {next : α → Reader β} (hread : Stable read)
    (hnext : ∀ a, Stable (next a)) : Stable (read >>= next) := by
  intro bytes more b rest h
  rw [StateT.run_bind] at h ⊢
  cases hfront : read.run bytes with
  | error e =>
    rw [hfront] at h
    cases h
  | ok result =>
    rcases result with ⟨a, middle⟩
    rw [hfront] at h
    rw [hread bytes more a middle hfront]
    exact hnext a middle more b rest h

theorem map {read : Reader α} (h : Stable read) (f : α → β) : Stable (f <$> read) := by
  rw [map_eq_pure_bind]
  exact h.bind fun a => pure (f a)

end Stable

/-! ## Bytes and heads -/

theorem splitBytes?_append_of_eq_some {n : Nat} {bytes taken rest : Bytes} (more : Bytes)
    (h : splitBytes? n bytes = some (taken, rest)) :
    splitBytes? n (bytes ++ more) = some (taken, rest ++ more) := by
  induction n generalizing bytes taken with
  | zero =>
    cases h
    rfl
  | succ n ih =>
    cases bytes with
    | nil => cases h
    | cons b bytes =>
      rcases Option.map_eq_some_iff.1 h with ⟨⟨front, back⟩, hsplit, heq⟩
      cases heq
      rw [List.cons_append, splitBytes?, ih hsplit]
      rfl

theorem stable_takeBytes (n : Nat) : Stable (takeBytes n) := by
  intro bytes more taken rest h
  unfold takeBytes at h ⊢
  simp only [StateT.run] at h ⊢
  cases hsplit : splitBytes? n bytes with
  | none =>
    rw [hsplit] at h
    cases h
  | some parts =>
    rw [hsplit] at h
    cases h
    rw [splitBytes?_append_of_eq_some more hsplit]

theorem stable_takeMarker : Stable takeMarker := by
  intro bytes more marker rest h
  cases bytes with
  | nil => cases h
  | cons b bytes =>
    cases h
    rfl

namespace Head

theorem stable_sized (width : Nat) (make : Nat → Head) : Stable (sized width make) :=
  (stable_takeBytes width).bind fun bytes => .pure (make (bigEndian bytes))

theorem stable_ofMarker (marker : Nat) : Stable (ofMarker marker) := by
  unfold ofMarker
  -- a marker is the whole head, has a size behind it, or is reserved
  split
  all_goals first
    | exact .pure _
    | exact stable_sized _ _
    | exact .throw _

theorem stable_read : Stable read := by
  rw [read_eq]
  refine stable_takeMarker.bind fun marker => ?_
  unfold ofFirst
  split
  · exact .pure _
  split
  · exact .pure _
  split
  · exact .pure _
  split
  · exact .pure _
  split
  · exact stable_ofMarker _
  · exact .pure _

end Head

/-! ## Values -/

theorem stable_readString : Stable readString := by
  refine Head.stable_read.bind fun head => ?_
  split
  case h_3 => exact .throw _
  -- behind the head of either form stand the bytes, which are UTF-8 or refused
  all_goals
    refine (stable_takeBytes _).bind fun bytes => ?_
    split
    · exact .pure _
    · exact .throw _

theorem stable_readPosition : Stable readPosition := by
  refine Head.stable_read.bind fun head => ?_
  split
  · exact .pure _
  · split
    · exact .throw _
    · exact .pure _
  · exact .throw _

theorem stable_readBool : Stable readBool := by
  refine Head.stable_read.bind fun head => ?_
  split
  · exact .pure _
  · exact .throw _

theorem stable_readMany {read : Reader α} (h : Stable read) (n : Nat) : Stable (readMany read n) := by
  induction n with
  | zero => exact .pure _
  | succ n ih => exact h.bind fun a => ih.bind fun as => .pure (a :: as)

theorem stable_readList {read : Reader α} (h : Stable read) : Stable (readList read) := by
  refine Head.stable_read.bind fun head => ?_
  split
  · exact stable_readMany h _
  · exact .pure _
  · exact .throw _

/-- An optional value is decided by its first byte, so its reader must not do without one. -/
theorem stable_readOption {read : Reader α} (h : Stable read)
    (hnil : ∃ e, read.run [] = .error e) : Stable (readOption read) := by
  intro bytes more a? rest hread
  have hsome := h.map some
  cases bytes with
  | nil =>
    rcases hnil with ⟨e, he⟩
    have hnone : (readOption read).run [] = .error e := by
      show (some <$> read).run [] = _
      rw [StateT.run_map, he]
      rfl
    rw [hnone] at hread
    cases hread
  | cons b bytes =>
    by_cases hb : b = 0xc0
    · subst hb
      cases hread
      rfl
    · rw [run_readOption_cons hb] at hread
      rw [List.cons_append, run_readOption_cons hb]
      exact hsome (b :: bytes) more a? rest hread

theorem stable_times {step : Reader Unit} (h : Stable step) (n : Nat) : Stable (times step n) := by
  induction n with
  | zero => exact .pure _
  | succ n ih => exact h.bind fun _ => ih

theorem stable_skip (depth : Nat) : Stable (skip depth) := by
  induction depth with
  | zero => exact .throw _
  | succ depth ih =>
    have htake (size : Nat) : Stable (do let _ ← takeBytes size : Reader Unit) :=
      (stable_takeBytes size).bind fun _ => .pure ()
    refine Head.stable_read.bind fun head => ?_
    cases head with
    | nil => exact .pure _
    | bool b => exact .pure _
    | natural n => exact .pure _
    | integer n => exact .pure _
    | float size => exact htake size
    | str size => exact htake size
    | bin size => exact htake size
    | ext size =>
      dsimp only
      split
      · exact .throw _
      · exact htake size
    | array size =>
      dsimp only
      split
      · exact .throw _
      · exact stable_times ih _
    | map size =>
      dsimp only
      split
      · exact .throw _
      · exact stable_times ih _

/-! ## Records -/

theorem stable_fillSlot (slot : Option α) {read : Reader α} (h : Stable read) :
    Stable (fillSlot slot read) := by
  unfold fillSlot
  split
  · exact .throw _
  · exact h.map some

theorem stable_readKey (names : List String) : Stable (readKey names) := by
  refine Head.stable_read.bind fun head => ?_
  split
  · exact (stable_takeBytes _).bind fun bytes => .pure _
  · exact (stable_takeBytes _).bind fun bytes => .pure _
  · exact .pure _
  · exact .throw _

namespace RecordForm

variable {form : RecordForm δ α}

theorem stable_readEntries (hfields : ∀ i draft, Stable (form.readField i draft)) (depth n : Nat)
    (draft : δ) : Stable (form.readEntries depth n draft) := by
  induction n generalizing draft with
  | zero => exact .pure draft
  | succ n ih =>
    refine (stable_readKey form.names).bind fun i? => ?_
    cases i? with
    | none => exact (stable_skip depth).bind fun _ => ih draft
    | some i => exact (hfields i draft).bind fun filled => ih filled

theorem stable_readItems (hfields : ∀ i draft, Stable (form.readField i draft)) (i n : Nat)
    (draft : δ) : Stable (form.readItems i n draft) := by
  induction n generalizing i draft with
  | zero => exact .pure draft
  | succ n ih => exact (hfields i draft).bind fun filled => ih (i + 1) filled

theorem stable_finish (form : RecordForm δ α) (draft : δ) : Stable (form.finish draft) := by
  unfold finish
  split
  · exact .pure _
  · exact .throw _

/-- A record is read without looking ahead if its fields are. -/
theorem stable_read (hfields : ∀ i draft, Stable (form.readField i draft)) (depth : Nat) :
    Stable (form.read depth) := by
  refine Head.stable_read.bind fun head => ?_
  split
  · exact (stable_readEntries hfields depth _ _).bind fun draft => stable_finish form draft
  · split
    · exact (stable_readItems hfields 0 _ _).bind fun draft => stable_finish form draft
    · exact .throw _
  · exact .throw _

end RecordForm

end TextDesk.MessagePack
