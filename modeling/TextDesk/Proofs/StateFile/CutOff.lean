import TextDesk.Proofs.MessagePack.Stable
import TextDesk.Proofs.StateFile

/-! # Cut-off and longer state files

A state file of which the end is lost holds no store, wherever it is cut: fields that may be missing and
nil for a missing value do not make up for the loss, as the heads in front announce what is to come.
Bytes behind a state file do not matter.
-/

namespace TextDesk.StateFile

open MessagePack

/-! ## Records of a state file -/

/-- Where there is no byte, there is no optional string. -/
theorem stable_readOption_string : Stable (readOption readString) :=
  stable_readOption stable_readString ⟨.noMarker, rfl⟩

theorem stable_readDestination : Stable readDestination := by
  refine RecordForm.stable_read ?_ _
  intro i draft
  unfold destinationForm
  dsimp only
  split
  · refine (stable_fillSlot _ ?_).bind fun position => .pure _
    exact stable_readOption stable_readPosition ⟨.noMarker, rfl⟩
  · exact (stable_fillSlot _ stable_readOption_string).bind fun word => .pure _

theorem stable_readCursor : Stable readCursor := by
  refine RecordForm.stable_read ?_ _
  intro i draft
  unfold cursorForm
  dsimp only
  split
  · exact (stable_fillSlot _ stable_readString).bind fun name => .pure _
  · exact (stable_fillSlot _ stable_readOption_string).bind fun target => .pure _
  · exact (stable_fillSlot _ stable_readDestination).bind fun start => .pure _
  · exact (stable_fillSlot _ stable_readBool).bind fun ahead => .pure _
  · exact (stable_fillSlot _ stable_readDestination).bind fun stop => .pure _

theorem stable_readText : Stable readText := by
  refine RecordForm.stable_read ?_ _
  intro i draft
  unfold textForm
  dsimp only
  split
  · exact (stable_fillSlot _ stable_readString).bind fun name => .pure _
  · exact (stable_fillSlot _ stable_readString).bind fun data => .pure _
  · exact (stable_fillSlot _ (stable_readList stable_readCursor)).bind fun cursors => .pure _

theorem stable_readStore : Stable readStore := by
  refine RecordForm.stable_read ?_ _
  intro i draft
  exact stable_fillSlot _ (stable_readList stable_readText)

/-! ## State files -/

/-- What a state file holds is what the reader finds at its front. -/
theorem decode_eq_ok_iff {bytes : Bytes} {s : Store} :
    decode bytes = .ok s ↔ ∃ rest, readStore.run bytes = .ok (s, rest) := by
  unfold decode
  cases readStore.run bytes with
  | error e => simp [Except.map]
  | ok result => simp [Except.map, Prod.ext_iff, eq_comm]

/-- A state file without its end holds no store, and bytes behind a state file do not change the store
that it holds. -/
theorem decode_of_cut_off_and_of_followed :
    (∀ s : Store, s.Storable → ∀ cut, cut <+: encode s → cut ≠ encode s →
        ∃ e, decode cut = .error e)
      ∧ ∀ bytes s more, decode bytes = .ok s → decode (bytes ++ more) = .ok s := by
  constructor
  · rintro s hs cut ⟨lost, hwhole⟩ hproper
    have hlost : lost ≠ [] := by
      rintro rfl
      exact hproper (by rwa [List.append_nil] at hwhole)
    have hreads := reads_encode hs
    rw [← hwhole] at hreads
    rcases hreads.error_of_cut stable_readStore hlost with ⟨e, he⟩
    exact ⟨e, by rw [decode, he]; rfl⟩
  · intro bytes s more h
    rcases decode_eq_ok_iff.1 h with ⟨rest, hread⟩
    exact decode_eq_ok_iff.2 ⟨rest ++ more, stable_readStore bytes more s rest hread⟩

/-- A text that is cut off in front of its cursors, which may be missing, is refused; and the store of an
array of no texts stays the same with bytes behind it. -/
theorem decode_of_lost_cursors : ∃ (s : Store) (cut : Bytes), s.Storable ∧ cut <+: encode s
    ∧ encode s = cut ++ (writeString "cursors" ++ [0x90]) ∧ (∃ e, decode cut = .error e)
    ∧ decode [0x91, 0x90] = .ok {} ∧ decode ([0x91, 0x90] ++ [0xc1]) = .ok {} := by
  let s : Store := ⟨[{ name := "a", data := "b" }]⟩
  let cut := (encode s).take 23
  have hs : s.Storable := by decide +kernel
  have hcut : cut <+: encode s := List.take_prefix 23 (encode s)
  have hproper : cut ≠ encode s := by decide +kernel
  have hempty : decode [0x91, 0x90] = .ok {} := rfl
  exact ⟨s, cut, hs, hcut, by decide +kernel, decode_of_cut_off_and_of_followed.1 s hs cut hcut hproper,
    hempty, decode_of_cut_off_and_of_followed.2 _ _ [0xc1] hempty⟩

end TextDesk.StateFile
