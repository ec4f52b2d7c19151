import TextDesk.StateFile
import TextDesk.Proofs.MessagePack.Record

/-! # Layouts of a state file

A state file need not look as it is written: each of its records may be laid out in another way, with its
fields in another order or in an array, without what may be missing and with entries that no field takes,
and each value may stand in a longer form.  Main statement: a store is read in each of its layouts.
-/

namespace TextDesk.StateFile

open MessagePack

/-! ## Records -/

/-- How many arrays and maps may stand one in the other in a value that no field takes. -/
def maxNested : Nat := 1000

/-- The fields of one end of a cursor; either may be missing if it has no value. -/
def destinationFields (d : Destination) : List FieldLayout := [
  { name := "position", form := OptionForm PositionForm d.position, omissible := d.position = none },
  { name := "word", form := OptionForm StringForm d.word, omissible := d.word = none }]

/-- The bytes are a layout of one end of a cursor. -/
def DestinationLayout (d : Destination) : Bytes → Prop :=
  RecordLayout (destinationFields d) 2 maxNested

/-- The fields of a cursor; the target may be missing if there is none. -/
def cursorFields (c : Cursor) : List FieldLayout := [
  { name := "name", form := StringForm c.name },
  { name := "target", form := OptionForm StringForm c.target, omissible := c.target = none },
  { name := "from", form := DestinationLayout c.start },
  { name := "ahead", form := BoolForm c.ahead },
  { name := "to", form := DestinationLayout c.stop }]

/-- The bytes are a layout of a cursor. -/
def CursorLayout (c : Cursor) : Bytes → Prop := RecordLayout (cursorFields c) 5 maxNested

/-- The fields of a text; the cursors may be missing if there are none, from an array too. -/
def textFields (t : Text) : List FieldLayout := [
  { name := "name", form := StringForm t.name },
  { name := "data", form := StringForm t.data },
  { name := "cursors", form := ListForm CursorLayout t.cursors, omissible := t.cursors = [] }]

/-- The bytes are a layout of a text. -/
def TextLayout (t : Text) : Bytes → Prop := RecordLayout (textFields t) 2 maxNested

/-- The field of a store. -/
def storeFields (s : Store) : List FieldLayout := [
  { name := "texts", form := ListForm TextLayout s.texts }]

/-- The bytes are a layout of a store. -/
def StoreLayout (s : Store) : Bytes → Prop := RecordLayout (storeFields s) 1 maxNested

/-! ## Reading -/

theorem DestinationLayout.reads {d : Destination} {bytes : Bytes} (h : DestinationLayout d bytes) :
    Reads readDestination bytes d := by
  have hgathers : destinationForm.Gathers (destinationFields d)
      (fun filled => ⟨slot filled 0 d.position, slot filled 1 d.word⟩) d := by
    refine ⟨rfl, by decide, rfl, ?_, ?_⟩
    · intro filled i field value hi hnew hform
      match i, hi with
      | 0, rfl =>
        have hread := OptionForm.reads hform PositionForm.reads PositionForm.startsOther
        exact reads_slot _ hnew hread (by simp)
      | 1, rfl =>
        have hread := OptionForm.reads hform StringForm.reads StringForm.startsOther
        exact reads_slot _ hnew hread (by simp)
    · intro filled hall
      have hposition := join_slot (hall 0 _ rfl)
      have hword := join_slot (hall 1 _ rfl)
      unfold destinationForm
      dsimp only
      rw [hposition, hword]
  exact hgathers.reads (by decide) h

theorem CursorLayout.reads {c : Cursor} {bytes : Bytes} (h : CursorLayout c bytes) :
    Reads readCursor bytes c := by
  have hgathers : cursorForm.Gathers (cursorFields c)
      (fun filled => ⟨slot filled 0 c.name, slot filled 1 c.target, slot filled 2 c.start,
        slot filled 3 c.ahead, slot filled 4 c.stop⟩) c := by
    refine ⟨rfl, by decide, rfl, ?_, ?_⟩
    · intro filled i field value hi hnew hform
      match i, hi with
      | 0, rfl => exact reads_slot _ hnew (StringForm.reads hform) (by simp)
      | 1, rfl =>
        have hread := OptionForm.reads hform StringForm.reads StringForm.startsOther
        exact reads_slot _ hnew hread (by simp)
      | 2, rfl => exact reads_slot _ hnew (DestinationLayout.reads hform) (by simp)
      | 3, rfl => exact reads_slot _ hnew (BoolForm.reads hform) (by simp)
      | 4, rfl => exact reads_slot _ hnew (DestinationLayout.reads hform) (by simp)
    · intro filled hall
      have hname : slot filled 0 c.name = some c.name := slot_of_mem (hall 0 _ rfl)
      have htarget := join_slot (hall 1 _ rfl)
      have hstart : slot filled 2 c.start = some c.start := slot_of_mem (hall 2 _ rfl)
      have hahead : slot filled 3 c.ahead = some c.ahead := slot_of_mem (hall 3 _ rfl)
      have hstop : slot filled 4 c.stop = some c.stop := slot_of_mem (hall 4 _ rfl)
      unfold cursorForm
      dsimp only
      rw [hname, htarget, hstart, hahead, hstop]
      rfl
  exact hgathers.reads (by decide) h

theorem TextLayout.reads {t : Text} {bytes : Bytes} (h : TextLayout t bytes) :
    Reads readText bytes t := by
  have hgathers : textForm.Gathers (textFields t)
      (fun filled => ⟨slot filled 0 t.name, slot filled 1 t.data, slot filled 2 t.cursors⟩) t := by
    refine ⟨rfl, by decide, rfl, ?_, ?_⟩
    · intro filled i field value hi hnew hform
      match i, hi with
      | 0, rfl => exact reads_slot _ hnew (StringForm.reads hform) (by simp)
      | 1, rfl => exact reads_slot _ hnew (StringForm.reads hform) (by simp)
      | 2, rfl => exact reads_slot _ hnew (ListForm.reads hform CursorLayout.reads) (by simp)
    · intro filled hall
      have hname : slot filled 0 t.name = some t.name := slot_of_mem (hall 0 _ rfl)
      have hdata : slot filled 1 t.data = some t.data := slot_of_mem (hall 1 _ rfl)
      have hcursors := getD_slot (hall 2 _ rfl)
      unfold textForm
      dsimp only
      rw [hname, hdata, hcursors]
      rfl
  exact hgathers.reads (by decide) h

theorem StoreLayout.reads {s : Store} {bytes : Bytes} (h : StoreLayout s bytes) :
    Reads readStore bytes s := by
  have hgathers : storeForm.Gathers (storeFields s) (fun filled => slot filled 0 s.texts) s := by
    refine ⟨rfl, by decide, rfl, ?_, ?_⟩
    · intro filled i field value hi hnew hform
      match i, hi with
      | 0, rfl =>
        have hfree : slot filled 0 s.texts = none := if_neg hnew
        unfold storeForm
        dsimp only
        rw [hfree, slot_cons_self]
        exact reads_fillSlot (ListForm.reads hform TextLayout.reads)
    · intro filled hall
      have htexts : slot filled 0 s.texts = some s.texts := slot_of_mem (hall 0 _ rfl)
      unfold storeForm
      dsimp only
      rw [htexts]
      rfl
  exact hgathers.reads (by decide) h

/-- A state file holds the store that is read from it, whatever follows. -/
theorem decode_append_of_reads {bytes : Bytes} {s : Store} (h : Reads readStore bytes s) (rest : Bytes) :
    decode (bytes ++ rest) = .ok s := by
  rw [decode, h rest]
  rfl

theorem decode_eq_of_reads {bytes : Bytes} {s : Store} (h : Reads readStore bytes s) :
    decode bytes = .ok s := by
  have hread := decode_append_of_reads h []
  rwa [List.append_nil] at hread

end TextDesk.StateFile
