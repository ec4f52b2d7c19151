import TextDesk.Proofs.StateFile.Layout

/-! # State files are read back

A store whose strings and lists fit in the heads of the format is read back from its state file,
whatever follows the file: what is written is one of the layouts that are read.  The bound on the sizes is
no accident: above it, a head does not hold the size that it is to tell.  Main statements:
`StateFile.decode_encode`, and that a store is decoded from each of its layouts.
-/

namespace TextDesk

open MessagePack

/-! ## What can be written -/

/-- The word, if there is one, can be written. -/
def Destination.Storable (d : Destination) : Prop := ∀ w ∈ d.word, IsShortString w

/-- The strings of a cursor can be written. -/
structure Cursor.Storable (c : Cursor) : Prop where
  name : IsShortString c.name
  target : ∀ t ∈ c.target, IsShortString t
  start : c.start.Storable
  stop : c.stop.Storable

/-- The strings of a text can be written, and so can the list of its cursors. -/
structure Text.Storable (t : Text) : Prop where
  name : IsShortString t.name
  data : IsShortString t.data
  length : IsShort t.cursors.length
  cursors : ∀ c ∈ t.cursors, c.Storable

/-- The list of texts can be written, and so can each text. -/
structure Store.Storable (s : Store) : Prop where
  length : IsShort s.texts.length
  texts : ∀ t ∈ s.texts, t.Storable

instance (d : Destination) : Decidable d.Storable :=
  inferInstanceAs (Decidable (∀ w ∈ d.word, IsShortString w))

instance (c : Cursor) : Decidable c.Storable :=
  decidable_of_iff (IsShortString c.name ∧ (∀ t ∈ c.target, IsShortString t) ∧ c.start.Storable
      ∧ c.stop.Storable)
    ⟨fun ⟨name, target, start, stop⟩ => ⟨name, target, start, stop⟩,
      fun h => ⟨h.name, h.target, h.start, h.stop⟩⟩

instance (t : Text) : Decidable t.Storable :=
  decidable_of_iff (IsShortString t.name ∧ IsShortString t.data ∧ IsShort t.cursors.length
      ∧ ∀ c ∈ t.cursors, c.Storable)
    ⟨fun ⟨name, data, length, cursors⟩ => ⟨name, data, length, cursors⟩,
      fun h => ⟨h.name, h.data, h.length, h.cursors⟩⟩

instance (s : Store) : Decidable s.Storable :=
  decidable_of_iff (IsShort s.texts.length ∧ ∀ t ∈ s.texts, t.Storable)
    ⟨fun ⟨length, texts⟩ => ⟨length, texts⟩, fun h => ⟨h.length, h.texts⟩⟩

namespace StateFile

/-! ## Records -/

theorem destinationLayout_writeDestination {d : Destination} (h : d.Storable) :
    DestinationLayout d (writeDestination d) := by
  have hposition : OptionForm PositionForm d.position (writeOption writePosition d.position) :=
    optionForm_writeOption fun n _ => positionForm_writePosition n
  have hword : OptionForm StringForm d.word (writeOption writeString d.word) :=
    optionForm_writeOption fun w hw => stringForm_writeString (h w hw)
  refine recordLayout_writeRecord destinationForm.names rfl (by decide) (by simp [IsShort]) ?_
  exact .cons ⟨rfl, hposition⟩ (.cons ⟨rfl, hword⟩ .nil)

theorem cursorLayout_writeCursor {c : Cursor} (h : c.Storable) : CursorLayout c (writeCursor c) := by
  have hname := stringForm_writeString h.name
  have htarget : OptionForm StringForm c.target (writeOption writeString c.target) :=
    optionForm_writeOption fun t ht => stringForm_writeString (h.target t ht)
  have hstart := destinationLayout_writeDestination h.start
  have hahead := boolForm_writeBool c.ahead
  have hstop := destinationLayout_writeDestination h.stop
  refine recordLayout_writeRecord cursorForm.names rfl (by decide) (by simp [IsShort]) ?_
  exact .cons ⟨rfl, hname⟩ (.cons ⟨rfl, htarget⟩ (.cons ⟨rfl, hstart⟩
    (.cons ⟨rfl, hahead⟩ (.cons ⟨rfl, hstop⟩ .nil))))

theorem textLayout_writeText {t : Text} (h : t.Storable) : TextLayout t (writeText t) := by
  have hname := stringForm_writeString h.name
  have hdata := stringForm_writeString h.data
  have hcursors : ListForm CursorLayout t.cursors (writeList writeCursor t.cursors) :=
    listForm_writeList h.length fun c hc => cursorLayout_writeCursor (h.cursors c hc)
  refine recordLayout_writeRecord textForm.names rfl (by decide) (by simp [IsShort]) ?_
  exact .cons ⟨rfl, hname⟩ (.cons ⟨rfl, hdata⟩ (.cons ⟨rfl, hcursors⟩ .nil))

/-- A state file is a layout of the store it is made of. -/
theorem storeLayout_encode {s : Store} (h : s.Storable) : StoreLayout s (encode s) := by
  have htexts : ListForm TextLayout s.texts (writeList writeText s.texts) :=
    listForm_writeList h.length fun t ht => textLayout_writeText (h.texts t ht)
  refine recordLayout_writeRecord storeForm.names rfl (by decide) (by simp [IsShort]) ?_
  exact .cons ⟨rfl, htexts⟩ .nil

/-- A store is read back from its state file, and what follows is left. -/
theorem reads_encode {s : Store} (h : s.Storable) : Reads readStore (encode s) s :=
  (storeLayout_encode h).reads

/-- A store whose strings and lists fit in the format is read back from its state file. -/
theorem decode_encode {s : Store} (h : s.Storable) : decode (encode s) = .ok s :=
  decode_eq_of_reads (reads_encode h)

/-- Texts of one name stay two texts, a cursor end keeps both its fields, the largest position fits, and
a string of 32 bytes, the first that needs a size behind its marker, is read back. -/
theorem decode_encode_of_boundaries : ∃ s : Store, s.Storable
    ∧ s.texts.map (fun t => (t.name, (utf8Bytes t.data).length)) = [("é", 32), ("é", 0)]
    ∧ (s.texts.flatMap Text.cursors).map Cursor.start
      = [{ position := some 18446744073709551615, word := some "w" }]
    ∧ decode (encode s) = .ok s := by
  let cursor : Cursor :=
    { name := "c", start := { position := some 18446744073709551615, word := some "w" },
      ahead := true, stop := {} }
  let s : Store :=
    ⟨[{ name := "é", data := "sixteen letters.sixteen letters.", cursors := [cursor] },
      { name := "é", data := "" }]⟩
  have h : s.Storable := by decide +kernel
  exact ⟨s, h, by decide +kernel, rfl, decode_encode h⟩

/-! ## Any layout -/

/-- What is written is one of the layouts of a store, and the store is decoded from each of them. -/
theorem decode_of_storeLayout (s : Store) :
    (s.Storable → StoreLayout s (encode s)) ∧ ∀ bytes, StoreLayout s bytes → decode bytes = .ok s := by
  refine ⟨storeLayout_encode, ?_⟩
  intro bytes hlayout
  exact decode_eq_of_reads hlayout.reads

/-- A text whose data stand in front of its name, under an index and in a longer form, and whose cursors are
left out, in a store that has a nested value under an index in front of its texts. -/
theorem decode_of_permuted_layout :
    StoreLayout ⟨[{ name := "a", data := "b" }]⟩ (encode ⟨[{ name := "a", data := "b" }]⟩)
      ∧ decode [0x82, 0x07, 0x91, 0x81, 0xc2, 0xd4, 0x05, 0xff,
          0xc4, 0x05, 0x74, 0x65, 0x78, 0x74, 0x73, 0xdc, 0x00, 0x01,
          0x82, 0xcc, 0x01, 0xd9, 0x01, 0x62, 0xa4, 0x6e, 0x61, 0x6d, 0x65, 0xa1, 0x61]
        = .ok ⟨[{ name := "a", data := "b" }]⟩ := by
  have hstorable : Store.Storable ⟨[{ name := "a", data := "b" }]⟩ := by decide +kernel
  let skipped : Bytes := [0x07, 0x91, 0x81, 0xc2, 0xd4, 0x05, 0xff]
  let text : Bytes := [0x82] ++ [[0xcc, 0x01, 0xd9, 0x01, 0x62], writeString "name" ++ writeString "a"].flatten
  let texts : Bytes := ([0xc4, 0x05] ++ utf8Bytes "texts") ++ ([0xdc, 0x00, 0x01] ++ [text].flatten)
  have hone : Head.Form (.natural 1) [0xcc, 0x01] :=
    @Head.Form.sized 0xcc 1 1 .natural (by simp [Head.sizedMarkers]) (by decide)
  have hlonger : Head.Form (.str 1) [0xd9, 0x01] :=
    @Head.Form.sized 0xd9 1 1 .str (by simp [Head.sizedMarkers]) (by decide)
  have hbinary : Head.Form (.bin 5) [0xc4, 0x05] :=
    @Head.Form.sized 0xc4 1 5 .bin (by simp [Head.sizedMarkers]) (by decide)
  have harray : Head.Form (.array 1) [0xdc, 0x00, 0x01] :=
    @Head.Form.sized 0xdc 2 1 .array (by simp [Head.sizedMarkers]) (by decide)
  have hnested : IsValue maxNested [0x91, 0x81, 0xc2, 0xd4, 0x05, 0xff] := by
    refine @IsValue.container 999 (.array 1) [0x91] [[0x81, 0xc2, 0xd4, 0x05, 0xff]]
      (.smallArray (by decide)) rfl ?_
    rw [List.forall_mem_singleton]
    refine @IsValue.container 998 (.map 1) [0x81] [[0xc2], [0xd4, 0x05, 0xff]]
      (.smallMap (by decide)) rfl ?_
    rw [List.forall_mem_cons, List.forall_mem_singleton]
    constructor
    · exact @IsValue.flat _ (.bool false) [0xc2] [] (.whole (by simp [Head.wholeMarkers])) rfl
    · exact @IsValue.flat _ (.ext 2) [0xd4] [0x05, 0xff] (.whole (by simp [Head.wholeMarkers])) rfl
  have hb : StringForm "b" [0xd9, 0x01, 0x62] := by
    have hbytes : utf8Bytes "b" = [0x62] := by decide
    unfold StringForm
    rw [hbytes]
    exact @ContentForm.str [0x62] [0xd9, 0x01] hlonger
  have htext : TextLayout { name := "a", data := "b" } text := by
    have hdata : EntryForm (textFields { name := "a", data := "b" }) maxNested (some 1)
        [0xcc, 0x01, 0xd9, 0x01, 0x62] :=
      @EntryForm.field _ _ 1 _ [0xcc, 0x01] [0xd9, 0x01, 0x62] rfl (.index (by decide) hone) hb
    have hname : EntryForm (textFields { name := "a", data := "b" }) maxNested (some 0)
        (writeString "name" ++ writeString "a") :=
      .field rfl (.name rfl (stringForm_writeString (by decide))) (stringForm_writeString (by decide))
    refine @RecordLayout.map _ _ _ [0x82]
      [(some 1, [0xcc, 0x01, 0xd9, 0x01, 0x62]), (some 0, writeString "name" ++ writeString "a")]
      (.smallMap (by decide)) ?_ (by decide) ?_
    · rw [List.forall_mem_cons, List.forall_mem_singleton]
      exact ⟨hdata, hname⟩
    · intro i field hi
      rcases i with _ | _ | _ | i
      · exact Or.inl (by decide)
      · exact Or.inl (by decide)
      · cases hi
        exact Or.inr rfl
      · cases hi
  have hstore : StoreLayout ⟨[{ name := "a", data := "b" }]⟩ ([0x82] ++ [skipped, texts].flatten) := by
    have hskipped : EntryForm (storeFields ⟨[{ name := "a", data := "b" }]⟩) maxNested none skipped :=
      @EntryForm.unknown _ _ [0x07] _ (.unknownIndex (by decide) (.smallNatural (by decide))) hnested
    have hkey : StringForm "texts" ([0xc4, 0x05] ++ utf8Bytes "texts") :=
      @ContentForm.bin (utf8Bytes "texts") [0xc4, 0x05] hbinary
    have htexts : EntryForm (storeFields ⟨[{ name := "a", data := "b" }]⟩) maxNested (some 0) texts :=
      .field rfl (.name rfl hkey) (.mk harray (.cons htext .nil))
    refine @RecordLayout.map _ _ _ [0x82] [(none, skipped), (some 0, texts)]
      (.smallMap (by decide)) ?_ (by decide) ?_
    · rw [List.forall_mem_cons, List.forall_mem_singleton]
      exact ⟨hskipped, htexts⟩
    · intro i field hi
      rcases i with _ | i
      · exact Or.inl (by decide)
      · cases hi
  have hbytes : [0x82] ++ [skipped, texts].flatten
      = [0x82, 0x07, 0x91, 0x81, 0xc2, 0xd4, 0x05, 0xff,
        0xc4, 0x05, 0x74, 0x65, 0x78, 0x74, 0x73, 0xdc, 0x00, 0x01,
        0x82, 0xcc, 0x01, 0xd9, 0x01, 0x62, 0xa4, 0x6e, 0x61, 0x6d, 0x65, 0xa1, 0x61] := by decide
  rw [← hbytes]
  exact ⟨(decode_of_storeLayout _).1 hstorable, (decode_of_storeLayout _).2 _ hstore⟩

end StateFile

end TextDesk
