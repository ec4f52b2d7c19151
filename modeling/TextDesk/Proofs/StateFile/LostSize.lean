import TextDesk.Proofs.StateFile

/-! # Data that lost their size

The head of a string holds its size in four bytes at most.  Of a larger size it holds the lowest four bytes,
so the string is read back only in part, and the rest is taken for what stands behind the string.  In the
data of a text, the rest may look like an entry that no field takes, and then nothing tells that it was lost.
Main statement: data of the largest size that fits, if they are then doubled, are read back as they were
before.
-/

namespace TextDesk.StateFile

open MessagePack

/-- A text without cursors may be laid out with an entry that no field takes in their place. -/
theorem textLayout_of_other_entry {name data : String} {key value : Bytes} (hname : IsShortString name)
    (hdata : IsShortString data) (hkey : KeyForm textForm.names none key) (hvalue : IsValue maxNested value) :
    TextLayout { name, data } ([0x83] ++ ((writeString "name" ++ writeString name)
      ++ (writeString "data" ++ writeString data) ++ (key ++ value))) := by
  let entries : List (Option Nat × Bytes) :=
    [(some 0, writeString "name" ++ writeString name), (some 1, writeString "data" ++ writeString data),
      (none, key ++ value)]
  have hshort : ∀ field ∈ textForm.names, IsShortString field := by decide
  have hentries : ∀ entry ∈ entries, EntryForm (textFields { name, data }) maxNested entry.1 entry.2 := by
    simp only [entries, List.forall_mem_cons]
    refine ⟨?_, ?_, .unknown hkey hvalue, List.forall_mem_nil _⟩
    · exact .field rfl (.name rfl (stringForm_writeString (hshort _ (by simp [textForm]))))
        (stringForm_writeString hname)
    · exact .field rfl (.name rfl (stringForm_writeString (hshort _ (by simp [textForm]))))
        (stringForm_writeString hdata)
  have hall : ∀ i field, (textFields { name, data })[i]? = some field →
      i ∈ entries.filterMap Prod.fst ∨ field.omissible := by
    intro i field hi
    match i, hi with
    | 0, _ | 1, _ => exact Or.inl (by simp [entries])
    | 2, rfl => exact Or.inr rfl
  have hhead : Head.Form (.map entries.length) [0x83] := @Head.Form.smallMap 3 (by decide)
  have hlayout : TextLayout { name, data } _ := RecordLayout.map hhead hentries (by simp [entries]) hall
  simpa [entries] using hlayout

section

variable {name front tail : String}

/-- The head of a string tells the size of the part `front` only. -/
def TellsFrontOnly (front tail : String) : Prop :=
  Head.writeStr (utf8Bytes (front ++ tail)).length = Head.writeStr (utf8Bytes front).length

/-- What the head does not tell stands behind the front as if it did not belong to the string. -/
theorem TellsFrontOnly.writeString_append (h : TellsFrontOnly front tail) :
    writeString (front ++ tail) = writeString front ++ utf8Bytes tail := by
  unfold TellsFrontOnly at h
  rw [writeString, h, utf8Bytes_append]
  exact (List.append_assoc _ _ _).symm

/-- A text is read with the front of its data if what is behind it starts like an entry that no field takes. -/
theorem TellsFrontOnly.decode_encode_append (h : TellsFrontOnly front tail) (hname : IsShortString name)
    (hfront : IsShortString front) {key value more : Bytes} (htail : utf8Bytes tail = key ++ value ++ more)
    (hkey : KeyForm textForm.names none key) (hvalue : IsValue maxNested value) :
    decode (encode ⟨[{ name, data := front ++ tail }]⟩) = .ok ⟨[{ name, data := front }]⟩ := by
  let text : Bytes := [0x83] ++ ((writeString "name" ++ writeString name)
    ++ (writeString "data" ++ writeString front) ++ (key ++ value))
  have htext : TextLayout { name, data := front } text :=
    textLayout_of_other_entry hname hfront hkey hvalue
  have htexts : ListForm TextLayout [{ name, data := front }] ([0x91] ++ [text].flatten) :=
    .mk (@Head.Form.smallArray 1 (by decide)) (.cons htext .nil)
  have hstore : StoreLayout ⟨[{ name, data := front }]⟩
      (writeRecord [("texts", [0x91] ++ [text].flatten)]) :=
    recordLayout_writeRecord storeForm.names rfl (by decide) (by simp [IsShort]) (.cons ⟨rfl, htexts⟩ .nil)
  have hbytes : encode ⟨[{ name, data := front ++ tail }]⟩
      = writeRecord [("texts", [0x91] ++ [text].flatten)] ++ (more ++ (writeString "cursors" ++ [0x90])) := by
    rw [encode, writeList, List.flatMap_singleton, writeText, h.writeString_append, htail]
    simp [text, writeRecord, writeList, Head.writeArray, Head.writeMap]
  rw [hbytes]
  exact decode_append_of_reads hstore.reads _

/-- What the head does not tell is written all the same. -/
theorem TellsFrontOnly.encode_append_ne (h : TellsFrontOnly front tail) (htail : utf8Bytes tail ≠ []) :
    encode ⟨[{ name, data := front ++ tail }]⟩ ≠ encode ⟨[{ name, data := front }]⟩ := by
  intro heq
  have hlength := congrArg List.length heq
  have hpos := List.length_pos_iff.2 htail
  simp only [encode, writeList, writeText, h.writeString_append, writeRecord, List.length_append,
    List.flatMap_cons, List.length_cons] at hlength
  omega

end

/-! ## Doubled data -/

section

variable {name data : String} {b : UInt8} {rest : Bytes}

/-- A text without cursors can be written if its name and its data can. -/
theorem storable_singleton (hname : IsShortString name) (hdata : IsShortString data) :
    Store.Storable ⟨[{ name, data }]⟩ := by
  refine ⟨by simp [IsShort], ?_⟩
  rw [List.forall_mem_singleton]
  exact ⟨hname, hdata, by simp [IsShort], by simp⟩

theorem isShortString_of_size (hsize : (utf8Bytes data).length = 2 ^ 32 - 1) : IsShortString data := by
  unfold IsShortString IsShort
  omega

/-- The four bytes of a head are the same for the largest size that fits, and for twice that size and one. -/
theorem tellsFrontOnly_doubled (hsize : (utf8Bytes data).length = 2 ^ 32 - 1) :
    TellsFrontOnly data ("\n" ++ data) := by
  have hnewline : (utf8Bytes "\n").length = 1 := rfl
  have hdoubled : (utf8Bytes (data ++ ("\n" ++ data))).length = 2 ^ 33 - 1 := by
    rw [utf8Bytes_append, utf8Bytes_append, List.length_append, List.length_append, hnewline, hsize]
    rfl
  unfold TellsFrontOnly
  rw [hdoubled, hsize]
  rfl

/-- Data of the largest size that fits, and on the next line the same data again: the second line is lost
without a trace if it starts with a small byte, although all of it is written. -/
theorem decode_encode_of_doubled (hname : IsShortString name)
    (hsize : (utf8Bytes data).length = 2 ^ 32 - 1) (hstart : utf8Bytes data = b :: rest)
    (hsmall : b.toNat < 0x80) :
    decode (encode ⟨[{ name, data := data ++ ("\n" ++ data) }]⟩) = .ok ⟨[{ name, data }]⟩
      ∧ encode ⟨[{ name, data := data ++ ("\n" ++ data) }]⟩ ≠ encode ⟨[{ name, data }]⟩ := by
  have htells := tellsFrontOnly_doubled hsize
  have htail : utf8Bytes ("\n" ++ data) = [0x0a] ++ [b] ++ rest := by
    rw [utf8Bytes_append, hstart]
    rfl
  have hdata := isShortString_of_size hsize
  -- the line feed is read as the index of a field that there is not, and the byte behind it as its value
  have hkey : KeyForm textForm.names none [0x0a] :=
    .unknownIndex (by decide) (@Head.Form.smallNatural 0x0a (by decide))
  have hvalue : IsValue maxNested [b] := by
    have hhead := Head.Form.smallNatural hsmall
    rw [UInt8.ofNat_toNat] at hhead
    exact @IsValue.flat _ _ [b] [] hhead rfl
  constructor
  · exact htells.decode_encode_append hname hdata htail hkey hvalue
  · exact htells.encode_append_ne (by simp [htail])

end

/-- There are strings of every size but zero that start with a small byte. -/
theorem exists_utf8Bytes_eq_cons (n : Nat) :
    ∃ s rest, utf8Bytes s = 0x61 :: rest ∧ (utf8Bytes s).length = n + 1 := by
  induction n with
  | zero => exact ⟨"a", [], by decide, by decide⟩
  | succ n ih =>
    rcases ih with ⟨s, rest, hs, hlength⟩
    have happend : utf8Bytes ("a" ++ s) = 0x61 :: utf8Bytes s := utf8Bytes_append "a" s
    exact ⟨"a" ++ s, utf8Bytes s, happend, by rw [happend, List.length_cons, hlength]⟩

end TextDesk.StateFile
