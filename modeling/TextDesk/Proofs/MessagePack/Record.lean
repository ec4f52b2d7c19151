import Mathlib.Data.List.Nodup
import TextDesk.MessagePack.Record
import TextDesk.Proofs.MessagePack.Value

/-! # Records are read in every layout

A record is laid out as a map of its fields, in any order, each under its name or its index, with other
entries in between, or as an array of its fields in order; and a field that may be missing is left out of a
map or from the end of an array.  Fields fill a draft one by one, so what a draft holds is told by the
indices of the fields that were read.  Main statement: a record is read in each of its layouts, of which
the written one is a map of all fields in order.
-/

namespace TextDesk.MessagePack

/-! ## Layouts -/

/-- How a field of a record may be laid out. -/
structure FieldLayout where
  /-- The name of the field. -/
  name : String
  /-- The bytes are a form of the field. -/
  form : Bytes → Prop
  /-- The field may be missing. -/
  omissible : Prop := False

/-- The bytes are a key: of the field with the given index, or of no field. -/
inductive KeyForm (names : List String) : Option Nat → Bytes → Prop
  | name {i : Nat} {name : String} {bytes : Bytes} (hi : names[i]? = some name)
      (h : StringForm name bytes) : KeyForm names (some i) bytes
  | index {i : Nat} {bytes : Bytes} (hi : i < names.length) (h : Head.Form (.natural i) bytes) :
      KeyForm names (some i) bytes
  | unknownName {content bytes : Bytes} (hunknown : ∀ name ∈ names, content ≠ utf8Bytes name)
      (h : ContentForm content bytes) : KeyForm names none bytes
  | unknownIndex {i : Nat} {bytes : Bytes} (hi : names.length ≤ i)
      (h : Head.Form (.natural i) bytes) : KeyForm names none bytes

/-- The bytes are an entry of a map: a key with the field that it names, or with any value if it names
none. -/
inductive EntryForm (fields : List FieldLayout) (nested : Nat) : Option Nat → Bytes → Prop
  | field {i : Nat} {field : FieldLayout} {key value : Bytes} (hi : fields[i]? = some field)
      (hkey : KeyForm (fields.map FieldLayout.name) (some i) key) (hvalue : field.form value) :
      EntryForm fields nested (some i) (key ++ value)
  | unknown {key value : Bytes} (hkey : KeyForm (fields.map FieldLayout.name) none key)
      (hvalue : IsValue nested value) : EntryForm fields nested none (key ++ value)

/-- The bytes are a record with the given fields: a map in which no field stands twice, or an array of at
least `minItems` fields in order. -/
inductive RecordLayout (fields : List FieldLayout) (minItems nested : Nat) : Bytes → Prop
  | map {head : Bytes} {entries : List (Option Nat × Bytes)}
      (hhead : Head.Form (.map entries.length) head)
      (hentries : ∀ entry ∈ entries, EntryForm fields nested entry.1 entry.2)
      (honce : (entries.filterMap Prod.fst).Nodup)
      (hall : ∀ i field, fields[i]? = some field →
        i ∈ entries.filterMap Prod.fst ∨ field.omissible) :
      RecordLayout fields minItems nested (head ++ (entries.map Prod.snd).flatten)
  | array {head : Bytes} {items : List Bytes} {present omitted : List FieldLayout}
      (hfields : fields = present ++ omitted) (hhead : Head.Form (.array items.length) head)
      (hmin : minItems ≤ items.length) (hitems : List.Forall₂ FieldLayout.form present items)
      (homitted : ∀ field ∈ omitted, field.omissible) :
      RecordLayout fields minItems nested (head ++ items.flatten)

/-! ## Keys -/

section

variable {names : List String} {bytes : Bytes}

/-- A string or a byte string is read as the index of the name that its content spells. -/
theorem ContentForm.reads_readKey {content : Bytes} (h : ContentForm content bytes) :
    Reads (readKey names) bytes ((ofUtf8? content).bind (names.idxOf? ·)) := by
  cases h with
  | str h | bin h => exact h.reads.bind ((reads_takeBytes content).bind_pure (Reads.pure _))

/-- A key is read as the index of its field. -/
theorem KeyForm.reads {i? : Option Nat} (h : KeyForm names i? bytes) (hnodup : names.Nodup) :
    Reads (readKey names) bytes i? := by
  cases h with
  | @name i name _ hi h =>
    have hindex : names.idxOf? name = some i := by
      rcases List.getElem?_eq_some_iff.1 hi with ⟨hlt, hget⟩
      refine List.idxOf?_eq_some_iff.2 ⟨hlt, hget, ?_⟩
      -- an earlier field does not have the name too
      intro j hj hsame
      have heq := hnodup.getElem_inj_iff.1 (hsame.trans hget.symm)
      omega
    have hread : Reads (readKey names) bytes _ := ContentForm.reads_readKey h
    rwa [ofUtf8?_utf8Bytes, Option.bind_some, hindex] at hread
  | @index i _ hi h =>
    refine h.reads.bind_pure ?_
    dsimp only
    rw [if_pos hi]
    exact Reads.pure _
  | @unknownName content _ hunknown h =>
    have hindex : (ofUtf8? content).bind (names.idxOf? ·) = none := by
      rw [Option.bind_eq_none_iff]
      intro name hname
      rw [List.idxOf?_eq_none_iff]
      intro hmem
      exact hunknown name hmem (eq_utf8Bytes_of_ofUtf8? hname)
    have hread : Reads (readKey names) bytes _ := h.reads_readKey
    rwa [hindex] at hread
  | @unknownIndex i _ hi h =>
    refine h.reads.bind_pure ?_
    dsimp only
    rw [if_neg (by omega)]
    exact Reads.pure _

end

/-! ## Drafts -/

/-- A free slot takes what is read. -/
theorem reads_fillSlot {α : Type} {read : Reader α} {bytes : Bytes} {a : α} (h : Reads read bytes a) :
    Reads (fillSlot none read) bytes (some a) := h.map some

/-- What the field of index `i`, which has the value `a`, is in a draft into which the fields of the given
indices were read. -/
def slot {α : Type} (filled : List Nat) (i : Nat) (a : α) : Option α :=
  if i ∈ filled then some a else none

section

variable {α δ : Type} {filled : List Nat} {i j : Nat} {a : α}

/-- A field fills its slot. -/
@[simp] theorem slot_cons_self : slot (i :: filled) i a = some a := if_pos List.mem_cons_self

/-- Another field does not fill the slot. -/
@[simp] theorem slot_cons_of_ne (h : i ≠ j) : slot (j :: filled) i a = slot filled i a := by
  simp [slot, h]

/-- A field that was read, or need not be, is there in the end. -/
theorem getD_slot {missing : α} (h : i ∈ filled ∨ a = missing) : (slot filled i a).getD missing = a := by
  unfold slot
  rcases h with h | rfl
  · rw [if_pos h, Option.getD_some]
  · split <;> rfl

/-- An optional field that was read, or has no value, is there in the end. -/
theorem join_slot {a? : Option α} (h : i ∈ filled ∨ a? = none) : (slot filled i a?).join = a? := by
  have hjoin : (slot filled i a?).join = (slot filled i a?).getD none := by
    cases slot filled i a? <;> rfl
  rw [hjoin, getD_slot h]

/-- A field that was read is there. -/
theorem slot_of_mem (h : i ∈ filled ∨ False) : slot filled i a = some a := if_pos (h.resolve_right id)

/-- A field that was not read yet is read into its slot. -/
theorem reads_slot {read : Reader α} {bytes : Bytes} (put : Option α → δ) {next : δ} (hnew : i ∉ filled)
    (hread : Reads read bytes a) (hnext : put (some a) = next) :
    Reads (do let filledSlot ← fillSlot (slot filled i a) read; return put filledSlot) bytes next := by
  have hfree : slot filled i a = none := if_neg hnew
  rw [hfree, ← hnext]
  exact (reads_fillSlot hread).bind_pure (Reads.pure _)

end

namespace RecordForm

variable {α δ : Type} {form : RecordForm δ α} {fields : List FieldLayout} {draft : List Nat → δ} {a : α}

/-- The record is read from its fields: `draft` gives the draft into which the fields of some indices were
read. -/
structure Gathers (form : RecordForm δ α) (fields : List FieldLayout) (draft : List Nat → δ) (a : α) :
    Prop where
  /-- The fields are those of the record. -/
  names : form.names = fields.map FieldLayout.name
  /-- Their names are different. -/
  nodup : form.names.Nodup
  /-- At first no field was read. -/
  blank : form.blank = draft []
  /-- A field that was not read yet is read in each of its forms. -/
  readField : ∀ {filled i field value}, fields[i]? = some field → i ∉ filled → field.form value →
    Reads (form.readField i (draft filled)) value (draft (i :: filled))
  /-- A draft that lacks no field but those that may be missing is that of the record. -/
  finish : ∀ {filled}, (∀ i field, fields[i]? = some field → i ∈ filled ∨ field.omissible) →
    form.finish? (draft filled) = some a

/-- Entries of a map fill the draft with the fields that they hold. -/
theorem Gathers.reads_readEntries (h : form.Gathers fields draft a) {nested depth : Nat}
    (hdepth : nested + 2 ≤ depth) {entries : List (Option Nat × Bytes)}
    (hentries : ∀ entry ∈ entries, EntryForm fields nested entry.1 entry.2)
    (honce : (entries.filterMap Prod.fst).Nodup) (filled : List Nat)
    (hnew : ∀ i ∈ entries.filterMap Prod.fst, i ∉ filled) :
    Reads (form.readEntries depth entries.length (draft filled)) (entries.map Prod.snd).flatten
      (draft ((entries.filterMap Prod.fst).reverse ++ filled)) := by
  induction entries generalizing filled with
  | nil => exact Reads.pure _
  | cons entry entries ih =>
    rcases entry with ⟨i?, bytes⟩
    rcases List.forall_mem_cons.1 hentries with ⟨hentry, hmore⟩
    dsimp only at hentry
    rw [List.map_cons, List.flatten_cons]
    cases hentry with
    | @field i field key value hi hkey hvalue =>
      rw [← h.names] at hkey
      have hindices : ((some i, key ++ value) :: entries).filterMap Prod.fst
          = i :: entries.filterMap Prod.fst := rfl
      rw [hindices] at honce hnew ⊢
      rcases List.nodup_cons.1 honce with ⟨hfirst, honce⟩
      rcases List.forall_mem_cons.1 hnew with ⟨hfree, hnew⟩
      have hstill : ∀ j ∈ entries.filterMap Prod.fst, j ∉ i :: filled := by
        intro j hj hmem
        rcases List.mem_cons.1 hmem with rfl | hmem
        · exact hfirst hj
        · exact hnew j hj hmem
      have hrest := ih hmore honce (i :: filled) hstill
      rw [List.reverse_cons, List.append_assoc, List.append_assoc, List.singleton_append]
      -- the key selects the field, whose value makes the next draft
      exact (hkey.reads h.nodup).bind ((h.readField hi hfree hvalue).bind hrest)
    | @unknown key value hkey hvalue =>
      rw [← h.names] at hkey
      have hrest := ih hmore honce filled hnew
      show Reads (form.readEntries depth (entries.length + 1) (draft filled))
        ((key ++ value) ++ (entries.map Prod.snd).flatten) _
      rw [List.append_assoc]
      exact (hkey.reads h.nodup).bind ((hvalue.reads_skip hdepth).bind hrest)

/-- Items of an array fill the draft with the fields from where they start. -/
theorem Gathers.reads_readItems (h : form.Gathers fields draft a)
    {before present omitted : List FieldLayout} (hfields : fields = before ++ (present ++ omitted))
    {items : List Bytes} (hitems : List.Forall₂ FieldLayout.form present items) (filled : List Nat)
    (hnew : ∀ i ∈ filled, i < before.length) :
    Reads (form.readItems before.length items.length (draft filled)) items.flatten
      (draft ((List.range' before.length items.length).reverse ++ filled)) := by
  induction hitems generalizing before filled with
  | nil => exact Reads.pure _
  | @cons field item present items hitem hitems ih =>
    have hi : fields[before.length]? = some field := by
      rw [hfields, List.getElem?_append_right (Nat.le_refl _), Nat.sub_self]
      rfl
    have hfree : before.length ∉ filled := by
      intro hmem
      exact Nat.lt_irrefl _ (hnew _ hmem)
    refine (h.readField hi hfree hitem).bind ?_
    have hbehind : fields = before ++ [field] ++ (present ++ omitted) := by
      rw [hfields, List.append_assoc, List.singleton_append, List.cons_append]
    have hlength : (before ++ [field]).length = before.length + 1 := List.length_append
    have hstill : ∀ i ∈ before.length :: filled, i < (before ++ [field]).length := by
      rw [hlength, List.forall_mem_cons]
      refine ⟨Nat.lt_succ_self _, ?_⟩
      intro i hi
      exact Nat.lt_succ_of_lt (hnew i hi)
    have hrest := ih hbehind (before.length :: filled) hstill
    rw [hlength] at hrest
    rw [List.length_cons, List.range'_succ, List.reverse_cons, List.append_assoc, List.singleton_append]
    exact hrest

/-- A draft that lacks no field but those that may be missing is turned into the record. -/
theorem Gathers.reads_finish (h : form.Gathers fields draft a) {filled : List Nat}
    (hall : ∀ i field, fields[i]? = some field → i ∈ filled ∨ field.omissible) :
    Reads (form.finish (draft filled)) [] a := by
  unfold RecordForm.finish
  rw [h.finish hall]
  exact Reads.pure a

/-- A record is read in each of its layouts. -/
theorem Gathers.reads (h : form.Gathers fields draft a) {nested depth : Nat} {bytes : Bytes}
    (hdepth : nested + 2 ≤ depth) (hlayout : RecordLayout fields form.minItems nested bytes) :
    Reads (form.read depth) bytes a := by
  cases hlayout with
  | map hhead hentries honce hall =>
    have hread := h.reads_readEntries hdepth hentries honce [] (fun _ _ => List.not_mem_nil)
    rw [← h.blank, List.append_nil] at hread
    refine hhead.reads.bind (hread.bind_pure (h.reads_finish ?_))
    intro i field hi
    rw [List.mem_reverse]
    exact hall i field hi
  | @array head items present omitted hfields hhead hmin hitems homitted =>
    have hfront : fields = [] ++ (present ++ omitted) := hfields
    have hread := h.reads_readItems hfront hitems [] (fun _ hi => by cases hi)
    rw [← h.blank, List.append_nil] at hread
    have hlength := hitems.length_eq
    have hmax : items.length ≤ form.names.length := by
      rw [h.names, List.length_map, hfields, List.length_append]
      omega
    refine hhead.reads.bind ?_
    dsimp only
    rw [if_pos ⟨hmin, hmax⟩]
    refine hread.bind_pure (h.reads_finish ?_)
    intro i field hi
    rw [List.mem_reverse, List.mem_range'_1]
    -- a field that is not among the items is one of those that are left out
    by_cases hlt : i < items.length
    · exact Or.inl ⟨Nat.zero_le i, by simpa using hlt⟩
    · rw [hfields, List.getElem?_append_right (by omega)] at hi
      exact Or.inr (homitted field (List.mem_of_getElem? hi))

end RecordForm

/-! ## The written layout -/

/-- A member of one list has its partner at the same place of the other. -/
theorem exists_getElem?_of_forall₂ {α β : Type} {R : α → β → Prop} {as : List α} {bs : List β}
    (h : List.Forall₂ R as bs) {i : Nat} {b : β} (hi : bs[i]? = some b) :
    ∃ a, as[i]? = some a ∧ R a b := by
  induction h generalizing i with
  | nil => cases hi
  | cons hfirst hrest ih =>
    cases i with
    | zero =>
      obtain rfl := Option.some.inj hi
      exact ⟨_, rfl, hfirst⟩
    | succ i => exact ih hi

/-- A record is written as a map of its fields in order. -/
theorem recordLayout_writeRecord {fields : List FieldLayout} {minItems nested : Nat} (names : List String)
    (hnames : fields.map FieldLayout.name = names) (hshort : ∀ name ∈ names, IsShortString name)
    {entries : List (String × Bytes)} (hlength : IsShort entries.length)
    (h : List.Forall₂ (fun field entry => entry.1 = field.name ∧ field.form entry.2) fields entries) :
    RecordLayout fields minItems nested (writeRecord entries) := by
  let laid : List (Option Nat × Bytes) :=
    entries.zipIdx.map fun entry => (some entry.2, writeString entry.1.1 ++ entry.1.2)
  have hlaid : laid.length = entries.length := by simp [laid]
  have hbytes : (laid.map Prod.snd).flatten
      = entries.flatMap fun entry => writeString entry.1 ++ entry.2 := by
    have hfst := List.zipIdx_map_fst 0 entries
    rw [List.flatMap_def, ← hfst, List.map_map, List.map_map]
    rfl
  have hindices : laid.filterMap Prod.fst = List.range' 0 entries.length := by
    rw [← List.zipIdx_map_snd, List.filterMap_map]
    exact congrFun List.filterMap_eq_map entries.zipIdx
  have hwritten : writeRecord entries = Head.writeMap laid.length ++ (laid.map Prod.snd).flatten := by
    rw [hbytes, hlaid]
    rfl
  rw [hwritten]
  refine .map (Head.form_writeMap (by rwa [hlaid])) ?_ ?_ ?_
  · intro entry hentry
    rcases List.mem_map.1 hentry with ⟨⟨⟨name, value⟩, i⟩, hmem, rfl⟩
    have hget : entries[i]? = some (name, value) := List.mem_zipIdx_iff_getElem?.1 hmem
    rcases exists_getElem?_of_forall₂ h hget with ⟨field, hi, rfl, hform⟩
    have hkey : (fields.map FieldLayout.name)[i]? = some field.name := by
      rw [List.getElem?_map, hi, Option.map_some]
    have hname : field.name ∈ names := hnames ▸ List.mem_of_getElem? hkey
    exact .field hi (.name hkey (stringForm_writeString (hshort _ hname))) hform
  · rw [hindices]
    exact List.nodup_range'
  · intro i field hi
    left
    rw [hindices, List.mem_range'_1]
    have hlt := (List.getElem?_eq_some_iff.1 hi).1
    rw [h.length_eq] at hlt
    omega

end TextDesk.MessagePack
