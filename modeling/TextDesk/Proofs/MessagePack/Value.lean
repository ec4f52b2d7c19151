import Mathlib.Data.List.Forall2
import TextDesk.MessagePack.Value
import TextDesk.Proofs.MessagePack.Form

/-! # Values are read in every form

Strings, truth values, positions, optional values and lists are read in each of their forms, of which the
written one is the shortest.  An optional value needs a form that never starts with nil, the byte that
stands for a missing value.  Where a value is not wanted, it is skipped, whatever it is, unless it is
nested too deep.
-/

namespace TextDesk.MessagePack

/-- A size that a head can hold. -/
def IsShort (size : Nat) : Prop := size < 2 ^ 32

/-- A string whose UTF-8 bytes can be written. -/
def IsShortString (s : String) : Prop := IsShort (utf8Bytes s).length

instance (size : Nat) : Decidable (IsShort size) := inferInstanceAs (Decidable (size < 2 ^ 32))

instance (s : String) : Decidable (IsShortString s) :=
  inferInstanceAs (Decidable (IsShort (utf8Bytes s).length))

/-- The bytes start, and not with nil. -/
def StartsOther (bytes : Bytes) : Prop := ∃ b more, bytes = b :: more ∧ b ≠ 0xc0

/-- A head other than nil starts otherwise. -/
theorem Head.Form.startsOther {head : Head} {bytes : Bytes} (h : Head.Form head bytes)
    (hne : head ≠ .nil) (more : Bytes) : StartsOther (bytes ++ more) := by
  have hread := h.reads []
  cases bytes with
  | nil => cases hread
  | cons b rest =>
    refine ⟨b, rest ++ more, rfl, ?_⟩
    rintro rfl
    -- the byte of nil would be read as nil
    exact hne (Prod.mk.inj (Except.ok.inj hread)).1.symm

/-! ## Strings, truth values and positions -/

/-- The bytes hold the content, as a string or as a byte string. -/
inductive ContentForm (content : Bytes) : Bytes → Prop
  | str {head : Bytes} (h : Head.Form (.str content.length) head) :
      ContentForm content (head ++ content)
  | bin {head : Bytes} (h : Head.Form (.bin content.length) head) :
      ContentForm content (head ++ content)

/-- The bytes are a form of the string. -/
def StringForm (s : String) (bytes : Bytes) : Prop := ContentForm (utf8Bytes s) bytes

/-- The bytes are a form of the position, signed or not. -/
def PositionForm (n : UInt64) (bytes : Bytes) : Prop :=
  Head.Form (.natural n.toNat) bytes ∨ Head.Form (.integer n.toNat) bytes

/-- The bytes are a form of the truth value. -/
def BoolForm (b : Bool) (bytes : Bytes) : Prop := Head.Form (.bool b) bytes

section

variable {s : String} {n : UInt64} {b : Bool} {bytes : Bytes}

theorem StringForm.reads (h : StringForm s bytes) : Reads readString bytes s := by
  cases h with
  | str h | bin h =>
    refine h.reads.bind ?_
    refine (reads_takeBytes (utf8Bytes s)).bind_pure ?_
    rw [ofUtf8?_utf8Bytes]
    exact Reads.pure s

theorem StringForm.startsOther (h : StringForm s bytes) : StartsOther bytes := by
  cases h with
  | str h | bin h => exact h.startsOther (by simp) _

theorem stringForm_writeString (hs : IsShortString s) : StringForm s (writeString s) :=
  .str (Head.form_writeStr hs)

theorem PositionForm.reads (h : PositionForm n bytes) : Reads readPosition bytes n := by
  have hvalue : Reads (Pure.pure (UInt64.ofNat n.toNat)) [] n := by
    rw [UInt64.ofNat_toNat]
    exact Reads.pure n
  rcases h with h | h
  · exact h.reads.bind_pure hvalue
  · refine h.reads.bind_pure ?_
    dsimp only
    rw [if_neg (by omega), Int.toNat_natCast]
    exact hvalue

theorem PositionForm.startsOther (h : PositionForm n bytes) : StartsOther bytes := by
  rw [← List.append_nil bytes]
  rcases h with h | h
  · exact h.startsOther (by simp) []
  · exact h.startsOther (by simp) []

theorem positionForm_writePosition (n : UInt64) : PositionForm n (writePosition n) :=
  Or.inl (Head.form_writeNatural n.toNat_lt)

theorem BoolForm.reads (h : BoolForm b bytes) : Reads readBool bytes b :=
  (Head.Form.reads h).bind_pure (Reads.pure b)

theorem boolForm_writeBool (b : Bool) : BoolForm b (writeBool b) := by
  cases b with
  | false => exact .whole (by simp [Head.wholeMarkers])
  | true => exact .whole (by simp [Head.wholeMarkers])

end

/-! ## Optional values and lists -/

/-- The bytes are nil, or a form of the value that is there. -/
inductive OptionForm {α : Type} (form : α → Bytes → Prop) : Option α → Bytes → Prop
  | none : OptionForm form none [0xc0]
  | some {a : α} {bytes : Bytes} (h : form a bytes) : OptionForm form (some a) bytes

/-- The bytes are an array of forms of the members. -/
inductive ListForm {α : Type} (form : α → Bytes → Prop) (as : List α) : Bytes → Prop
  | mk {head : Bytes} {items : List Bytes} (hhead : Head.Form (.array as.length) head)
      (hitems : List.Forall₂ form as items) : ListForm form as (head ++ items.flatten)

section

variable {α : Type} {form : α → Bytes → Prop} {write : α → Bytes} {read : Reader α} {bytes : Bytes}

/-- An optional value that does not start with nil is there. -/
theorem run_readOption_cons {b : UInt8} (hb : b ≠ 0xc0) (more : Bytes) :
    (readOption read).run (b :: more) = (some <$> read).run (b :: more) := by
  unfold readOption
  simp only [StateT.run]
  split
  · next heq => exact absurd (List.cons.inj heq).1 hb
  · rfl

theorem OptionForm.reads {a? : Option α} (h : OptionForm form a? bytes)
    (hread : ∀ {a bytes}, form a bytes → Reads read bytes a)
    (hstart : ∀ {a bytes}, form a bytes → StartsOther bytes) :
    Reads (readOption read) bytes a? := by
  intro rest
  cases h with
  | none => rfl
  | some h =>
    -- the reader decides by the first byte, which nil would be
    rcases hstart h with ⟨b, more, rfl, hb⟩
    rw [List.cons_append, run_readOption_cons hb]
    exact (hread h).map Option.some rest

theorem optionForm_writeOption {a? : Option α} (h : ∀ a ∈ a?, form a (write a)) :
    OptionForm form a? (writeOption write a?) := by
  cases a? with
  | none => exact .none
  | some a => exact .some (h a rfl)

theorem reads_readMany {as : List α} {items : List Bytes}
    (h : List.Forall₂ (fun a item => Reads read item a) as items) :
    Reads (readMany read as.length) items.flatten as := by
  induction h with
  | nil => exact Reads.pure []
  | cons hfirst hrest ih => exact hfirst.bind (ih.bind_pure (Reads.pure _))

theorem ListForm.reads {as : List α} (h : ListForm form as bytes)
    (hread : ∀ {a bytes}, form a bytes → Reads read bytes a) : Reads (readList read) bytes as := by
  cases h with
  | mk hhead hitems => exact hhead.reads.bind (reads_readMany (hitems.imp fun _ _ => hread))

theorem listForm_writeList {as : List α} (hlength : IsShort as.length)
    (h : ∀ a ∈ as, form a (write a)) : ListForm form as (writeList write as) := by
  unfold writeList
  rw [List.flatMap_def]
  refine .mk (Head.form_writeArray hlength) ?_
  rw [List.forall₂_map_right_iff, List.forall₂_same]
  exact h

end

/-! ## Values that are not wanted -/

/-- How many bytes stand behind a head that is no array and no map. -/
def Head.bytesBehind? : Head → Option Nat
  | .nil | .bool _ | .natural _ | .integer _ => some 0
  | .float size | .str size | .bin size | .ext size => some size
  | .array _ | .map _ => none

/-- How many values stand behind the head of an array or a map. -/
def Head.valuesBehind? : Head → Option Nat
  | .array size => some size
  | .map size => some (2 * size)
  | _ => none

/-- The bytes are a value of some form, in which no more than `nested` arrays and maps stand one in the
other. -/
inductive IsValue : (nested : Nat) → Bytes → Prop
  | flat {nested : Nat} {h : Head} {head content : Bytes} (hhead : h.Form head)
      (hcontent : h.bytesBehind? = some content.length) : IsValue nested (head ++ content)
  | container {nested : Nat} {h : Head} {head : Bytes} {values : List Bytes} (hhead : h.Form head)
      (hlength : h.valuesBehind? = some values.length)
      (hvalues : ∀ value ∈ values, IsValue nested value) :
      IsValue (nested + 1) (head ++ values.flatten)

theorem reads_times {step : Reader Unit} {values : List Bytes}
    (h : ∀ value ∈ values, Reads step value ()) :
    Reads (times step values.length) values.flatten () := by
  induction values with
  | nil => exact Reads.pure ()
  | cons value values ih =>
    rcases List.forall_mem_cons.1 h with ⟨hfirst, hrest⟩
    exact hfirst.bind (ih hrest)

/-- A value is skipped if it is not nested too deep. -/
theorem IsValue.reads_skip {nested depth : Nat} {bytes : Bytes} (h : IsValue nested bytes)
    (hdepth : nested + 2 ≤ depth) : Reads (skip depth) bytes () := by
  -- along the value; each container takes one from both
  induction h generalizing depth with
  | @flat nested h head content hhead hcontent =>
    obtain ⟨depth, rfl⟩ : ∃ d, depth = d + 1 := ⟨depth - 1, by omega⟩
    have htake : ∀ size, size = content.length →
        Reads (do let _ ← takeBytes size : Reader Unit) content () := by
      rintro size rfl
      exact (reads_takeBytes content).bind_pure (Reads.pure ())
    refine hhead.reads.bind ?_
    cases h with
    | nil | bool _ | natural _ | integer _ =>
      obtain rfl : content = [] := List.length_eq_zero_iff.1 (Option.some.inj hcontent).symm
      exact Reads.pure ()
    | float size | str size | bin size => exact htake size (Option.some.inj hcontent)
    | ext size =>
      dsimp only
      rw [if_neg (by omega)]
      exact htake size (Option.some.inj hcontent)
    | array size | map size => cases hcontent
  | @container nested h head values hhead hlength hvalues ih =>
    obtain ⟨depth, rfl⟩ : ∃ d, depth = d + 1 := ⟨depth - 1, by omega⟩
    have hinner : ∀ size, size = values.length →
        Reads (times (skip depth) size) values.flatten () := by
      rintro size rfl
      apply reads_times
      intro value hvalue
      exact ih value hvalue (by omega)
    refine hhead.reads.bind ?_
    cases h with
    | array size | map size =>
      dsimp only
      rw [if_neg (by omega)]
      exact hinner _ (Option.some.inj hlength)
    | nil | bool _ | natural _ | integer _ | float _ | str _ | bin _ | ext _ => cases hlength

end TextDesk.MessagePack
