import Mathlib.Data.List.Basic
import TextDesk.Listing

/-! # Telling listings apart

A printed value can be told from how it is written, and it also tells where it ends: none is written like
another with something behind it.  Only a number needs something behind it that is no digit, and inside a
listing that is always the case.  So values that are put together can be told apart again, up to whole
listings that are printed one behind the other.  Main statement: `join_render_inj`.
-/

namespace TextDesk.Listing

/-! ## Values that tell where they end -/

/-- What may stand behind a value.  A number would go on with a digit. -/
def Ends (rest : List Char) : Prop := ∀ c ∈ rest.head?, c.isDigit = false

/-- Of two written values, neither is the beginning of the other, unless they are the same. -/
def PrefixFree (x y : List Char) : Prop :=
  ∀ ⦃rest rest'⦄, Ends rest → Ends rest' → x ++ rest = y ++ rest' → x = y ∧ rest = rest'

/-- A way to write values that tells the value and where it ends. -/
def Readable {α : Type} (write : α → List Char) : Prop :=
  ∀ ⦃a b rest rest'⦄, Ends rest → Ends rest' → write a ++ rest = write b ++ rest' →
    a = b ∧ rest = rest'

theorem ends_nil : Ends [] := by
  intro c hc
  cases hc

theorem ends_cons {c : Char} (hc : c.isDigit = false) (rest : List Char) : Ends (c :: rest) := by
  intro d hd
  obtain rfl : c = d := Option.some.inj hd
  exact hc

section

variable {α : Type} {write : α → List Char}

theorem Readable.prefixFree (h : Readable write) (a b : α) : PrefixFree (write a) (write b) := by
  intro rest rest' hrest hrest' heq
  obtain ⟨rfl, hsame⟩ := h hrest hrest' heq
  exact ⟨rfl, hsame⟩

theorem Readable.injective (h : Readable write) : Function.Injective write := by
  intro a b heq
  have happend : write a ++ [] = write b ++ [] := by rw [heq]
  exact (h ends_nil ends_nil happend).1

/-- The same name in front of two values leaves them as they are. -/
theorem PrefixFree.field {x y : List Char} (h : PrefixFree x y) (name : String) :
    PrefixFree (field name x) (field name y) := by
  intro rest rest' hrest hrest' heq
  unfold Listing.field at heq ⊢
  simp only [List.append_assoc] at heq
  have hvalues := List.append_cancel_left (List.append_cancel_left heq)
  obtain ⟨rfl, hsame⟩ := h hrest hrest' hvalues
  exact ⟨rfl, hsame⟩

theorem field_inj {name : String} {x y : List Char} : field name x = field name y ↔ x = y := by
  unfold field
  exact List.append_right_inj _

end

/-! ## Strings -/

/-- The number of a digit below 16. -/
def hexValue (digit : Char) : Nat := "0123456789abcdef".toList.idxOf digit

/-- Reads one character of a string, as it is written there. -/
def readEscaped : List Char → Option (Char × List Char)
  | '\\' :: 'u' :: '0' :: '0' :: high :: low :: rest =>
    some (Char.ofNat (16 * hexValue high + hexValue low), rest)
  | '\\' :: letter :: rest => (shortEscapes.find? (·.2 == letter)).map (·.1, rest)
  | c :: rest => some (c, rest)
  | [] => none

/-- A character is written with a letter, with its number, or as it is. -/
theorem escape_cases (c : Char) :
    (∃ letter, (c, letter) ∈ shortEscapes ∧ escape c = ['\\', letter])
      ∨ (c.toNat < 0x20
        ∧ escape c = ['\\', 'u', '0', '0', hexDigit (c.toNat / 16), hexDigit (c.toNat % 16)])
      ∨ (c ≠ '"' ∧ c ≠ '\\' ∧ escape c = [c]) := by
  unfold escape
  cases hlookup : shortEscapes.lookup c with
  | some letter =>
    left
    rcases List.lookup_eq_some_iff.1 hlookup with ⟨before, behind, hescapes, -⟩
    refine ⟨letter, ?_, rfl⟩
    rw [hescapes]
    exact List.mem_append_right _ List.mem_cons_self
  | none =>
    right
    have hne : ∀ p ∈ shortEscapes, c ≠ p.1 := by
      intro p hp
      exact bne_iff_ne.1 (List.lookup_eq_none_iff.1 hlookup p hp)
    by_cases hcontrol : c.toNat < 0x20
    · exact .inl ⟨hcontrol, if_pos hcontrol⟩
    · exact .inr ⟨hne ('"', '"') (by decide), hne ('\\', '\\') (by decide), if_neg hcontrol⟩

theorem hexValue_hexDigit : ∀ n < 16, hexValue (hexDigit n) = n := by decide

/-- A character is read back from how it is written. -/
theorem readEscaped_escape (c : Char) (rest : List Char) :
    readEscaped (escape c ++ rest) = some (c, rest) := by
  rcases escape_cases c with ⟨letter, hmem, hescape⟩ | ⟨hcontrol, hescape⟩ | ⟨-, hslash, hescape⟩
  · rw [hescape]
    simp only [shortEscapes, List.mem_cons, List.not_mem_nil, or_false, Prod.mk.injEq] at hmem
    rcases hmem with ⟨rfl, rfl⟩ | ⟨rfl, rfl⟩ | ⟨rfl, rfl⟩ | ⟨rfl, rfl⟩ | ⟨rfl, rfl⟩ | ⟨rfl, rfl⟩
      | ⟨rfl, rfl⟩ <;> rfl
  · have hhigh : hexValue (hexDigit (c.toNat / 16)) = c.toNat / 16 :=
      hexValue_hexDigit _ (by omega)
    have hlow : hexValue (hexDigit (c.toNat % 16)) = c.toNat % 16 :=
      hexValue_hexDigit _ (by omega)
    rw [hescape]
    simp only [List.cons_append, List.nil_append, readEscaped]
    rw [hhigh, hlow, Nat.div_add_mod, Char.ofNat_toNat]
  · rw [hescape, List.singleton_append]
    unfold readEscaped
    split
    · next heq => exact absurd (List.cons.inj heq).1 hslash
    · next heq => exact absurd (List.cons.inj heq).1 hslash
    · next heq =>
      obtain ⟨rfl, rfl⟩ := List.cons.inj heq
      rfl
    · next heq => cases heq

/-- No character is written like the quote that ends a string. -/
theorem escape_append_ne_quote (c : Char) (rest behind : List Char) :
    escape c ++ rest ≠ '"' :: behind := by
  rcases escape_cases c with ⟨letter, -, hescape⟩ | ⟨-, hescape⟩ | ⟨hquote, -, hescape⟩
  · rw [hescape]
    intro heq
    exact absurd (List.cons.inj heq).1 (by decide)
  · rw [hescape]
    intro heq
    exact absurd (List.cons.inj heq).1 (by decide)
  · rw [hescape]
    intro heq
    exact hquote (List.cons.inj heq).1

/-- The characters up to the quote that ends a string are told from how they are written. -/
theorem flatMap_escape_inj {cs ds rest rest' : List Char}
    (h : cs.flatMap escape ++ '"' :: rest = ds.flatMap escape ++ '"' :: rest') :
    cs = ds ∧ rest = rest' := by
  induction cs generalizing ds with
  | nil =>
    cases ds with
    | nil => exact ⟨rfl, (List.cons.inj h).2⟩
    | cons d ds =>
      rw [List.flatMap_cons, List.append_assoc] at h
      exact absurd h.symm (escape_append_ne_quote d _ _)
  | cons c cs ih =>
    rw [List.flatMap_cons, List.append_assoc] at h
    cases ds with
    | nil => exact absurd h (escape_append_ne_quote c _ _)
    | cons d ds =>
      rw [List.flatMap_cons, List.append_assoc] at h
      -- both sides start with the same character
      have hread := congrArg readEscaped h
      rw [readEscaped_escape, readEscaped_escape] at hread
      obtain ⟨rfl, hmore⟩ := Prod.mk.inj (Option.some.inj hread)
      obtain ⟨rfl, hsame⟩ := ih hmore
      exact ⟨rfl, hsame⟩

/-- A string ends itself, whatever it holds. -/
theorem readable_quoted : Readable quoted := by
  intro s t rest rest' _ _ h
  unfold quoted at h
  simp only [List.cons_append, List.append_assoc, List.nil_append] at h
  obtain ⟨hchars, hsame⟩ := flatMap_escape_inj (List.cons.inj h).2
  exact ⟨String.toList_injective hchars, hsame⟩

/-! ## Other single values -/

theorem readable_boolean : Readable boolean := by
  have htrue : boolean true = ['t', 'r', 'u', 'e'] := rfl
  have hfalse : boolean false = ['f', 'a', 'l', 's', 'e'] := rfl
  intro a b rest rest' _ _ h
  cases a <;> cases b
  · exact ⟨rfl, List.append_cancel_left h⟩
  · rw [hfalse, htrue] at h
    exact absurd (List.cons.inj h).1 (by decide)
  · rw [hfalse, htrue] at h
    exact absurd (List.cons.inj h).1 (by decide)
  · exact ⟨rfl, List.append_cancel_left h⟩

/-- The digits of a number end where no digit stands behind them. -/
theorem takeWhile_isDigit_position (n : UInt64) {rest : List Char} (hrest : Ends rest) :
    (position n ++ rest).takeWhile Char.isDigit = position n := by
  have hdigits : ∀ c ∈ position n, c.isDigit = true := by
    intro c hc
    exact Nat.isDigit_of_mem_toDigits (by decide) (by decide) hc
  have hnone : rest.takeWhile Char.isDigit = [] := by
    cases rest with
    | nil => rfl
    | cons c rest =>
      have hc := hrest c rfl
      exact List.takeWhile_cons_of_neg (by simp [hc])
  rw [List.takeWhile_append_of_pos hdigits, hnone, List.append_nil]

theorem position_injective : Function.Injective position := by
  intro n m h
  have hvalue := congrArg (Nat.ofDigitChars 10 · 0) h
  unfold position at hvalue
  rw [Nat.ofDigitChars_ten_toDigits, Nat.ofDigitChars_ten_toDigits] at hvalue
  exact UInt64.toNat_inj.1 hvalue

theorem readable_position : Readable position := by
  intro n m rest rest' hrest hrest' h
  have hdigits := congrArg (List.takeWhile Char.isDigit) h
  rw [takeWhile_isDigit_position n hrest, takeWhile_isDigit_position m hrest'] at hdigits
  obtain rfl := position_injective hdigits
  exact ⟨rfl, List.append_cancel_left h⟩

/-- A missing value is told from one that is written with another first character. -/
theorem Readable.nullable {α : Type} {write : α → List Char} (h : Readable write)
    (hfirst : ∀ a, ∃ c cs, write a = c :: cs ∧ c ≠ 'n') : Readable (nullable write) := by
  have hnull : Listing.nullable write none = ['n', 'u', 'l', 'l'] := rfl
  have hne : ∀ a rest rest', Listing.nullable write none ++ rest ≠ write a ++ rest' := by
    intro a rest rest' heq
    rcases hfirst a with ⟨c, cs, hwrite, hc⟩
    rw [hnull, hwrite] at heq
    exact hc (List.cons.inj heq).1.symm
  intro a b rest rest' hrest hrest' heq
  cases a with
  | none =>
    cases b with
    | none => exact ⟨rfl, List.append_cancel_left heq⟩
    | some b => exact absurd heq (hne b rest rest')
  | some a =>
    cases b with
    | none => exact absurd heq.symm (hne a rest' rest)
    | some b =>
      obtain ⟨rfl, hsame⟩ := h hrest hrest' heq
      exact ⟨rfl, hsame⟩

theorem readable_nullable_quoted : Readable (nullable quoted) := by
  apply readable_quoted.nullable
  intro s
  exact ⟨'"', _, rfl, by decide⟩

theorem readable_nullable_position : Readable (nullable position) := by
  apply readable_position.nullable
  intro n
  cases hdigits : position n with
  | nil => exact absurd hdigits Nat.toDigits_ne_nil
  | cons c cs =>
    have hc : c.isDigit = true := by
      apply Nat.isDigit_of_mem_toDigits (b := 10) (n := n.toNat) (by decide) (by decide)
      rw [← position, hdigits]
      exact List.mem_cons_self
    refine ⟨c, cs, rfl, ?_⟩
    rintro rfl
    exact absurd hc (by decide)

/-! ## Containers -/

/-- What stands behind a member: the members that follow, and the closing bracket. -/
def behindMember (closing : Char) (indent : Nat) : List (List Char) → List Char
  | [] => newLine indent ++ [closing]
  | member :: members =>
    ',' :: (newLine (indent + 2) ++ member ++ behindMember closing indent members)

theorem bracketed_cons (opening closing : Char) (indent : Nat) (member : List Char)
    (members : List (List Char)) :
    bracketed opening closing indent (member :: members)
      = opening :: (newLine (indent + 2) ++ member ++ behindMember closing indent members) := by
  have htail : ∀ members member,
      [','].intercalate ((member :: members).map (newLine (indent + 2) ++ ·)) ++ newLine indent
          ++ [closing]
        = newLine (indent + 2) ++ member ++ behindMember closing indent members := by
    intro members
    induction members with
    | nil =>
      intro member
      simp [behindMember]
    | cons next members ih =>
      intro member
      have hnext := ih next
      rw [List.map_cons] at hnext
      rw [List.map_cons, List.map_cons, List.intercalate_cons_cons, behindMember, ← hnext]
      simp
  unfold bracketed
  rw [if_neg (by simp), htail]

/-- Behind a member there is a comma or a new line. -/
theorem ends_behindMember (closing : Char) (indent : Nat) (members : List (List Char))
    (rest : List Char) : Ends (behindMember closing indent members ++ rest) := by
  cases members with
  | nil => exact ends_cons (by decide) _
  | cons member members => exact ends_cons (by decide) _

section

variable {closing : Char} {indent : Nat}

/-- Members that can be told apart one by one can be told apart together. -/
theorem behindMember_inj {xs ys : List (List Char)} (h : ∀ p ∈ xs.zip ys, PrefixFree p.1 p.2)
    {rest rest' : List Char}
    (heq : behindMember closing indent xs ++ rest = behindMember closing indent ys ++ rest') :
    xs = ys ∧ rest = rest' := by
  induction xs generalizing ys with
  | nil =>
    cases ys with
    | nil => exact ⟨rfl, List.append_cancel_left heq⟩
    | cons y ys => exact absurd (List.cons.inj heq).1 (by decide)
  | cons x xs ih =>
    cases ys with
    | nil => exact absurd (List.cons.inj heq).1 (by decide)
    | cons y ys =>
      rw [List.zip_cons_cons, List.forall_mem_cons] at h
      have hfirst : PrefixFree x y := h.1
      simp only [behindMember, List.cons_append, List.append_assoc] at heq
      have hmembers := List.append_cancel_left (List.cons.inj heq).2
      obtain ⟨rfl, hmore⟩ :=
        hfirst (ends_behindMember _ _ xs rest) (ends_behindMember _ _ ys rest') hmembers
      obtain ⟨rfl, hsame⟩ := ih h.2 hmore
      exact ⟨rfl, hsame⟩

/-- Values whose members can be told apart can be told apart, and a container ends itself. -/
theorem readable_bracketed {α : Type} {members : α → List (List Char)} {opening : Char}
    (hclosing : closing ≠ '\n')
    (hmembers : ∀ a b, ∀ p ∈ (members a).zip (members b), PrefixFree p.1 p.2)
    (hinj : Function.Injective members) :
    Readable fun a => bracketed opening closing indent (members a) := by
  have hnil : bracketed opening closing indent [] = [opening, closing] := rfl
  -- only the empty container has the closing bracket directly behind the opening one
  have hne : ∀ member more rest rest', bracketed opening closing indent [] ++ rest
      ≠ bracketed opening closing indent (member :: more) ++ rest' := by
    intro member more rest rest' heq
    rw [hnil, bracketed_cons] at heq
    exact hclosing (List.cons.inj (List.cons.inj heq).2).1
  intro a b rest rest' _ _ heq
  have happ := hmembers a b
  suffices hsame : members a = members b ∧ rest = rest' from ⟨hinj hsame.1, hsame.2⟩
  dsimp only at heq
  generalize members a = xs at heq happ
  generalize members b = ys at heq happ
  cases xs with
  | nil =>
    cases ys with
    | nil => exact ⟨rfl, List.append_cancel_left heq⟩
    | cons y ys => exact absurd heq (hne y ys rest rest')
  | cons x xs =>
    cases ys with
    | nil => exact absurd heq.symm (hne x xs rest' rest)
    | cons y ys =>
      rw [List.zip_cons_cons, List.forall_mem_cons] at happ
      have hfirst : PrefixFree x y := happ.1
      rw [bracketed_cons, bracketed_cons] at heq
      simp only [List.cons_append, List.append_assoc] at heq
      have hvalues := List.append_cancel_left (List.cons.inj heq).2
      obtain ⟨rfl, hmore⟩ :=
        hfirst (ends_behindMember _ _ xs rest) (ends_behindMember _ _ ys rest') hvalues
      obtain ⟨rfl, hsame⟩ := behindMember_inj happ.2 hmore
      exact ⟨rfl, hsame⟩

end

theorem Readable.array {α : Type} {item : α → List Char} (h : Readable item) (indent : Nat) :
    Readable fun items : List α => array indent (items.map item) := by
  apply readable_bracketed (by decide)
  · intro xs ys p hp
    rw [List.zip_map, List.mem_map] at hp
    obtain ⟨⟨x, y⟩, -, rfl⟩ := hp
    exact h.prefixFree x y
  · exact List.map_injective_iff.2 h.injective

/-! ## Texts -/

theorem readable_destination (indent : Nat) : Readable (destination indent) := by
  unfold destination object
  apply readable_bracketed (by decide)
  · intro d e
    simp only [List.zip_cons_cons, List.zip_nil_left, List.forall_mem_cons]
    exact ⟨(readable_nullable_position.prefixFree _ _).field _,
      (readable_nullable_quoted.prefixFree _ _).field _, by simp⟩
  · intro d e h
    simp only [List.cons.injEq, field_inj, and_true] at h
    cases d
    cases e
    obtain rfl := readable_nullable_position.injective h.1
    obtain rfl := readable_nullable_quoted.injective h.2
    rfl

theorem readable_cursor (indent : Nat) : Readable (cursor indent) := by
  have hends := readable_destination (indent + 2)
  unfold cursor object
  apply readable_bracketed (by decide)
  · intro c d
    simp only [List.zip_cons_cons, List.zip_nil_left, List.forall_mem_cons]
    exact ⟨(readable_quoted.prefixFree _ _).field _, (readable_nullable_quoted.prefixFree _ _).field _,
      (hends.prefixFree _ _).field _, (readable_boolean.prefixFree _ _).field _,
      (hends.prefixFree _ _).field _, by simp⟩
  · intro c d h
    simp only [List.cons.injEq, field_inj, and_true] at h
    rcases h with ⟨hname, htarget, hstart, hahead, hstop⟩
    cases c
    cases d
    obtain rfl := readable_quoted.injective hname
    obtain rfl := readable_nullable_quoted.injective htarget
    obtain rfl := hends.injective hstart
    obtain rfl := readable_boolean.injective hahead
    obtain rfl := hends.injective hstop
    rfl

theorem readable_text (indent : Nat) : Readable (text indent) := by
  have hcursors := (readable_cursor (indent + 4)).array (indent + 2)
  unfold text object
  apply readable_bracketed (by decide)
  · intro t u
    simp only [List.zip_cons_cons, List.zip_nil_left, List.forall_mem_cons]
    exact ⟨(readable_quoted.prefixFree _ _).field _, (readable_quoted.prefixFree _ _).field _,
      (hcursors.prefixFree t.cursors u.cursors).field _, by simp⟩
  · intro t u h
    simp only [List.cons.injEq, field_inj, and_true] at h
    rcases h with ⟨hname, hdata, hsame⟩
    cases t
    cases u
    obtain rfl := readable_quoted.injective hname
    obtain rfl := readable_quoted.injective hdata
    obtain rfl := hcursors.injective hsame
    rfl

/-! ## Listings one behind the other -/

/-- A listing tells its texts, and where it ends. -/
theorem render_append_inj {texts others : List Text} {rest rest' : List Char}
    (h : (render texts).toList ++ rest = (render others).toList ++ rest') :
    texts = others ∧ rest = rest' := by
  have harray := (readable_text 2).array 0
  unfold render at h
  simp only [String.toList_ofList, List.append_assoc, List.singleton_append] at h
  obtain ⟨hsame, hrest⟩ := harray (ends_cons (by decide) _) (ends_cons (by decide) _) h
  exact ⟨hsame, (List.cons.inj hrest).2⟩

/-- Every listing has characters. -/
theorem toList_render_ne_nil (texts : List Text) : (render texts).toList ≠ [] := by
  unfold render
  rw [String.toList_ofList]
  exact List.append_ne_nil_of_right_ne_nil _ (List.cons_ne_nil _ _)

/-- Listings that are printed one behind the other tell how many they are, and the texts of each. -/
theorem join_render_inj (prints others : List (List Text)) :
    String.join (prints.map render) = String.join (others.map render) ↔ prints = others := by
  constructor
  · intro h
    have hchars := congrArg String.toList h
    rw [String.toList_join, String.toList_join] at hchars
    clear h
    -- the first listings are equal and end together, and so on behind them
    induction prints generalizing others with
    | nil =>
      cases others with
      | nil => rfl
      | cons texts others =>
        have hempty := (List.append_eq_nil_iff.1 hchars.symm).1
        exact absurd hempty (toList_render_ne_nil texts)
    | cons texts prints ih =>
      cases others with
      | nil =>
        have hempty := (List.append_eq_nil_iff.1 hchars).1
        exact absurd hempty (toList_render_ne_nil texts)
      | cons found others =>
        rw [List.map_cons, List.map_cons, List.flatMap_cons, List.flatMap_cons] at hchars
        obtain ⟨rfl, hmore⟩ := render_append_inj hchars
        rw [ih others hmore]
  · rintro rfl
    rfl

end TextDesk.Listing
