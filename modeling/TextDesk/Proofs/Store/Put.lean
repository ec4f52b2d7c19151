import Mathlib.Data.List.Basic
import TextDesk.Proofs.Store

/-! # Stores as maps

A store is a map from names, up to ASCII case, to texts, and it keeps the names in order.  Each
operation puts one text under one name and leaves the rest of the map and the order as they are, or
it fails because a text is missing.  Main statements: what each operation puts, and that in a store
of different names nothing is left open by that.
-/

namespace TextDesk

/-! ## Searching behind a change -/

section

variable {α : Type} {p q : α → Bool} {f : α → α}

/-- The first member with the property has been changed, if the change keeps the property. -/
theorem find?_modifyFirst (hf : ∀ x, p (f x) = p x) (xs : List α) :
    (modifyFirst p f xs).find? p = (xs.find? p).map f := by
  induction xs with
  | nil => rfl
  | cons x xs ih =>
    unfold modifyFirst
    by_cases hp : p x = true
    · have hpf : p (f x) = true := by rw [hf, hp]
      rw [if_pos hp, List.find?_cons_of_pos hpf, List.find?_cons_of_pos hp, Option.map_some]
    · rw [if_neg hp, List.find?_cons_of_neg hp, List.find?_cons_of_neg hp, ih]

/-- Members with another property are found as before. -/
theorem find?_modifyFirst_of_disjoint (hf : ∀ x, q (f x) = q x)
    (hpq : ∀ x, p x = true → q x = false) (xs : List α) :
    (modifyFirst p f xs).find? q = xs.find? q := by
  induction xs with
  | nil => rfl
  | cons x xs ih =>
    unfold modifyFirst
    by_cases hp : p x = true
    · -- neither the member nor what it becomes is what is searched for
      have hq : ¬ q x = true := by rw [hpq x hp]; decide
      have hqf : ¬ q (f x) = true := by rw [hf]; exact hq
      rw [if_pos hp, List.find?_cons_of_neg hqf, List.find?_cons_of_neg hq]
    · rw [if_neg hp, List.find?_cons, List.find?_cons, ih]

end

namespace Store

variable {s s' s₁ s₂ : Store} {t old : Text} {name : String} {f : Text → Text}

/-- Two spellings of a name address the same text. -/
theorem get?_congr {a b : String} (h : sameName a b = true) (s : Store) : s.get? a = s.get? b := by
  have hsame : (fun t : Text => sameName t.name a) = fun t => sameName t.name b := by
    funext t
    rw [Bool.eq_iff_iff]
    constructor
    · intro hta
      exact sameName_trans hta h
    · intro htb
      exact sameName_of_both htb h
  unfold get?
  rw [hsame]

/-- A store with different names is determined by its names, in order, and the texts they address. -/
theorem Distinct.ext (h : s.Distinct) (h' : s'.Distinct) (hnames : s.names = s'.names)
    (hget : ∀ m, s.get? m = s'.get? m) : s = s' := by
  have htexts : ∀ {u : Store}, u.Distinct → u.names.map u.get? = u.texts.map some := by
    intro u hu
    unfold names
    rw [List.map_map]
    apply List.map_congr_left
    intro t ht
    exact hu.get?_eq_some_iff.2 ⟨ht, sameName_refl t.name⟩
  have hsome : s.texts.map some = s'.texts.map some := by
    rw [← htexts h, ← htexts h', ← hnames, funext hget]
  rcases s with ⟨texts⟩
  rcases s' with ⟨texts'⟩
  have heq : texts = texts' := List.map_injective_iff.2 (fun _ _ => Option.some.inj) hsome
  rw [heq]

/-! ## Putting a text under a name -/

/-- The second store is the first with the text put under the name. -/
structure Put (s : Store) (name : String) (t : Text) (s' : Store) : Prop where
  /-- The name addresses the text in every spelling, and any other name what it addressed before. -/
  get? : ∀ m, s'.get? m = if sameName name m = true then some t else s.get? m
  /-- Names are neither removed nor changed nor moved; one that addressed no text is added last. -/
  names : s'.names = if (s.get? name).isSome = true then s.names else s.names ++ [t.name]
  /-- Different names stay different. -/
  distinct : s.Distinct → s'.Distinct

/-- With different names, there is only one way to put a text under a name. -/
theorem Put.unique (h : s.Distinct) (h₁ : s.Put name t s₁) (h₂ : s.Put name t s₂) : s₁ = s₂ := by
  refine Distinct.ext (h₁.distinct h) (h₂.distinct h) ?_ ?_
  · rw [h₁.names, h₂.names]
  · intro m
    rw [h₁.get?, h₂.get?]

/-- Changing the text of a name puts the changed text under it. -/
theorem put_modify (hget : s.get? name = some old) (hf : ∀ t, (f t).name = t.name) :
    s.Put name (f old) (s.modify name f) := by
  refine ⟨?_, ?_, fun h => h.modify hf⟩
  · intro m
    have hkeeps : ∀ n t, sameName (f t).name n = sameName t.name n := by
      intro n t
      rw [hf]
    by_cases hm : sameName name m = true
    · have hfound : (s.modify name f).get? name = (s.get? name).map f :=
        find?_modifyFirst (hkeeps name) s.texts
      rw [if_pos hm, ← get?_congr hm, hfound, hget, Option.map_some]
    · rw [if_neg hm]
      refine find?_modifyFirst_of_disjoint (hkeeps m) ?_ s.texts
      -- a text of both names would make them the same
      intro t ht
      by_contra htm
      rw [Bool.not_eq_false] at htm
      rw [sameName_comm] at ht
      exact hm (sameName_trans ht htm)
  · rw [names_modify hf, hget, Option.isSome_some, if_pos rfl]

/-- A changed text is addressed by the name that addressed it, if the change keeps names. -/
theorem get?_modify (hname : ∀ t, (f t).name = t.name) (hget : s.get? name = some t) :
    (s.modify name f).get? name = some (f t) := by
  rw [(put_modify hget hname).get?, if_pos (sameName_refl name)]

/-- Adding a text behind the others puts it under its name, if that addressed no text. -/
theorem put_append (hnew : s.get? t.name = none) : s.Put t.name t ⟨s.texts ++ [t]⟩ := by
  refine ⟨?_, ?_, fun h => h.append hnew⟩
  · intro m
    have hsearch : (⟨s.texts ++ [t]⟩ : Store).get? m
        = (s.get? m).or ([t].find? (sameName ·.name m)) := List.find?_append
    rw [hsearch]
    by_cases hm : sameName t.name m = true
    · have hself : [t].find? (sameName ·.name m) = some t := List.find?_cons_of_pos hm
      rw [if_pos hm, ← get?_congr hm, hnew, Option.none_or, hself]
    · have hnone : [t].find? (sameName ·.name m) = none := List.find?_cons_of_neg hm
      rw [if_neg hm, hnone, Option.or_none]
  · simp [names, hnew]

/-! ## Operations -/

/-- An added text gives its data, and its cursors if there are any, to a text that has its name. -/
theorem put_addText (s : Store) (t : Text) :
    s.Put t.name
      (match s.get? t.name with
        | none => t
        | some old => { old with
            data := t.data, cursors := if t.cursors.isEmpty then old.cursors else t.cursors })
      (s.addText t) := by
  unfold addText
  cases hget : s.get? t.name with
  | none => exact put_append hget
  | some old => exact put_modify (f := (replaceData · t)) hget (fun _ => rfl)

/-- The name of an added text addresses a text with its data. -/
theorem data_addText (s : Store) (t : Text) :
    ((s.addText t).get? t.name).map Text.data = some t.data := by
  rw [(put_addText s t).get?, if_pos (sameName_refl t.name), Option.map_some]
  split <;> rfl

/-- Formatting puts the reflowed text under the name, if it addresses one. -/
theorem put_format (s : Store) (name : String) (separators : Option (List String)) :
    match s.get? name with
    | none => s.format name separators = .error (.textNotFound name)
    | some old => ∃ s', s.format name separators = .ok s'
        ∧ s.Put name { old with data := reflow (separators.getD standardSeparators) old.data } s' := by
  unfold format
  cases hget : s.get? name with
  | none => rfl
  | some old =>
    refine ⟨_, rfl, ?_⟩
    exact put_modify
      (f := fun t => { t with data := reflow (separators.getD standardSeparators) t.data })
      hget (fun _ => rfl)

/-- Placing a cursor puts the target with the cursor added last under its name, if there is a target
and it addresses a text. -/
theorem put_addCursor (s : Store) (cursor : Cursor) :
    match cursor.target with
    | none => s.addCursor cursor = .error (.textNotFound ("target of cursor " ++ cursor.name))
    | some target =>
      match s.get? target with
      | none => s.addCursor cursor = .error (.textNotFound target)
      | some old => ∃ s', s.addCursor cursor = .ok s'
          ∧ s.Put target
            { old with cursors := old.cursors.filter (·.name != cursor.name) ++ [cursor] } s' := by
  unfold addCursor
  cases htarget : cursor.target with
  | none => rfl
  | some target =>
    dsimp only
    cases hget : s.get? target with
    | none => rfl
    | some old => exact ⟨_, rfl, put_modify (f := placeCursor cursor) hget (fun _ => rfl)⟩

/-- Sending puts the text with the data appended, or a new text of that data, under the name of the
target, if the source addresses a text. -/
theorem put_sendText (s : Store) (source target : String) :
    match s.get? source with
    | none => s.sendText source target = .error (.textNotFound source)
    | some sender => ∃ s', s.sendText source target = .ok s'
        ∧ s.Put target
          (match s.get? target with
            | none => { name := target, data := sender.data }
            | some old => { old with
                data := if old.data.isEmpty then sender.data
                  else old.data ++ "\n" ++ sender.data }) s' := by
  unfold sendText
  cases hsource : s.get? source with
  | none => rfl
  | some sender =>
    dsimp only
    cases htarget : s.get? target with
    | none => exact ⟨_, rfl, put_append (t := { name := target, data := sender.data }) htarget⟩
    | some old => exact ⟨_, rfl, put_modify (f := appendData sender.data) htarget (fun _ => rfl)⟩

/-- Every operation puts one text under one name, which leaves all other names alone, or fails because
it finds no text. -/
theorem operations_put_one_text (s : Store) :
    (∀ t : Text, s.Put t.name
        (match s.get? t.name with
          | none => t
          | some old => { old with
              data := t.data, cursors := if t.cursors.isEmpty then old.cursors else t.cursors })
        (s.addText t))
      ∧ (∀ name separators,
        match s.get? name with
        | none => s.format name separators = .error (.textNotFound name)
        | some old => ∃ s', s.format name separators = .ok s'
            ∧ s.Put name
              { old with data := reflow (separators.getD standardSeparators) old.data } s')
      ∧ (∀ cursor : Cursor,
        match cursor.target with
        | none => s.addCursor cursor = .error (.textNotFound ("target of cursor " ++ cursor.name))
        | some target =>
          match s.get? target with
          | none => s.addCursor cursor = .error (.textNotFound target)
          | some old => ∃ s', s.addCursor cursor = .ok s'
              ∧ s.Put target
                { old with cursors := old.cursors.filter (·.name != cursor.name) ++ [cursor] } s')
      ∧ ∀ source target,
        match s.get? source with
        | none => s.sendText source target = .error (.textNotFound source)
        | some sender => ∃ s', s.sendText source target = .ok s'
            ∧ s.Put target
              (match s.get? target with
                | none => { name := target, data := sender.data }
                | some old => { old with
                    data := if old.data.isEmpty then sender.data
                      else old.data ++ "\n" ++ sender.data }) s' :=
  ⟨put_addText s, put_format s, put_addCursor s, put_sendText s⟩

end Store

end TextDesk
