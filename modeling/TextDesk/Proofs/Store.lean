import Mathlib.Data.List.Pairwise
import TextDesk.Store

/-! # Texts by name

In a store whose names are all different up to ASCII case, a name addresses at most one text, and
changing the text of a name changes that text only.
-/

namespace TextDesk

/-! ## Changing the first member -/

section

variable {α β : Type} {p : α → Bool} {f : α → α}

/-- What the change keeps of every member, it keeps of the list. -/
theorem map_modifyFirst {g : α → β} (hf : ∀ x, g (f x) = g x) (xs : List α) :
    (modifyFirst p f xs).map g = xs.map g := by
  induction xs with
  | nil => rfl
  | cons x xs ih =>
    unfold modifyFirst
    split
    · rw [List.map_cons, List.map_cons, hf]
    · rw [List.map_cons, List.map_cons, ih]

/-- The first member with the property changes at its place, and those in front of it and behind it stay. -/
theorem modifyFirst_append_cons {before behind : List α} {x : α} (hbefore : ∀ y ∈ before, p y = false)
    (hx : p x = true) : modifyFirst p f (before ++ x :: behind) = before ++ f x :: behind := by
  induction before with
  | nil => exact if_pos hx
  | cons y before ih =>
    rcases List.forall_mem_cons.1 hbefore with ⟨hy, hbefore⟩
    have hne : ¬ p y = true := by rw [hy]; decide
    rw [List.cons_append, List.cons_append, modifyFirst, if_neg hne, ih hbefore]

/-- If the property holds for no two members, then the first for which it holds is the only one. -/
theorem modifyFirst_eq_map {xs : List α} (h : xs.Pairwise fun x y => ¬ (p x = true ∧ p y = true)) :
    modifyFirst p f xs = xs.map fun x => if p x = true then f x else x := by
  induction xs with
  | nil => rfl
  | cons x xs ih =>
    rcases List.pairwise_cons.1 h with ⟨hx, hxs⟩
    unfold modifyFirst
    split
    · -- no later member has the property, so the rest of the list stays
      next hp =>
      have hsame : ∀ y ∈ xs, (if p y = true then f y else y) = id y := by
        intro y hy
        apply if_neg
        intro hpy
        exact hx y hy ⟨hp, hpy⟩
      rw [List.map_cons, if_pos hp, List.map_congr_left hsame, List.map_id]
    · next hp => rw [List.map_cons, if_neg hp, ih hxs]

end

namespace Store

variable {s : Store} {t u : Text} {name : String} {f : Text → Text}

/-! ## Names -/

/-- The names of the texts, in store order. -/
def names (s : Store) : List String := s.texts.map Text.name

/-- No two texts have the same name up to ASCII case. -/
def Distinct (s : Store) : Prop := s.names.Pairwise fun a b => sameName a b = false

/-- Two texts of one name are one text. -/
theorem Distinct.eq_of_sameName (h : s.Distinct) (ht : t ∈ s.texts) (hu : u ∈ s.texts)
    (htu : sameName t.name u.name = true) : t = u := by
  by_contra hne
  have hsymm : Std.Symm fun t u : Text => sameName t.name u.name = false := by
    constructor
    intro t u htu
    rw [sameName_comm, htu]
  have hdiff := (List.pairwise_map.1 h).forall ht hu hne
  rw [htu] at hdiff
  cases hdiff

/-- A name addresses the text that has it. -/
theorem Distinct.get?_eq_some_iff (h : s.Distinct) :
    s.get? name = some t ↔ t ∈ s.texts ∧ sameName t.name name = true := by
  constructor
  · intro hget
    have hname := List.find?_some hget
    exact ⟨List.mem_of_find?_eq_some hget, hname⟩
  · rintro ⟨ht, hname⟩
    have hsome : (s.get? name).isSome = true := List.find?_isSome.2 ⟨t, ht, hname⟩
    rcases Option.isSome_iff_exists.1 hsome with ⟨u, hu⟩
    have huname := List.find?_some hu
    have htu := h.eq_of_sameName ht (List.mem_of_find?_eq_some hu) (sameName_of_both hname huname)
    rw [hu, htu]

/-- A name addresses no text exactly if no text has it. -/
theorem get?_eq_none_iff : s.get? name = none ↔ ∀ n ∈ s.names, sameName n name = false := by
  simp [get?, names, List.find?_eq_none]

/-- The texts that a reference addresses are texts of the store. -/
theorem mem_of_mem_lookup {reference : String} (ht : t ∈ s.lookup reference) : t ∈ s.texts := by
  unfold lookup at ht
  split at ht
  · exact (List.mem_filter.1 ht).1
  · exact List.mem_of_find?_eq_some (Option.mem_toList.1 ht)

/-! ## Changes -/

/-- A change that keeps names keeps the names of the store. -/
theorem names_modify (hf : ∀ t, (f t).name = t.name) : (s.modify name f).names = s.names :=
  map_modifyFirst hf s.texts

/-- The text of the given name changes, and no other. -/
theorem Distinct.texts_modify (h : s.Distinct) :
    (s.modify name f).texts = s.texts.map fun t => if sameName t.name name = true then f t else t := by
  apply modifyFirst_eq_map
  apply (List.pairwise_map.1 h).imp
  rintro t u htu ⟨ht, hu⟩
  rw [sameName_of_both ht hu] at htu
  cases htu

/-- The text whose name is given changes at its place, and all other texts stay. -/
theorem Distinct.modify_append_cons {before behind : List Text}
    (h : Distinct ⟨before ++ t :: behind⟩) :
    (⟨before ++ t :: behind⟩ : Store).modify t.name f = ⟨before ++ f t :: behind⟩ := by
  have hbefore : ∀ u ∈ before, sameName u.name t.name = false := by
    intro u hu
    have hpairs := (List.pairwise_append.1 (List.pairwise_map.1 h)).2.2
    exact hpairs u hu t List.mem_cons_self
  exact congrArg Store.mk (modifyFirst_append_cons hbefore (sameName_refl t.name))

/-- A change that keeps names keeps them different. -/
theorem Distinct.modify (h : s.Distinct) (hf : ∀ t, (f t).name = t.name) :
    (s.modify name f).Distinct := by
  unfold Distinct
  rw [names_modify hf]
  exact h

/-- A new text whose name addresses none leaves the names different. -/
theorem Distinct.append (h : s.Distinct) (hnew : s.get? t.name = none) :
    Distinct ⟨s.texts ++ [t]⟩ := by
  have hold := get?_eq_none_iff.1 hnew
  unfold Distinct names at h ⊢
  rw [List.map_append]
  refine List.pairwise_append.2 ⟨h, List.pairwise_singleton _ _, ?_⟩
  intro n hn m hm
  obtain rfl : m = t.name := by simpa using hm
  exact hold n hn

end Store

end TextDesk
