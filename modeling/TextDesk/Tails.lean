/-! # Tables over the tails of a list

Whether a text fits some description often hangs on whether its tails fit the rest of the description.
A table answers such a question for every tail at once, the longest tail first, so that each answer is
found only once.  Main statements: how a table is looked up, and how tables are put together.
-/

namespace TextDesk

variable {α β γ : Type}

/-- The value of `f` on every tail of a list, the whole list first and the empty list last. -/
def onTails (f : List α → β) : List α → List β
  | [] => [f []]
  | a :: as => f (a :: as) :: onTails f as

/-- A table starts with the value on the whole list. -/
theorem head?_onTails (f : List α → β) (as : List α) : (onTails f as).head? = some (f as) := by
  cases as <;> rfl

/-- The entry at `n` is the value on the list without its first `n` members. -/
theorem getElem?_onTails (f : List α → β) {as : List α} {n : Nat} (h : n ≤ as.length) :
    (onTails f as)[n]? = some (f (as.drop n)) := by
  induction as generalizing n with
  | nil => simp_all [onTails]
  | cons a as ih =>
    cases n with
    | zero => simp [onTails]
    | succ n => simpa [onTails] using ih (Nat.le_of_succ_le_succ h)

/-- Changing every entry is changing the values. -/
theorem map_onTails (g : β → γ) (f : List α → β) (as : List α) :
    (onTails f as).map g = onTails (fun t => g (f t)) as := by
  induction as with
  | nil => rfl
  | cons a as ih => simp [onTails, ih]

/-- Two tables are joined entry by entry. -/
theorem zipWith_onTails {δ : Type} (g : β → γ → δ) (f : List α → β) (f' : List α → γ)
    (as : List α) :
    (onTails f as).zipWith g (onTails f' as) = onTails (fun t => g (f t) (f' t)) as := by
  induction as with
  | nil => rfl
  | cons a as ih => simp [onTails, ih]

end TextDesk
