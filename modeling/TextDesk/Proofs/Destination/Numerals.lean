import Mathlib.Data.Nat.Digits.Defs
import TextDesk.Proofs.Destination

/-! # Numerals among the tokens

A token is read as a position if it is a numeral of a number below `2 ^ 64`, however many zeros stand in
front of it, and as itself if it is anything else.  What a numeral denotes is said by the places of its
digits, and not by reading them from left to right.

* `position_ofToken_iff`: the position of a token is the number of which the token is a numeral;
* `dropsZeros_repr`: a number is written as its numerals are without leading zeros;
* `ofToken_tells_numerals`: both together, and that reading again what is written changes nothing.
-/

namespace TextDesk.Destination

variable {token : String} {digits : List Char} {n : Nat} {c : Char}

/-! ## Tokens that are numerals -/

/-- The number that digits denote by their places: the last counts ones, the one before it tens, and so
on. -/
def placeValue (digits : List Char) : Nat :=
  Nat.ofDigits 10 (digits.reverse.map fun c => c.toNat - '0'.toNat)

/-- A token is a numeral of `n`: it has digits only, at least one, and their places make up `n`. -/
structure IsNumeral (token : List Char) (n : Nat) : Prop where
  ne_nil : token ≠ []
  isDigit : ∀ c ∈ token, c.isDigit = true
  value : placeValue token = n

/-- Digits read from left to right behind a number push the number on by their places. -/
theorem ofDigitChars_eq (digits : List Char) (n : Nat) :
    Nat.ofDigitChars 10 digits n = placeValue digits + 10 ^ digits.length * n := by
  induction digits generalizing n with
  | nil => simp [Nat.ofDigitChars, placeValue]
  | cons c digits ih =>
    have hplace : placeValue (c :: digits)
        = placeValue digits + 10 ^ digits.length * (c.toNat - '0'.toNat) := by
      simp [placeValue, Nat.ofDigits_append]
    rw [Nat.ofDigitChars_cons, ih, hplace, List.length_cons, pow_succ]
    ring

/-- Reading digits from left to right gives each its place. -/
theorem digitsValue_eq_placeValue (digits : List Char) :
    digitsValue digits = placeValue digits := by
  rw [digitsValue, ofDigitChars_eq, Nat.mul_zero, Nat.add_zero]

/-- A token is read as a position if it is a numeral of a number below `2 ^ 64`. -/
theorem isPosition_iff {token : List Char} :
    isPosition token = true ↔ ∃ n, IsNumeral token n ∧ n < 2 ^ 64 := by
  simp only [isPosition, digitsValue_eq_placeValue, Bool.and_eq_true, Bool.not_eq_true',
    List.isEmpty_eq_false_iff, List.all_eq_true, decide_eq_true_eq]
  constructor
  · rintro ⟨⟨hne, hdigits⟩, hsize⟩
    exact ⟨placeValue token, ⟨hne, hdigits, rfl⟩, hsize⟩
  · rintro ⟨n, ⟨hne, hdigits, rfl⟩, hsize⟩
    exact ⟨⟨hne, hdigits⟩, hsize⟩

/-! ## What a token denotes -/

/-- A numeral of a number below `2 ^ 64` denotes the position of that number. -/
theorem ofToken_of_isNumeral (h : IsNumeral token.toList n) (hn : n < 2 ^ 64) :
    ofToken token = { position := some (UInt64.ofNat n) } := by
  have hne : token.toList.isEmpty = false := by simpa using h.ne_nil
  unfold ofToken
  rw [hne, if_neg (by decide), if_pos (isPosition_iff.2 ⟨n, h, hn⟩), digitsValue_eq_placeValue,
    h.value]

/-- Any other token that is not empty denotes itself. -/
theorem ofToken_of_not_isNumeral (hne : token ≠ "")
    (h : ¬ ∃ n, IsNumeral token.toList n ∧ n < 2 ^ 64) : ofToken token = { word := some token } := by
  have hempty : token.toList.isEmpty = false := by simpa using hne
  rw [← isPosition_iff] at h
  unfold ofToken
  rw [hempty, if_neg (by decide), if_neg h]

/-- The position that a token denotes is the number of which the token is a numeral. -/
theorem position_ofToken_iff :
    (ofToken token).position.map UInt64.toNat = some n ↔ IsNumeral token.toList n ∧ n < 2 ^ 64 := by
  by_cases hpos : ∃ m, IsNumeral token.toList m ∧ m < 2 ^ 64
  · rcases hpos with ⟨m, hm, hsize⟩
    rw [ofToken_of_isNumeral hm hsize, Option.map_some, UInt64.toNat_ofNat_of_lt' hsize]
    constructor
    · rintro ⟨⟩
      exact ⟨hm, hsize⟩
    · rintro ⟨hn, -⟩
      rw [← hm.value, hn.value]
  · -- no position is set, for the empty token and for one that denotes itself
    have hnone : (ofToken token).position = none := by
      by_cases hne : token = ""
      · subst hne
        rfl
      · rw [ofToken_of_not_isNumeral hne hpos]
    rw [hnone, Option.map_none]
    constructor
    · intro h
      cases h
    · intro h
      exact absurd ⟨n, h⟩ hpos

/-! ## Leading zeros -/

/-- The digits `shown` are `digits` without leading zeros; of zeros alone the last one stays. -/
def DropsZeros (digits shown : List Char) : Prop :=
  ∃ k, digits = List.replicate k '0' ++ shown ∧ shown ≠ []
    ∧ (shown.head? = some '0' → shown = ['0'])

/-- A digit is the only digit of the number that it stands for. -/
theorem toDigits_of_isDigit (hc : c.isDigit = true) :
    c.toNat - '0'.toNat < 10 ∧ Nat.toDigits 10 (c.toNat - '0'.toNat) = [c] := by
  have hrange := Char.isDigit_iff_toNat.1 hc
  have hzero : '0'.toNat = 48 := rfl
  have hnine : '9'.toNat = 57 := rfl
  have hlt : c.toNat - '0'.toNat < 10 := by omega
  have hchar : Nat.digitChar (c.toNat - '0'.toNat) = c := by
    rw [← Char.toNat_inj, Nat.toNat_digitChar_of_lt_ten hlt]
    omega
  exact ⟨hlt, by rw [Nat.toDigits_of_lt_base hlt, hchar]⟩

/-- Digits read behind a number other than zero stand behind the digits of that number. -/
theorem toDigits_ofDigitChars (hn : 0 < n) (h : ∀ c ∈ digits, c.isDigit = true) :
    Nat.toDigits 10 (Nat.ofDigitChars 10 digits n) = Nat.toDigits 10 n ++ digits := by
  induction digits generalizing n with
  | nil => simp [Nat.ofDigitChars]
  | cons c digits ih =>
    rcases List.forall_mem_cons.1 h with ⟨hc, hdigits⟩
    rcases toDigits_of_isDigit hc with ⟨hlt, hdigit⟩
    have hpos : 0 < 10 * n + (c.toNat - '0'.toNat) := by omega
    calc Nat.toDigits 10 (Nat.ofDigitChars 10 (c :: digits) n)
        = Nat.toDigits 10 (10 * n + (c.toNat - '0'.toNat)) ++ digits := by
          rw [Nat.ofDigitChars_cons, ih hpos hdigits]
      _ = Nat.toDigits 10 n ++ [c] ++ digits := by
          rw [← Nat.toDigits_append_toDigits (by decide) hn hlt, hdigit]
      _ = Nat.toDigits 10 n ++ c :: digits := by
          rw [List.append_assoc, List.singleton_append]

/-- A number is written as each of its numerals is without leading zeros. -/
theorem dropsZeros_repr (hne : digits ≠ []) (h : ∀ c ∈ digits, c.isDigit = true) :
    DropsZeros digits (digitsValue digits).repr.toList := by
  induction digits with
  | nil => exact absurd rfl hne
  | cons c digits ih =>
    rcases List.forall_mem_cons.1 h with ⟨hc, hdigits⟩
    rw [Nat.toList_repr, digitsValue, Nat.ofDigitChars_cons, Nat.mul_zero, Nat.zero_add]
    by_cases hzero : c = '0'
    · subst hzero
      by_cases hnil : digits = []
      · subst hnil
        exact ⟨0, rfl, by decide, by decide⟩
      · -- a zero in front of other digits does not count
        rcases ih hnil hdigits with ⟨k, hk, hshown⟩
        rw [Nat.toList_repr, digitsValue] at hk hshown
        refine ⟨k + 1, ?_, hshown⟩
        rw [List.replicate_succ, List.cons_append]
        exact congrArg ('0' :: ·) hk
    · have hpos : 0 < c.toNat - '0'.toNat := by
        have hrange := Char.isDigit_iff_toNat.1 hc
        have hchar : c.toNat ≠ '0'.toNat := fun heq => hzero (Char.toNat_inj.1 heq)
        omega
      rw [toDigits_ofDigitChars hpos hdigits, (toDigits_of_isDigit hc).2]
      refine ⟨0, rfl, by simp, ?_⟩
      intro hhead
      exact absurd (Option.some.inj hhead) hzero

/-! ## Reading and writing tokens -/

/-- A numeral of a number below `2 ^ 64` is written without its leading zeros. -/
theorem dropsZeros_render (h : IsNumeral token.toList n) (hn : n < 2 ^ 64) :
    DropsZeros token.toList (ofToken token).render.toList := by
  have hvalue : (UInt64.ofNat n).toNat = digitsValue token.toList := by
    rw [UInt64.toNat_ofNat_of_lt' hn, digitsValue_eq_placeValue, h.value]
  have hrender : (ofToken token).render = (digitsValue token.toList).repr := by
    rw [ofToken_of_isNumeral h hn, ← hvalue]
    rfl
  rw [hrender]
  exact dropsZeros_repr h.ne_nil h.isDigit

/-- Numerals of numbers below `2 ^ 64` denote positions, all other tokens that are not empty denote
themselves, and the empty token denotes nothing.  Writing what a token denotes drops the leading zeros of
a position and changes nothing else, and what is written denotes the same. -/
theorem ofToken_tells_numerals (token : String) :
    (∀ n, (ofToken token).position.map UInt64.toNat = some n
        ↔ IsNumeral token.toList n ∧ n < 2 ^ 64)
      ∧ (token ≠ "" → (¬ ∃ n, IsNumeral token.toList n ∧ n < 2 ^ 64) →
        ofToken token = { position := none, word := some token } ∧ (ofToken token).render = token)
      ∧ (token = "" → ofToken token = { position := none, word := none })
      ∧ (∀ n, IsNumeral token.toList n → n < 2 ^ 64 →
        DropsZeros token.toList (ofToken token).render.toList)
      ∧ (token ≠ "" → ofToken (ofToken token).render = ofToken token) := by
  refine ⟨fun n => position_ofToken_iff, ?_, ?_, fun n => dropsZeros_render, ?_⟩
  · intro hne hno
    rw [ofToken_of_not_isNumeral hne hno]
    exact ⟨rfl, rfl⟩
  · rintro rfl
    rfl
  · intro hne
    by_cases hpos : ∃ n, IsNumeral token.toList n ∧ n < 2 ^ 64
    · rcases hpos with ⟨n, hn, hsize⟩
      rw [ofToken_of_isNumeral hn hsize]
      exact ofToken_render (Or.inl ⟨_, rfl⟩)
    · have hword := ofToken_of_not_isNumeral hne hpos
      have hrender : (ofToken token).render = token := by
        rw [hword]
        rfl
      rw [hrender]

/-- Behind two zeros the largest number of 64 bits is a position and the next number is a word. -/
theorem ofToken_tells_numerals_at_limit :
    IsNumeral "0018446744073709551615".toList 18446744073709551615
      ∧ (ofToken "0018446744073709551615").position.map UInt64.toNat = some 18446744073709551615
      ∧ DropsZeros "0018446744073709551615".toList
        (ofToken "0018446744073709551615").render.toList
      ∧ ofToken "0018446744073709551616"
        = { position := none, word := some "0018446744073709551616" } := by
  have hlargest : IsNumeral "0018446744073709551615".toList 18446744073709551615 := by
    have hdigits : "0018446744073709551615".toList.all Char.isDigit = true := by decide +kernel
    refine ⟨by decide, List.all_eq_true.1 hdigits, ?_⟩
    rw [← digitsValue_eq_placeValue]
    decide +kernel
  have hno : ¬ ∃ n, IsNumeral "0018446744073709551616".toList n ∧ n < 2 ^ 64 := by
    rintro ⟨n, hn, hsize⟩
    have hvalue : digitsValue "0018446744073709551616".toList = 18446744073709551616 := by
      decide +kernel
    rw [digitsValue_eq_placeValue, hn.value] at hvalue
    omega
  have hsize : 18446744073709551615 < 2 ^ 64 := by norm_num
  rcases ofToken_tells_numerals "0018446744073709551615" with ⟨hposition, -, -, hdrops, -⟩
  rcases ofToken_tells_numerals "0018446744073709551616" with ⟨-, hword, -, -, -⟩
  exact ⟨hlargest, (hposition _).2 ⟨hlargest, hsize⟩, hdrops _ hlargest hsize,
    (hword (by decide) hno).1⟩

end TextDesk.Destination
