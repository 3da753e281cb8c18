import ModBuild.Text.Decimal

/-!
# `ModBuild.Proofs.Text.Decimal`: which digits are read as which number

A reader that refuses a number as soon as it reaches a bound reads the number that all the digits
stand for. It cannot be misled on the way, because more digits never make a number smaller.

* `naturalBelow?_eq_some_iff`: digits are read as a number exactly if they stand for it and it is
  below the bound.
* `isDigit_of_mem_toDigits`, `decimalValue_toDigits` and `head?_toDigits`: the digits of a number
  stand for it, with no zero in front. The last holds of hexadecimal digits as well.
-/

set_option autoImplicit false

namespace ModBuild.Proofs.Text

open ModBuild.Text

/-- More digits never make a number smaller. -/
theorem le_foldl_appendDigit (n : Nat) (digits : List Char) :
    n ≤ digits.foldl appendDigit n := by
  induction digits generalizing n with
  | nil => exact Nat.le_refl n
  | cons c rest ih =>
    have hnext : n ≤ appendDigit n c := by
      unfold appendDigit
      omega
    exact Nat.le_trans hnext (ih (appendDigit n c))

/-- A number that is below the bound goes on to the number that it and the digits stand for. -/
theorem continueBelow?_eq_some_iff {bound n m : Nat} {digits : List Char} (hn : n < bound) :
    continueBelow? bound n digits = some m ↔
      (∀ c ∈ digits, isDigit c = true) ∧ digits.foldl appendDigit n = m ∧ m < bound := by
  induction digits generalizing n with
  | nil =>
    simp only [continueBelow?, Option.some.injEq, List.not_mem_nil, false_implies, implies_true,
      List.foldl_nil, true_and]
    constructor
    · rintro rfl
      exact ⟨rfl, hn⟩
    · exact fun h => h.1
  | cons c rest ih =>
    simp only [continueBelow?, List.forall_mem_cons, List.foldl_cons]
    by_cases hnext : appendDigit n c < bound
    · by_cases hdigit : isDigit c = true
      · simp [hdigit, hnext, ih hnext]
      · simp [hdigit]
    · -- The number has reached the bound, and would not come back below it.
      simp only [hnext, decide_false, Bool.and_false, Bool.false_eq_true, if_false]
      constructor
      · nofun
      · rintro ⟨-, hvalue, hm⟩
        have hle := le_foldl_appendDigit (appendDigit n c) rest
        omega

/-- Digits are read as the number that they stand for, if there are any and it is below the
bound. -/
theorem naturalBelow?_eq_some_iff {bound n : Nat} {digits : List Char} (hbound : 0 < bound) :
    naturalBelow? bound digits = some n ↔
      digits ≠ [] ∧ (∀ c ∈ digits, isDigit c = true) ∧ decimalValue digits = n ∧ n < bound := by
  cases digits with
  | nil => simp [naturalBelow?]
  | cons c rest =>
    have hread : naturalBelow? bound (c :: rest) = continueBelow? bound 0 (c :: rest) := rfl
    rw [hread, continueBelow?_eq_some_iff hbound]
    simp [decimalValue]

/-! ### The digits of a number -/

/-- The decimal digits of a number are digits. -/
theorem isDigit_of_mem_toDigits {n : Nat} {c : Char} (h : c ∈ Nat.toDigits 10 n) :
    isDigit c = true := by
  have hdigit := Nat.isDigit_of_mem_toDigits (by decide) (by decide) h
  simpa [isDigit, Char.isDigit, Char.le_def] using hdigit

/-- The decimal digits of a number have its value. -/
theorem decimalValue_toDigits (n : Nat) : decimalValue (Nat.toDigits 10 n) = n := by
  have hvalue := Nat.ofDigitChars_ten_toDigits (n := n)
  rw [Nat.ofDigitChars_eq_foldl] at hvalue
  have happend : appendDigit = fun n c => 10 * n + (c.toNat - '0'.toNat) := by
    funext n c
    rw [appendDigit, digitValue, Nat.mul_comm]
  rw [decimalValue, happend]
  exact hvalue

/-- No number but zero starts with a zero. -/
theorem head?_toDigits {base n : Nat} (hbase : 1 < base) (hbase' : base ≤ 16) (h : 0 < n) :
    (Nat.toDigits base n).head? ≠ some '0' := by
  induction n using Nat.strongRecOn with
  | ind n ih =>
    rw [Nat.toDigits_eq_if hbase]
    split
    · rename_i hsmall
      have hall : ∀ d < 16, 0 < d → some d.digitChar ≠ some '0' := by decide
      exact hall n (Nat.lt_of_lt_of_le hsmall hbase') h
    · rename_i hlarge
      have hpos : 0 < n / base := Nat.div_pos (Nat.le_of_not_lt hlarge) (by omega)
      have hless := ih (n / base) (Nat.div_lt_self h hbase) hpos
      cases hfront : Nat.toDigits base (n / base) with
      | nil => exact absurd hfront Nat.toDigits_ne_nil
      | cons c more => simpa [hfront] using hless

/-- A zero in front of another digit is never written. -/
theorem toDigits_ne_zero_cons {base : Nat} (hbase : 1 < base) (hbase' : base ≤ 16) (n : Nat)
    (c : Char) (rest : List Char) : Nat.toDigits base n ≠ '0' :: c :: rest := by
  intro heq
  rcases Nat.eq_zero_or_pos n with rfl | hn
  · rw [Nat.toDigits_zero] at heq
    cases heq
  · exact head?_toDigits hbase hbase' hn (by rw [heq, List.head?_cons])

end ModBuild.Proofs.Text
