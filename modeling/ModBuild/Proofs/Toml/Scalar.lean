import ModBuild.Proofs.Files.Path
import ModBuild.Proofs.Text.Decimal
import ModBuild.Toml.Scalar

/-!
# `ModBuild.Proofs.Toml.Scalar`: numbers that are written are read back

The digits of a number are no time and no word, and they have no zeros in front.

* `ofText?_toDigits`: so they are read as the number.
-/

set_option autoImplicit false

namespace ModBuild.Proofs.Toml

open ModBuild ModBuild.Toml ModBuild.Proofs.Files ModBuild.Proofs.Text

/-! ### Texts of digits -/

section Digits

variable {s : List Char}

/-- Digits hold no mark that a value could be cut at. -/
theorem cutAt_digits (h : ∀ c ∈ s, Text.isDigit c = true) (mark : Char)
    (hmark : Text.isDigit mark = false) : Text.cutAt (· = mark) s = [s] := by
  refine cutAt_of_uncut fun c hc => ?_
  rw [decide_eq_false_iff_not]
  rintro rfl
  rw [h c hc] at hmark
  cases hmark

/-- Digits alone are no date. -/
theorem isDate_digits (h : ∀ c ∈ s, Text.isDigit c = true) : Scalar.isDate s = false := by
  unfold Scalar.isDate
  rw [cutAt_digits h '-' (by decide)]

/-- Digits alone are no time. -/
theorem isTimeOfDay_digits (h : ∀ c ∈ s, Text.isDigit c = true) :
    Scalar.isTimeOfDay s = false := by
  have hclock : ∀ c ∈ s.takeWhile (· ≠ '.'), Text.isDigit c = true :=
    fun c hc => h c (List.takeWhile_subset _ hc)
  unfold Scalar.isTimeOfDay
  simp only [cutAt_digits hclock ':' (by decide)]

/-- Digits are no time. -/
theorem isTime_digits (h : ∀ c ∈ s, Text.isDigit c = true) : Scalar.isTime s = false := by
  have htake : ∀ c ∈ s.take 10, Text.isDigit c = true :=
    fun c hc => h c (List.mem_of_mem_take hc)
  unfold Scalar.isTime
  rw [isDate_digits h, isTimeOfDay_digits h]
  simp only [Bool.or_self, Bool.false_eq_true, if_false, isDate_digits htake]
  split
  · rfl
  · rfl

/-- Digits without a zero in front are plain ones. -/
theorem plainDigits?_digits (h : ∀ c ∈ s, Text.isDigit c = true) (hne : s ≠ [])
    (hzero : ∀ c more, s ≠ '0' :: c :: more) : Scalar.plainDigits? s = some s := by
  have hgroups : Scalar.ungrouped? Text.isDigit s = some s := by
    unfold Scalar.ungrouped?
    simp only [cutAt_digits h '_' (by decide)]
    have hall : s.all Text.isDigit = true := List.all_eq_true.mpr h
    simp [hne, hall]
  unfold Scalar.plainDigits?
  rw [hgroups]
  split
  · rename_i c more heq
    exact absurd (Option.some.inj heq) (hzero c more)
  · rfl

/-- Digits without a zero in front are read as the integer of their value. -/
theorem integer?_digits (h : ∀ c ∈ s, Text.isDigit c = true) (hne : s ≠ [])
    (hzero : ∀ c more, s ≠ '0' :: c :: more) :
    Scalar.integer? s = some (Text.decimalValue s : Int) := by
  unfold Scalar.integer?
  split
  · exact absurd rfl (hzero _ _)
  · exact absurd rfl (hzero _ _)
  · exact absurd rfl (hzero _ _)
  · exact absurd (h _ List.mem_cons_self) (by decide)
  · exact absurd (h _ List.mem_cons_self) (by decide)
  · rw [plainDigits?_digits h hne hzero]
    rfl

end Digits

/-- The digits of a number are read as the number. -/
theorem ofText?_toDigits {n : Nat} (h : n < Nat.pow 2 128) :
    Scalar.ofText? (Nat.toDigits 10 n) = some (.integer n) := by
  have hdigits : ∀ c ∈ Nat.toDigits 10 n, Text.isDigit c = true :=
    fun c hc => isDigit_of_mem_toDigits hc
  have hne : Nat.toDigits 10 n ≠ [] := Nat.toDigits_ne_nil
  have hzero : ∀ c more, Nat.toDigits 10 n ≠ '0' :: c :: more :=
    toDigits_ne_zero_cons (by decide) (by decide) n
  -- A word has a letter.
  have hword : ∀ word : List Char, word.any (!Text.isDigit ·) = true → Nat.toDigits 10 n ≠ word := by
    rintro word hletter rfl
    obtain ⟨c, hc, hdigit⟩ := List.any_eq_true.mp hletter
    rw [hdigits c hc] at hdigit
    cases hdigit
  have hunsigned : Scalar.unsigned (Nat.toDigits 10 n) = Nat.toDigits 10 n := by
    unfold Scalar.unsigned
    split
    · rename_i heq
      exact absurd (hdigits '+' (heq ▸ List.mem_cons_self)) (by decide)
    · rename_i heq
      exact absurd (hdigits '-' (heq ▸ List.mem_cons_self)) (by decide)
    · rfl
  have hsmall : (-(Nat.pow 2 127 : Int) ≤ (n : Int) && (n : Int) < (Nat.pow 2 128 : Int)) = true := by
    rw [Bool.and_eq_true, decide_eq_true_eq, decide_eq_true_eq]
    have hpow := Int.natCast_nonneg (Nat.pow 2 127)
    exact ⟨by omega, Int.ofNat_lt.mpr h⟩
  unfold Scalar.ofText?
  rw [hunsigned, if_neg (hword _ (by decide)), if_neg (hword _ (by decide)), if_neg, if_neg]
  · rw [integer?_digits hdigits hne hzero, decimalValue_toDigits]
    simp only [Scalar.ofInteger, hsmall, if_true]
  · rw [isTime_digits hdigits]
    decide
  · rw [Bool.or_eq_true, decide_eq_true_eq, decide_eq_true_eq, not_or]
    exact ⟨hword _ (by decide), hword _ (by decide)⟩

end ModBuild.Proofs.Toml
