import Mathlib.Algebra.Group.Int.Defs
import ModBuild.Proofs.Text.Decimal

/-!
# `ModBuild.Proofs.Text.Signed`: numbers with a sign

A number may be spelled with a sign and with more digits than it needs. It is written in one way
only. The theorems:

* `signedNatural?_eq_some_iff`: a text is read as a number below a bound exactly if it spells one
  without a minus sign.
* `signedInteger?_eq_some_iff`: a text is read as a number of 64 bits exactly if it spells the
  number. The bounds hold on either side of zero, and the lowest number has no counterpart above
  zero.
* `signed_toString`: a number spells itself when it is written.
* `Signed.eq_toString_iff`: the spelling that is written is the one with nothing to spare.
-/

set_option autoImplicit false

namespace ModBuild.Proofs.Text

open ModBuild.Text

/-! ### Spellings -/

/-- One or more digits stand for the number. -/
structure IsNumeral (digits : List Char) (n : Nat) : Prop where
  nonempty : digits ≠ []
  digit : ∀ c ∈ digits, isDigit c = true
  value : decimalValue digits = n

/-- The text spells the number in decimal, with one sign in front or none. -/
inductive Signed : List Char → Int → Prop where
  | plain {digits : List Char} {n : Nat} (h : IsNumeral digits n) : Signed digits n
  | plus {digits : List Char} {n : Nat} (h : IsNumeral digits n) : Signed ('+' :: digits) n
  | minus {digits : List Char} {n : Nat} (h : IsNumeral digits n) : Signed ('-' :: digits) (-n)

/-- The text spells the number in decimal, with a plus sign in front or none. -/
inductive Unsigned : List Char → Nat → Prop where
  | plain {digits : List Char} {n : Nat} (h : IsNumeral digits n) : Unsigned digits n
  | plus {digits : List Char} {n : Nat} (h : IsNumeral digits n) : Unsigned ('+' :: digits) n

/-- A spelling has something to spare: a plus sign, a zero in front of another digit, or a minus
sign in front of a zero. -/
inductive HasSpare : List Char → Prop where
  | plus (rest : List Char) : HasSpare ('+' :: rest)
  | zero (c : Char) (rest : List Char) : HasSpare ('0' :: c :: rest)
  | minusZero (rest : List Char) : HasSpare ('-' :: '0' :: rest)

variable {s digits : List Char} {n : Nat} {i j : Int}

/-- A number below a bound is read from the numerals of such numbers alone. -/
theorem naturalBelow?_iff_isNumeral {bound : Nat} (hbound : 0 < bound) :
    naturalBelow? bound digits = some n ↔ IsNumeral digits n ∧ n < bound := by
  rw [naturalBelow?_eq_some_iff hbound]
  constructor
  · rintro ⟨hne, hdigit, hvalue, hlt⟩
    exact ⟨⟨hne, hdigit, hvalue⟩, hlt⟩
  · rintro ⟨⟨hne, hdigit, hvalue⟩, hlt⟩
    exact ⟨hne, hdigit, hvalue, hlt⟩

/-- A number starts with a digit, so with no sign. -/
theorem IsNumeral.head_ne {c : Char} (h : IsNumeral (c :: digits) n) : c ≠ '+' ∧ c ≠ '-' := by
  have hdigit := h.digit c List.mem_cons_self
  constructor <;> rintro rfl <;> exact absurd hdigit (by decide)

/-- Behind a plus sign stands the numeral of the number. -/
theorem signed_plus_iff : Signed ('+' :: digits) i ↔ ∃ n : Nat, IsNumeral digits n ∧ i = n := by
  constructor
  · intro h
    cases h with
    | plain h => exact absurd rfl h.head_ne.1
    | plus h => exact ⟨_, h, rfl⟩
  · rintro ⟨n, h, rfl⟩
    exact .plus h

/-- Behind a minus sign stands the numeral of the number without its sign. -/
theorem signed_minus_iff : Signed ('-' :: digits) i ↔ ∃ n : Nat, IsNumeral digits n ∧ i = -n := by
  constructor
  · intro h
    cases h with
    | plain h => exact absurd rfl h.head_ne.2
    | minus h => exact ⟨_, h, rfl⟩
  · rintro ⟨n, h, rfl⟩
    exact .minus h

/-- Behind a plus sign stands the numeral of the number, also where no minus sign may stand. -/
theorem unsigned_plus_iff : Unsigned ('+' :: digits) n ↔ IsNumeral digits n := by
  constructor
  · intro h
    cases h with
    | plain h => exact absurd rfl h.head_ne.1
    | plus h => exact h
  · exact .plus

/-- Without a sign in front, there are digits alone. -/
theorem unsigned_plain_iff (hplus : ∀ rest, s ≠ '+' :: rest) : Unsigned s n ↔ IsNumeral s n := by
  constructor
  · intro h
    cases h with
    | plain h => exact h
    | plus h => exact absurd rfl (hplus _)
  · exact .plain

/-- Without a sign in front, a number is spelled by digits alone. -/
theorem signed_plain_iff (hplus : ∀ rest, s ≠ '+' :: rest) (hminus : ∀ rest, s ≠ '-' :: rest) :
    Signed s i ↔ ∃ n : Nat, IsNumeral s n ∧ i = n := by
  constructor
  · intro h
    cases h with
    | plain h => exact ⟨_, h, rfl⟩
    | plus h => exact absurd rfl (hplus _)
    | minus h => exact absurd rfl (hminus _)
  · rintro ⟨n, h, rfl⟩
    exact .plain h

/-- A text spells one number at most, also where no minus sign is allowed. -/
theorem Unsigned.unique {m : Nat} (h : Unsigned s n) (h' : Unsigned s m) : n = m := by
  cases h with
  | plain h =>
    cases h' with
    | plain h' => rw [← h.value, ← h'.value]
    | plus h' => exact absurd rfl h.head_ne.1
  | plus h =>
    have h' := unsigned_plus_iff.mp h'
    rw [← h.value, ← h'.value]

/-- Behind the first character there are only digits. -/
theorem Signed.isDigit_of_mem_tail {c d : Char} (h : Signed (c :: digits) i) (hd : d ∈ digits) :
    isDigit d = true := by
  cases h with
  | plain h => exact h.digit d (List.mem_cons_of_mem c hd)
  | plus h => exact h.digit d hd
  | minus h => exact h.digit d hd

/-- A text spells one number at most. -/
theorem Signed.unique (h : Signed s i) (h' : Signed s j) : i = j := by
  cases h with
  | plain h =>
    cases h' with
    | plain h' => rw [← h.value, ← h'.value]
    | plus h' => exact absurd rfl h.head_ne.1
    | minus h' => exact absurd rfl h.head_ne.2
  | plus h =>
    obtain ⟨n, hn, rfl⟩ := signed_plus_iff.mp h'
    rw [← h.value, ← hn.value]
  | minus h =>
    obtain ⟨n, hn, rfl⟩ := signed_minus_iff.mp h'
    rw [← h.value, ← hn.value]

/-! ### Reading -/

/-- A text is read as a number below a bound exactly if it spells such a number without a minus
sign. -/
theorem signedNatural?_eq_some_iff {bound : Nat} (hbound : 0 < bound) :
    signedNatural? bound s = some n ↔ Unsigned s n ∧ n < bound := by
  unfold signedNatural?
  split
  · rw [naturalBelow?_iff_isNumeral hbound, unsigned_plus_iff]
  · rename_i hplus
    rw [naturalBelow?_iff_isNumeral hbound, unsigned_plain_iff hplus]

/-- Digits below a bound are read as a number of 64 bits, if the bound lets through exactly the
numbers that fit. -/
theorem map_naturalBelow?_eq_some_iff {bound : Nat} {f : Nat → Int} {v : Int64}
    (hfits : ∀ n, n < bound ↔ -2 ^ 63 ≤ f n ∧ f n < 2 ^ 63) (hbound : 0 < bound) :
    (naturalBelow? bound digits).map (fun n => Int64.ofInt (f n)) = some v ↔
      ∃ n, IsNumeral digits n ∧ v.toInt = f n := by
  rw [Option.map_eq_some_iff]
  constructor
  · rintro ⟨n, hread, rfl⟩
    obtain ⟨hn, hlt⟩ := (naturalBelow?_iff_isNumeral hbound).mp hread
    obtain ⟨hlow, hhigh⟩ := (hfits n).mp hlt
    exact ⟨n, hn, Int64.toInt_ofInt_of_le hlow hhigh⟩
  · rintro ⟨n, hn, hv⟩
    have hlt : n < bound := (hfits n).mpr (hv ▸ ⟨v.le_toInt, v.toInt_lt⟩)
    refine ⟨n, (naturalBelow?_iff_isNumeral hbound).mpr ⟨hn, hlt⟩, ?_⟩
    rw [← hv, Int64.ofInt_toInt]

/-- A number is taken for an integer first, and then for a word. -/
theorem map_intOfNat (f : Int → Int64) (read : Option Nat) :
    (read >>= fun n => pure (n : Int)).map f = read.map fun n : Nat => f n := by
  cases read with
  | none => rfl
  | some n => rfl

/-- A text is read as a number exactly if it spells the number. -/
theorem signedInteger?_eq_some_iff {v : Int64} :
    signedInteger? s = some v ↔ Signed s v.toInt := by
  have hbound : Nat.pow 2 63 = 2 ^ 63 := rfl
  have hbelow : ∀ n : Nat, n < Nat.pow 2 63 ↔ -2 ^ 63 ≤ (n : Int) ∧ (n : Int) < 2 ^ 63 := by
    intro n
    omega
  -- Below zero there is one number more.
  have habove : ∀ n : Nat, n < Nat.pow 2 63 + 1 ↔ -2 ^ 63 ≤ -(n : Int) ∧ -(n : Int) < 2 ^ 63 := by
    intro n
    omega
  unfold signedInteger?
  split
  · rw [map_intOfNat, map_naturalBelow?_eq_some_iff habove (by decide), signed_minus_iff]
  · rename_i hminus
    unfold signedNatural?
    split
    · rw [map_intOfNat, map_naturalBelow?_eq_some_iff hbelow (by decide), signed_plus_iff]
    · rename_i hplus
      rw [map_intOfNat, map_naturalBelow?_eq_some_iff hbelow (by decide),
        signed_plain_iff hplus hminus]

/-! ### Writing -/

/-- The decimal digits of a number are a numeral for it. -/
theorem isNumeral_toDigits (n : Nat) : IsNumeral (Nat.toDigits 10 n) n :=
  ⟨Nat.toDigits_ne_nil, fun _ hc => isDigit_of_mem_toDigits hc, decimalValue_toDigits n⟩

/-- A number from zero on is written in its digits. -/
theorem toList_toString_natCast (n : Nat) : (toString (n : Int)).toList = Nat.toDigits 10 n :=
  Nat.toList_repr

/-- A number below zero is written with a minus sign in front of its digits. -/
theorem toList_toString_neg (h : 0 < n) :
    (toString (-(n : Int))).toList = '-' :: Nat.toDigits 10 n := by
  obtain ⟨m, rfl⟩ : ∃ m, n = m + 1 := ⟨n - 1, by omega⟩
  have hwritten : toString (-((m + 1 : Nat) : Int)) = "-" ++ (m + 1).repr := rfl
  rw [hwritten, String.toList_append, Nat.toList_repr]
  rfl

/-- A number is written with no sign but a minus sign in front of what is not zero. -/
theorem toString_cases (i : Int) :
    (∃ n : Nat, i = n ∧ (toString i).toList = Nat.toDigits 10 n) ∨
      ∃ n : Nat, 0 < n ∧ i = -n ∧ (toString i).toList = '-' :: Nat.toDigits 10 n := by
  rcases Int.lt_or_le i 0 with hneg | hpos
  · obtain ⟨n, rfl⟩ : ∃ n : Nat, i = -n := ⟨i.natAbs, by omega⟩
    have hn : 0 < n := by omega
    exact .inr ⟨n, hn, rfl, toList_toString_neg hn⟩
  · obtain ⟨n, rfl⟩ := Int.eq_ofNat_of_zero_le hpos
    exact .inl ⟨n, rfl, toList_toString_natCast n⟩

/-- What is written for a number spells it. -/
theorem signed_toString (i : Int) : Signed (toString i).toList i := by
  rcases toString_cases i with ⟨n, rfl, htext⟩ | ⟨n, -, rfl, htext⟩
  · rw [htext]
    exact .plain (isNumeral_toDigits n)
  · rw [htext]
    exact .minus (isNumeral_toDigits n)

/-! ### Nothing to spare -/

/-- The digits are a range of codes. -/
theorem isDigit_iff {c : Char} : isDigit c = true ↔ 48 ≤ c.toNat ∧ c.toNat ≤ 57 := by
  rw [isDigit, Bool.and_eq_true, decide_eq_true_eq, decide_eq_true_eq]
  rfl

/-- The value of a digit is below ten. -/
theorem digitValue_lt {c : Char} (h : isDigit c = true) : digitValue c < 10 := by
  obtain ⟨hlow, hhigh⟩ := isDigit_iff.mp h
  have hzero : '0'.toNat = 48 := rfl
  unfold digitValue
  omega

/-- A digit is the one that is written for its value. -/
theorem toDigits_digitValue {c : Char} (h : isDigit c = true) :
    Nat.toDigits 10 (digitValue c) = [c] := by
  obtain ⟨hlow, hhigh⟩ := isDigit_iff.mp h
  have hlt := digitValue_lt h
  have hchar : (digitValue c).digitChar = c := by
    rw [← Char.toNat_inj, Nat.toNat_digitChar_of_lt_ten hlt]
    have hzero : '0'.toNat = 48 := rfl
    unfold digitValue
    omega
  rw [Nat.toDigits_of_lt_base hlt, hchar]

/-- More digits behind the digits of a number that is not zero are the digits of the number that
they make together. -/
theorem toDigits_append (hn : 0 < n) (hdigit : ∀ c ∈ digits, isDigit c = true) :
    Nat.toDigits 10 n ++ digits = Nat.toDigits 10 (digits.foldl appendDigit n) := by
  induction digits generalizing n with
  | nil => rw [List.append_nil, List.foldl_nil]
  | cons c rest ih =>
    obtain ⟨hc, hrest⟩ := List.forall_mem_cons.mp hdigit
    have hnext : 0 < appendDigit n c := by
      unfold appendDigit
      omega
    have hone : Nat.toDigits 10 n ++ [c] = Nat.toDigits 10 (appendDigit n c) := by
      rw [appendDigit, Nat.mul_comm, ← Nat.toDigits_append_toDigits (by decide) hn (digitValue_lt hc),
        toDigits_digitValue hc]
    rw [List.foldl_cons, ← ih hnext hrest, ← hone, List.append_assoc, List.singleton_append]

/-- Digits without an idle zero in front are the ones that are written. -/
theorem IsNumeral.eq_toDigits (h : IsNumeral digits n)
    (hzero : ∀ c rest, digits ≠ '0' :: c :: rest) : digits = Nat.toDigits 10 n := by
  obtain ⟨hne, hdigit, rfl⟩ := h
  cases digits with
  | nil => exact absurd rfl hne
  | cons c rest =>
    obtain ⟨hc, hrest⟩ := List.forall_mem_cons.mp hdigit
    have hfirst : appendDigit 0 c = digitValue c := by
      rw [appendDigit, Nat.zero_mul, Nat.zero_add]
    rw [decimalValue, List.foldl_cons, hfirst]
    rcases Nat.eq_zero_or_pos (digitValue c) with hidle | hpos
    · -- A zero stands alone.
      have hc0 := toDigits_digitValue hc
      rw [hidle, Nat.toDigits_zero, List.cons_eq_cons] at hc0
      obtain ⟨rfl, -⟩ := hc0
      cases rest with
      | nil => rfl
      | cons d rest => exact absurd rfl (hzero d rest)
    · rw [← toDigits_append hpos hrest, toDigits_digitValue hc, List.singleton_append]

/-- What is written has nothing to spare. -/
theorem not_hasSpare_toString (i : Int) : ¬ HasSpare (toString i).toList := by
  rcases toString_cases i with ⟨n, -, htext⟩ | ⟨n, hn, -, htext⟩
  · have hnumeral := isNumeral_toDigits n
    rw [htext]
    intro h
    generalize hs : Nat.toDigits 10 n = s at h hnumeral
    cases h with
    | plus rest => exact hnumeral.head_ne.1 rfl
    | zero c rest => exact toDigits_ne_zero_cons (by decide) (by decide) n c rest hs
    | minusZero rest => exact hnumeral.head_ne.2 rfl
  · rw [htext]
    intro h
    generalize hs : Nat.toDigits 10 n = digits at h
    cases h with
    | minusZero rest =>
      have hhead := head?_toDigits (by decide : 1 < 10) (by decide) hn
      rw [hs, List.head?_cons] at hhead
      exact hhead rfl

/-- A spelling of a number is the one that is written, unless it has something to spare. -/
theorem Signed.eq_toString_iff (h : Signed s i) : s = (toString i).toList ↔ ¬ HasSpare s := by
  constructor
  · rintro rfl
    exact not_hasSpare_toString i
  · intro hspare
    cases h with
    | @plain digits n h =>
      rw [toList_toString_natCast]
      exact h.eq_toDigits fun c rest heq => hspare (heq ▸ .zero c rest)
    | @plus digits n h => exact absurd (.plus digits) hspare
    | @minus digits n h =>
      have hdigits := h.eq_toDigits fun c rest heq => hspare (heq ▸ .minusZero _)
      have hn : 0 < n := by
        rcases Nat.eq_zero_or_pos n with rfl | hn
        · rw [hdigits, Nat.toDigits_zero] at hspare
          exact absurd (.minusZero []) hspare
        · exact hn
      rw [toList_toString_neg hn, hdigits]

end ModBuild.Proofs.Text
