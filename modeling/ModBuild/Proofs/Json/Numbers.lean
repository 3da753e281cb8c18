import ModBuild.Json.Reader
import ModBuild.Proofs.Text.Decimal

/-!
# `ModBuild.Proofs.Json.Numbers`: numbers as text

A number that nobody asks for is taken off by its form alone: a whole part without zeros in front,
perhaps a fraction, perhaps an exponent. What is written for a number has that form. The theorems:

* `skippedNumber_text`: a text of that form is taken off.
* `isNumberText_write`: decimals are written in that form, except for a zero with a power of ten.
* `digits_shortest`: which is no decimal that is written.
* `text_number`: so all numbers are written in that form, perhaps behind a sign.
-/

set_option autoImplicit false

namespace ModBuild.Proofs.Json

open ModBuild ModBuild.Json ModBuild.Number ModBuild.Proofs.Text

/-! ### The form of a number -/

/-- One or more digits. -/
def IsDigits (s : List Char) : Prop :=
  s ≠ [] ∧ ∀ c ∈ s, Text.isDigit c = true

/-- A whole part, a fraction and an exponent, of which the last two may be missing. -/
structure IsNumberText (whole fraction exponent : List Char) : Prop where
  whole_digits : IsDigits whole
  /-- There are no zeros in front. -/
  whole_zero : whole.head? = some '0' → whole = ['0']
  fraction_form : fraction = [] ∨ ∃ digits, IsDigits digits ∧ fraction = '.' :: digits
  exponent_form : exponent = [] ∨ ∃ sign digits, (sign = '+' ∨ sign = '-') ∧ IsDigits digits ∧
    exponent = 'e' :: sign :: digits

/-- What follows does not continue a number. -/
def EndsNumber (rest : List Char) : Prop :=
  ∀ c ∈ rest.head?, Text.isDigit c = false ∧ c ≠ '.' ∧ c ≠ 'e' ∧ c ≠ 'E'

section Skipping

variable {rest : List Char}

/-- The decimal digits of a number are digits. -/
theorem isDigits_toDigits (n : Nat) : IsDigits (Nat.toDigits 10 n) :=
  ⟨Nat.toDigits_ne_nil, fun _ hc => isDigit_of_mem_toDigits hc⟩

/-- A single zero is a row of digits. -/
theorem isDigits_zero : IsDigits ['0'] := by
  refine ⟨List.cons_ne_nil _ _, fun c hc => ?_⟩
  rw [List.mem_singleton.mp hc]
  rfl

/-- A row of digits is passed over up to the first character that is none. -/
theorem skipDigits_append {digits : List Char} (hdigits : ∀ c ∈ digits, Text.isDigit c = true)
    (hrest : digitNext rest = false) : skipDigits (digits ++ rest) = rest := by
  unfold skipDigits
  rw [List.dropWhile_append_of_pos hdigits]
  cases rest with
  | nil => rfl
  | cons c rest =>
    have hc : Text.isDigit c = false := hrest
    rw [List.dropWhile_cons_of_neg (by simp [hc])]

/-- In front of a row of digits stands a digit. -/
theorem digitNext_append {digits : List Char} (h : IsDigits digits) :
    digitNext (digits ++ rest) = true := by
  obtain ⟨hne, hdigits⟩ := h
  cases digits with
  | nil => exact absurd rfl hne
  | cons c digits => exact hdigits c List.mem_cons_self

/-- What ends a number is no digit. -/
theorem EndsNumber.digitNext (h : EndsNumber rest) : digitNext rest = false := by
  cases rest with
  | nil => rfl
  | cons c rest => exact (h c rfl).1

/-- Behind the whole part and the fraction there may be an exponent. -/
theorem skippedExponent_text {sign : Char} (hsign : sign = '+' ∨ sign = '-') {digits : List Char}
    (hdigits : IsDigits digits) (hrest : EndsNumber rest) :
    skippedExponent (sign :: (digits ++ rest)) = .ok rest := by
  obtain ⟨hne, hall⟩ := hdigits
  cases digits with
  | nil => exact absurd rfl hne
  | cons c digits =>
    obtain ⟨hc, hmore⟩ := List.forall_mem_cons.mp hall
    have hskip := skipDigits_append hmore hrest.digitNext
    rcases hsign with rfl | rfl <;>
      simp only [skippedExponent, List.cons_append, hc, if_true, hskip]

/-- What the reader does behind the digits of a number. -/
def skippedTail (s : List Char) : Except Fault (List Char) :=
  match s with
  | 'e' :: s | 'E' :: s => skippedExponent s
  | s => .ok s

/-- An exponent as it is written is passed over, and so is no exponent. -/
theorem skippedTail_text {exponent : List Char}
    (h : exponent = [] ∨ ∃ sign digits, (sign = '+' ∨ sign = '-') ∧ IsDigits digits ∧
      exponent = 'e' :: sign :: digits) (hrest : EndsNumber rest) :
    skippedTail (exponent ++ rest) = .ok rest := by
  rcases h with rfl | ⟨sign, digits, hsign, hdigits, rfl⟩
  · rw [List.nil_append]
    unfold skippedTail
    split
    · exact absurd rfl (hrest _ rfl).2.2.1
    · exact absurd rfl (hrest _ rfl).2.2.2
    · rfl
  · exact skippedExponent_text hsign hdigits hrest

/-- What the reader does behind the whole part of a number. -/
def skippedAfterWhole (s : List Char) : Except Fault (List Char) :=
  match s with
  | '.' :: s =>
    if digitNext s then skippedTail (skipDigits s) else .error (.next .invalidNumber s)
  | s => skippedTail s

/-- Without a point, the exponent follows the whole part. -/
theorem skippedAfterWhole_of_ne {s : List Char} (h : s.head? ≠ some '.') :
    skippedAfterWhole s = skippedTail s := by
  unfold skippedAfterWhole
  split
  · exact absurd rfl h
  · rfl

/-- The whole part is taken off first: one zero, or all digits there are. -/
theorem skippedNumber_whole {whole : List Char} (hdigits : IsDigits whole)
    (hzero : whole.head? = some '0' → whole = ['0']) (hrest : digitNext rest = false) :
    skippedNumber (whole ++ rest) = skippedAfterWhole rest := by
  obtain ⟨hne, hall⟩ := hdigits
  cases whole with
  | nil => exact absurd rfl hne
  | cons c whole =>
    obtain ⟨hc, hmore⟩ := List.forall_mem_cons.mp hall
    have hskip : (if c = '0' then whole ++ rest else skipDigits (whole ++ rest)) = rest := by
      split
      · rename_i hfirst
        subst hfirst
        obtain rfl : whole = [] := (List.cons.inj (hzero rfl)).2
        rfl
      · exact skipDigits_append hmore hrest
    have hfirst : (decide (c = '0') && digitNext (whole ++ rest)) = false := by
      by_cases hc0 : c = '0'
      · subst hc0
        obtain rfl : whole = [] := (List.cons.inj (hzero rfl)).2
        simp [hrest]
      · simp [hc0]
    rw [List.cons_append]
    unfold skippedNumber
    simp only [hfirst, Bool.false_eq_true, if_false, hc, if_true, hskip]
    -- The reader looks for a point and for an exponent in one step.
    split
    · rfl
    · rfl
    · rfl
    · rename_i hpoint hlower hupper
      have hhead : rest.head? ≠ some '.' := by
        intro hhead
        obtain ⟨s, rfl⟩ := List.head?_eq_some_iff.mp hhead
        exact hpoint s rfl
      rw [skippedAfterWhole_of_ne hhead]
      unfold skippedTail
      split
      · exact (hlower _ rfl).elim
      · exact (hupper _ rfl).elim
      · rfl

/-- A number that nobody asks for is taken off. -/
theorem skippedNumber_text {whole fraction exponent : List Char}
    (h : IsNumberText whole fraction exponent) (hrest : EndsNumber rest) :
    skippedNumber (whole ++ (fraction ++ (exponent ++ rest))) = .ok rest := by
  have htail := skippedTail_text h.exponent_form hrest
  -- Neither a fraction nor an exponent starts with a digit.
  have hexponent : digitNext (exponent ++ rest) = false := by
    rcases h.exponent_form with rfl | ⟨sign, digits, -, -, rfl⟩
    · exact hrest.digitNext
    · rfl
  rcases h.fraction_form with rfl | ⟨digits, hdigits, rfl⟩
  · have hpoint : (exponent ++ rest).head? ≠ some '.' := by
      rcases h.exponent_form with rfl | ⟨sign, digits, -, -, rfl⟩
      · exact fun hhead => (hrest '.' hhead).2.1 rfl
      · simp
    rw [List.nil_append, skippedNumber_whole h.whole_digits h.whole_zero hexponent,
      skippedAfterWhole_of_ne hpoint, htail]
  · have hpoint : digitNext ('.' :: digits ++ (exponent ++ rest)) = false := rfl
    rw [skippedNumber_whole h.whole_digits h.whole_zero hpoint]
    show (if digitNext (digits ++ (exponent ++ rest)) then
      skippedTail (skipDigits (digits ++ (exponent ++ rest))) else _) = _
    rw [digitNext_append hdigits, if_pos rfl, skipDigits_append hdigits.2 hexponent, htail]

end Skipping

/-! ### What is written for a number -/

/-- Digits behind a row of digits make a longer row. -/
theorem isDigits_append {s t : List Char} (hs : IsDigits s)
    (ht : ∀ c ∈ t, Text.isDigit c = true) : IsDigits (s ++ t) := by
  refine ⟨List.append_ne_nil_of_left_ne_nil hs.1 t, fun c hc => ?_⟩
  rcases List.mem_append.mp hc with hc | hc
  · exact hs.2 c hc
  · exact ht c hc

/-- Zeros are digits. -/
theorem isDigit_of_mem_zeros {count : Nat} {c : Char} (h : c ∈ List.replicate count '0') :
    Text.isDigit c = true := by
  rw [List.eq_of_mem_replicate h]
  rfl

/-- The digits of a number start with a zero only if it is zero. -/
theorem eq_zero_of_head? {n : Nat} (h : (Nat.toDigits 10 n).head? = some '0') : n = 0 := by
  cases n with
  | zero => rfl
  | succ n => exact absurd h (head?_toDigits (by decide) (by decide) (Nat.succ_pos n))

/-- A natural number is written as a number without a fraction and without an exponent. -/
theorem isNumberText_natural (n : Nat) : IsNumberText (Nat.toDigits 10 n) [] [] := by
  refine ⟨isDigits_toDigits n, fun hzero => ?_, .inl rfl, .inl rfl⟩
  rw [eq_zero_of_head? hzero, Nat.toDigits_zero]

/-- Only digits that are no zero lose zeros at the end. -/
theorem trim_digits_ne_zero (fuel : Nat) {d : Decimal} (h : d.digits ≠ 0) :
    (Decimal.trim fuel d).digits ≠ 0 := by
  fun_induction Decimal.trim fuel d with
  | case1 d => exact h
  | case2 fuel d hzeros ih =>
    simp only [Bool.and_eq_true, decide_eq_true_eq] at hzeros
    refine ih ?_
    show d.digits / 10 ≠ 0
    omega
  | case3 fuel d hzeros => exact h

/-- There is nothing to trim from zero. -/
theorem trim_zero (fuel : Nat) : Decimal.trim fuel ⟨0, 0⟩ = ⟨0, 0⟩ := by
  cases fuel <;> rfl

/-- Zero stands for no magnitude that is not zero: it lies below all that are nearest to it. -/
theorem digits_ne_zero_of_standsFor {x : Magnitude} (hx : x.mantissa ≠ 0) {d : Decimal}
    (h : x.standsFor d = true) : d.digits ≠ 0 := by
  intro hd
  have hlow : 0 < x.quarters.1 := by
    unfold Magnitude.quarters
    simp only
    split <;> omega
  have hratio : (x.quarterRatio x.quarters.1).1 ≠ 0 :=
    Nat.mul_ne_zero (Nat.pos_iff_ne_zero.mp hlow) (Nat.pos_iff_ne_zero.mp (Nat.pow_pos (by decide)))
  have hden : d.ratio.2 ≠ 0 := Nat.pos_iff_ne_zero.mp (Nat.pow_pos (by decide))
  -- The lower bound on what stands for the magnitude is above zero, so zero is too low.
  have hle : (x.quarterRatio x.quarters.1).1 * d.ratio.2 ≤
      d.ratio.1 * (x.quarterRatio x.quarters.1).2 := by
    unfold Magnitude.standsFor at h
    simp only [Bool.and_eq_true, Bool.or_eq_true, decide_eq_true_eq] at h
    rcases h.1 with hless | hequal
    · exact Nat.le_of_lt hless
    · exact Nat.le_of_eq hequal.2
  have hzero : d.ratio.1 = 0 := by
    simp only [Decimal.ratio, hd, Nat.zero_mul]
  rw [hzero, Nat.zero_mul] at hle
  exact Nat.mul_ne_zero hratio hden (Nat.le_zero.mp hle)

/-- The shortest decimal has digits, or is plain zero. -/
theorem digits_shortest {x : Magnitude} (hx : x.mantissa ≠ 0) :
    x.shortest.digits ≠ 0 ∨ x.shortest = ⟨0, 0⟩ := by
  unfold Magnitude.shortest
  simp only
  cases hhit : (List.range 17).findSome? fun (n : Nat) =>
      (x.neighbours (Magnitude.leadingPower x.ratio.1 x.ratio.2 - n)).find? x.standsFor with
  | none => exact .inr rfl
  | some d =>
    obtain ⟨n, -, hfind⟩ := List.exists_of_findSome?_eq_some hhit
    exact .inl (digits_ne_zero_of_standsFor hx (List.find?_some hfind))

/-- The first digits of a number are a row of digits, if there is at least one. -/
theorem isDigits_take {count : Nat} (h : 0 < count) (n : Nat) :
    IsDigits ((Nat.toDigits 10 n).take count) := by
  obtain ⟨hne, hall⟩ := isDigits_toDigits n
  refine ⟨?_, fun c hc => hall c (List.mem_of_mem_take hc)⟩
  rw [Ne, List.take_eq_nil_iff, not_or]
  exact ⟨by omega, hne⟩

/-- The last digits of a number are a row of digits, if one is left. -/
theorem isDigits_drop {n count : Nat} (h : count < (Nat.toDigits 10 n).length) :
    IsDigits ((Nat.toDigits 10 n).drop count) := by
  refine ⟨?_, fun c hc => isDigit_of_mem_toDigits (List.mem_of_mem_drop hc)⟩
  rw [Ne, List.drop_eq_nil_iff]
  omega

/-- Written out in full, with a fraction of zero. -/
theorem isNumberText_zeros {n count : Nat} (h : n ≠ 0 ∨ count = 0) :
    IsNumberText (Nat.toDigits 10 n ++ List.replicate count '0') ['.', '0'] [] := by
  refine ⟨isDigits_append (isDigits_toDigits n) fun c hc => isDigit_of_mem_zeros hc, ?_,
    .inr ⟨['0'], isDigits_zero, rfl⟩, .inl rfl⟩
  intro hzero
  rw [List.head?_append, Option.or_of_isSome (by simp [Nat.toDigits_ne_nil])] at hzero
  have hn := eq_zero_of_head? hzero
  rcases h with h | rfl
  · exact absurd hn h
  · rw [hn]
    rfl

/-- Written out in full, with the point between the digits. -/
theorem isNumberText_point {n count : Nat} (hpos : 0 < count)
    (h : count < (Nat.toDigits 10 n).length) :
    IsNumberText ((Nat.toDigits 10 n).take count) ('.' :: (Nat.toDigits 10 n).drop count) [] := by
  refine ⟨isDigits_take hpos n, ?_, .inr ⟨_, isDigits_drop h, rfl⟩, .inl rfl⟩
  intro hzero
  rw [List.head?_take, if_neg (by omega)] at hzero
  -- Zero has only one digit.
  rw [eq_zero_of_head? hzero, Nat.toDigits_zero, List.length_singleton] at h
  omega

/-- Written out in full, with zeros behind the point. -/
theorem isNumberText_below (count n : Nat) :
    IsNumberText ['0'] ('.' :: (List.replicate count '0' ++ Nat.toDigits 10 n)) [] := by
  refine ⟨isDigits_zero, fun _ => rfl, .inr ⟨_, ⟨?_, ?_⟩, rfl⟩, .inl rfl⟩
  · simp [Nat.toDigits_ne_nil]
  · intro c hc
    rcases List.mem_append.mp hc with hc | hc
    · exact isDigit_of_mem_zeros hc
    · exact isDigit_of_mem_toDigits hc

/-- Written with an exponent behind the first digit and a fraction. -/
theorem isNumberText_exponent (n power : Nat) {sign : Char} (hsign : sign = '+' ∨ sign = '-') :
    IsNumberText ((Nat.toDigits 10 n).take 1)
      (if (Nat.toDigits 10 n).length > 1 then '.' :: (Nat.toDigits 10 n).drop 1 else [])
      ('e' :: sign :: Nat.toDigits 10 power) := by
  refine ⟨isDigits_take (by decide) n, ?_, ?_, .inr ⟨sign, _, hsign, isDigits_toDigits power, rfl⟩⟩
  · intro hzero
    rw [List.head?_take, if_neg (by decide)] at hzero
    rw [eq_zero_of_head? hzero, Nat.toDigits_zero]
    rfl
  · split
    · rename_i hmore
      exact .inr ⟨_, isDigits_drop hmore, rfl⟩
    · exact .inl rfl

/-- A decimal is written as a number. -/
theorem isNumberText_write (style : DecimalStyle) {d : Decimal} (h : d.digits ≠ 0 ∨ d = ⟨0, 0⟩) :
    ∃ whole fraction exponent, IsNumberText whole fraction exponent ∧
      (style.write d).toList = whole ++ (fraction ++ exponent) := by
  -- What is trimmed is still not zero with an exponent, as the text would then have to show it.
  have htrim : (Decimal.trim 20 d).digits ≠ 0 ∨ (Decimal.trim 20 d).exponent = 0 := by
    rcases h with h | rfl
    · exact .inl (trim_digits_ne_zero 20 h)
    · rw [trim_zero]
      exact .inr rfl
  unfold DecimalStyle.write
  generalize Decimal.trim 20 d = d at htrim
  have htext : (toString d.digits).toList = Nat.toDigits 10 d.digits := by
    simp
  have hpoint : ".".toList = ['.'] := by decide
  have hzero : ".0".toList = ['.', '0'] := by decide
  have hbelow : "0.".toList = ['0', '.'] := by decide
  have he : "e".toList = ['e'] := by decide
  have hplus : "+".toList = ['+'] := by decide
  have hminus : "-".toList = ['-'] := by decide
  simp only [htext]
  generalize hlead : d.exponent + ((Nat.toDigits 10 d.digits).length : Int) - 1 = lead
  -- The four forms: digits with zeros behind, a point among them, zeros in front, an exponent.
  split
  · split
    · rename_i hexponent
      have hcount : d.digits ≠ 0 ∨ d.exponent.toNat = 0 := htrim.imp_right fun h => by simp [h]
      exact ⟨_, _, _, isNumberText_zeros hcount, by simp [hzero]⟩
    · split
      · rename_i hexponent hpositive
        have hpos : 0 < (lead + 1).toNat := by omega
        have hless : (lead + 1).toNat < (Nat.toDigits 10 d.digits).length := by omega
        exact ⟨_, _, _, isNumberText_point hpos hless, by simp [hpoint]⟩
      · exact ⟨_, _, _, isNumberText_below (-lead - 1).toNat d.digits, by simp [hbelow]⟩
  · have hsign : (if lead < 0 then '-' else '+') = '+' ∨ (if lead < 0 then '-' else '+') = '-' := by
      split
      · exact .inr rfl
      · exact .inl rfl
    refine ⟨_, _, _, isNumberText_exponent d.digits lead.natAbs hsign, ?_⟩
    by_cases hbelow : lead < 0 <;> by_cases hmore : (Nat.toDigits 10 d.digits).length > 1 <;>
      simp [hbelow, hmore, hpoint, he, hplus, hminus]

/-- A number is written in the form of numbers, perhaps behind a sign. -/
theorem text_number (n : Json.Number) :
    ∃ whole fraction exponent, IsNumberText whole fraction exponent ∧
      (n.text.toList = whole ++ (fraction ++ exponent) ∨
        n.text.toList = '-' :: (whole ++ (fraction ++ exponent))) := by
  have hminus : "-".toList = ['-'] := by decide
  cases n with
  | natural n =>
    refine ⟨Nat.toDigits 10 n, [], [], isNumberText_natural n, .inl ?_⟩
    simp [Number.text]
  | negative n =>
    refine ⟨Nat.toDigits 10 n, [], [], isNumberText_natural n, .inr ?_⟩
    simp [Number.text, hminus]
  | float x =>
    -- Zero is written by hand, as there is no shortest decimal to look for.
    have hwrite : ∃ whole fraction exponent, IsNumberText whole fraction exponent ∧
        (if x.magnitude.mantissa = 0 then "0.0"
          else floatStyle.write x.magnitude.shortest).toList = whole ++ (fraction ++ exponent) := by
      split
      · exact ⟨['0'], ['.', '0'], [], isNumberText_zeros (n := 0) (.inr rfl), by decide⟩
      · rename_i hx
        exact isNumberText_write floatStyle (digits_shortest hx)
    obtain ⟨whole, fraction, exponent, hform, htext⟩ := hwrite
    refine ⟨whole, fraction, exponent, hform, ?_⟩
    have hsign : (Json.Number.float x).text = (if x.negative then "-" else "") ++
        (if x.magnitude.mantissa = 0 then "0.0"
          else floatStyle.write x.magnitude.shortest) := by
      simp only [Number.text, Binary64.write]
      split <;> rfl
    rw [hsign, String.toList_append, htext]
    cases x.negative with
    | true => exact .inr (by simp [hminus])
    | false => exact .inl (by simp)

end ModBuild.Proofs.Json
