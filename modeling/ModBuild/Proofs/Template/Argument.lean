import ModBuild.Proofs.Template.Grammar
import ModBuild.Proofs.Text.Hexadecimal
import ModBuild.Proofs.Text.Signed

/-!
# `ModBuild.Proofs.Template.Argument`: what an argument is taken for, and how it is written

On a command line every argument is a text. It is taken for a number of 64 bits, for a truth value,
or for the text that it is, and it is written as what it was taken for. The theorems:

* `infer_cases`: the three cases by the spelling of the text.
* `infer_display_int` and `infer_display_bool`: what is written for a number or a truth value is
  taken for it again.
* `display_infer_eq_iff`: an argument is written as it was spelled, unless it spells a number with
  something to spare.
* `format_conversion`: a format that is one conversion writes one argument.
* `infer_by_spelling`: all of this, with the texts that `%d` and `%x` give at either end of the
  range.
-/

set_option autoImplicit false

namespace ModBuild.Proofs.Template

open ModBuild ModBuild.Template ModBuild.Proofs.Text
open ModBuild.Template.Argument (infer truthText)

variable {a s : String} {v : Int64} {b : Bool}

/-! ### What a text is taken for -/

/-- A truth value spells no number. -/
theorem not_signed_truthText (b : Bool) (n : Int) : ¬ Signed (truthText b).toList n := by
  intro h
  cases b with
  | false => exact absurd (h.isDigit_of_mem_tail (d := 'a') (by decide)) (by decide)
  | true => exact absurd (h.isDigit_of_mem_tail (d := 'r') (by decide)) (by decide)

/-- A text is taken for the number that it spells, else for the truth value that it is, else for
itself. -/
theorem infer_cases (a : String) :
    (∃ v : Int64, Signed a.toList v.toInt ∧ infer a = .int v) ∨
      (∃ b, a = truthText b ∧ infer a = .bool b) ∨
      (∀ v : Int64, ¬ Signed a.toList v.toInt) ∧ (∀ b, a ≠ truthText b) ∧ infer a = .text a := by
  unfold infer
  split
  · rename_i v hread
    exact .inl ⟨v, signedInteger?_eq_some_iff.mp hread, rfl⟩
  · rename_i hnone
    split
    · rename_i htrue
      exact .inr (.inl ⟨true, htrue, rfl⟩)
    · rename_i htrue
      split
      · rename_i hfalse
        exact .inr (.inl ⟨false, hfalse, rfl⟩)
      · rename_i hfalse
        -- The three readings were tried in turn, so each of the other two is ruled out here.
        refine .inr (.inr ⟨fun v hv => ?_, fun b => ?_, rfl⟩)
        · rw [signedInteger?_eq_some_iff.mpr hv] at hnone
          cases hnone
        · cases b with
          | false => exact hfalse
          | true => exact htrue

/-- A text that spells a number of 64 bits is that number. -/
theorem infer_of_signed (h : Signed a.toList v.toInt) : infer a = .int v := by
  unfold infer
  rw [signedInteger?_eq_some_iff.mpr h]

/-- The two words for truth values are truth values. -/
theorem infer_truthText (b : Bool) : infer (truthText b) = .bool b := by
  cases b with
  | false => decide
  | true => decide

/-- An argument is a number exactly if its text spells one of 64 bits. -/
theorem infer_eq_int_iff : infer a = .int v ↔ Signed a.toList v.toInt := by
  constructor
  · intro h
    rcases infer_cases a with ⟨v', hv', hinfer⟩ | ⟨b, -, hinfer⟩ | ⟨-, -, hinfer⟩
    · rw [hinfer] at h
      cases h
      exact hv'
    · rw [hinfer] at h
      cases h
    · rw [hinfer] at h
      cases h
  · exact infer_of_signed

/-- An argument is a truth value exactly if its text is the word for it. -/
theorem infer_eq_bool_iff : infer a = .bool b ↔ a = truthText b := by
  constructor
  · intro h
    rcases infer_cases a with ⟨v, -, hinfer⟩ | ⟨b', hb', hinfer⟩ | ⟨-, -, hinfer⟩
    · rw [hinfer] at h
      cases h
    · rw [hinfer] at h
      cases h
      exact hb'
    · rw [hinfer] at h
      cases h
  · rintro rfl
    exact infer_truthText b

/-- The number is one of 64 bits, in two's complement. -/
def IsWord (n : Int) : Prop :=
  -2 ^ 63 ≤ n ∧ n ≤ 2 ^ 63 - 1

/-- A number of 64 bits is in the range of such numbers. -/
theorem isWord_toInt (v : Int64) : IsWord v.toInt := by
  have hhigh := v.toInt_lt
  exact ⟨v.le_toInt, by omega⟩

/-- Every number in the range is one of 64 bits. -/
theorem IsWord.exists_toInt {n : Int} (h : IsWord n) : ∃ v : Int64, v.toInt = n := by
  obtain ⟨hlow, hhigh⟩ := h
  exact ⟨Int64.ofInt n, Int64.toInt_ofInt_of_le hlow (by omega)⟩

/-- A text is taken for a number exactly if it spells the number and the number is one of 64
bits. -/
theorem exists_infer_eq_int_iff {n : Int} :
    (∃ v : Int64, infer a = .int v ∧ v.toInt = n) ↔ Signed a.toList n ∧ IsWord n := by
  constructor
  · rintro ⟨v, hv, rfl⟩
    exact ⟨infer_eq_int_iff.mp hv, isWord_toInt v⟩
  · rintro ⟨hn, hword⟩
    obtain ⟨v, rfl⟩ := hword.exists_toInt
    exact ⟨v, infer_eq_int_iff.mpr hn, rfl⟩

/-- A text is taken for itself if it is nothing else. -/
theorem infer_eq_text_iff :
    infer a = .text s ↔
      s = a ∧ a ≠ "true" ∧ a ≠ "false" ∧ ¬ ∃ n, Signed a.toList n ∧ IsWord n := by
  constructor
  · intro h
    rcases infer_cases a with ⟨v, -, hinfer⟩ | ⟨b, -, hinfer⟩ | ⟨hnumber, htruth, hinfer⟩
    · rw [hinfer] at h
      cases h
    · rw [hinfer] at h
      cases h
    · rw [hinfer] at h
      cases h
      refine ⟨rfl, htruth true, htruth false, ?_⟩
      rintro ⟨n, hn, hword⟩
      obtain ⟨v, rfl⟩ := hword.exists_toInt
      exact hnumber v hn
  · -- Each of the other readings is one of those that were ruled out.
    rintro ⟨rfl, htrue, hfalse, hnumber⟩
    rcases infer_cases s with ⟨v, hv, -⟩ | ⟨b, hb, -⟩ | ⟨-, -, hinfer⟩
    · exact absurd ⟨v.toInt, hv, isWord_toInt v⟩ hnumber
    · cases b with
      | false => exact absurd hb hfalse
      | true => exact absurd hb htrue
    · exact hinfer

/-! ### How it is written -/

/-- A number is shown in decimal. -/
theorem display_int (v : Int64) : (Argument.int v).display = toString v.toInt :=
  rfl

/-- What is written for a number is taken for the number. -/
theorem infer_display_int (v : Int64) : infer (Argument.int v).display = .int v :=
  infer_of_signed (signed_toString v.toInt)

/-- What is written for a truth value is taken for it. -/
theorem infer_display_bool (b : Bool) : infer (Argument.bool b).display = .bool b :=
  infer_truthText b

/-- A text that spells a number is shown as the number in decimal, whatever its spelling. -/
theorem display_infer_of_signed (h : Signed a.toList v.toInt) :
    (infer a).display = toString v.toInt := by
  rw [infer_of_signed h, display_int]

/-- An argument is written as it was spelled, unless it spells a number with something to spare. -/
theorem display_infer_eq_iff :
    (infer a).display = a ↔ ¬ ((∃ v : Int64, Signed a.toList v.toInt) ∧ HasSpare a.toList) := by
  rcases infer_cases a with ⟨v, hv, -⟩ | ⟨b, rfl, hinfer⟩ | ⟨hnumber, -, hinfer⟩
  · have hspell : (infer a).display = a ↔ ¬ HasSpare a.toList := by
      rw [display_infer_of_signed hv, ← hv.eq_toString_iff, String.toList_inj, eq_comm]
    rw [hspell, not_and]
    exact ⟨fun h _ => h, fun h => h ⟨v, hv⟩⟩
  · rw [hinfer]
    refine iff_of_true rfl ?_
    rintro ⟨⟨v, hv⟩, -⟩
    exact not_signed_truthText b v.toInt hv
  · rw [hinfer]
    refine iff_of_true rfl ?_
    rintro ⟨⟨v, hv⟩, -⟩
    exact hnumber v hv

/-- A format that is one conversion writes the first argument. -/
theorem format_conversion {conversion : Conversion} {arg : Argument} {text : String}
    (h : WrittenAs conversion arg text) (more : List Argument) :
    format (String.ofList ['%', conversion.letter]) (arg :: more) = .ok text := by
  refine format_eq_ok_iff.mpr ⟨[.convert none conversion], ?_, ?_⟩
  · rw [String.toList_ofList]
    exact .cons (.next conversion) .nil
  · exact .convert .nil rfl h

/-- A word stands for the number modulo the count of words. -/
theorem toNat_toUInt64 (v : Int64) : v.toUInt64.toNat = (v.toInt % 2 ^ 64).toNat := by
  have hbits : v.toInt % 2 ^ 64 = (v.toUInt64.toNat : Int) % 2 ^ 64 := by
    have hsigned : v.toInt = (v.toUInt64.toNat : Int).bmod (2 ^ 64) :=
      BitVec.toInt_eq_toNat_bmod v.toBitVec
    rw [hsigned]
    exact Int.bmod_emod
  have hlt : v.toUInt64.toNat < 2 ^ 64 := v.toUInt64.toNat_lt
  omega

/-! ### Result -/

/-- A text is taken for a number exactly if it is one or more digits behind one sign or none, and
the number is one of 64 bits; for a truth value if it is the name of one; and for itself else, so
also if the number is too large. What is written for a number or a truth value is taken for it
again. `%d` writes a number in decimal and `%x` its word in hexadecimal, both with nothing to
spare. -/
theorem infer_by_spelling :
    (∀ a : String,
      (∀ n : Int, (∃ v : Int64, infer a = .int v ∧ v.toInt = n) ↔ Signed a.toList n ∧ IsWord n) ∧
      (∀ b, infer a = .bool b ↔ a = if b then "true" else "false") ∧
      (∀ s, infer a = .text s ↔
        s = a ∧ a ≠ "true" ∧ a ≠ "false" ∧ ¬ ∃ n, Signed a.toList n ∧ IsWord n) ∧
      ∀ n : Int, Signed a.toList n → ¬ IsWord n → infer a = .text a) ∧
    (∀ v : Int64, infer (Argument.int v).display = .int v) ∧
    (∀ b : Bool, infer (Argument.bool b).display = .bool b) ∧
    ∀ v : Int64,
      (∃ text, format "%d" [.int v] = .ok text ∧
        Signed text.toList v.toInt ∧ ¬ HasSpare text.toList) ∧
      ∃ text, format "%x" [.int v] = .ok text ∧
        IsHexNumeral text.toList (v.toInt % 2 ^ 64).toNat := by
  refine ⟨fun a => ⟨fun n => exists_infer_eq_int_iff, fun b => infer_eq_bool_iff,
    fun s => infer_eq_text_iff, fun n hn hlarge => ?_⟩, infer_display_int, infer_display_bool,
    fun v => ⟨?_, ?_⟩⟩
  · -- The text spells no other number, and it is no truth value.
    rcases infer_cases a with ⟨v, hv, -⟩ | ⟨b, rfl, -⟩ | ⟨-, -, hinfer⟩
    · exact absurd (hn.unique hv ▸ isWord_toInt v) hlarge
    · exact absurd hn (not_signed_truthText b n)
    · exact hinfer
  · exact ⟨_, format_conversion (.decimal v) [], signed_toString _, not_hasSpare_toString _⟩
  · refine ⟨_, format_conversion (.hex v) [], ?_⟩
    rw [← toNat_toUInt64]
    exact isHexNumeral_hexDigits _

/-- There is one number more below zero than above it, and a sign does not make room. -/
theorem infer_beyond_the_ends :
    Signed "+9223372036854775808".toList 9223372036854775808 ∧ ¬ IsWord 9223372036854775808 ∧
      infer "+9223372036854775808" = .text "+9223372036854775808" ∧
      ∃ v : Int64, infer "-9223372036854775808" = .int v ∧ v.toInt = -9223372036854775808 := by
  have hnumeral : IsNumeral "9223372036854775808".toList 9223372036854775808 :=
    ⟨by decide, List.all_eq_true.mp (by decide), by decide⟩
  have habove : Signed "+9223372036854775808".toList 9223372036854775808 := .plus hnumeral
  have hbelow : Signed "-9223372036854775808".toList (-9223372036854775808) := .minus hnumeral
  have hlarge : ¬ IsWord 9223372036854775808 := by
    unfold IsWord
    omega
  have hword : IsWord (-9223372036854775808) := by
    unfold IsWord
    omega
  obtain ⟨-, -, -, hstays⟩ := infer_by_spelling.1 "+9223372036854775808"
  obtain ⟨hnumber, -, -, -⟩ := infer_by_spelling.1 "-9223372036854775808"
  exact ⟨habove, hlarge, hstays _ habove hlarge, (hnumber _).mpr ⟨hbelow, hword⟩⟩

end ModBuild.Proofs.Template
