import ModBuild.Proofs.Text.Decimal
import ModBuild.Text.Quoted

/-!
# `ModBuild.Proofs.Text.Hexadecimal`: which number hexadecimal digits stand for

`hexDigits` writes a number. What it writes is said here without it, by what each letter is worth.

* `IsHexNumeral`: letters in lower case that stand for a number, with no zero to spare.
* `isHexNumeral_hexDigits`: such letters are written for every number.
-/

set_option autoImplicit false

namespace ModBuild.Proofs.Text

open ModBuild.Text

/-- The hexadecimal digits in lower case. Each stands at the place of its value. -/
def hexLetters : List Char :=
  "0123456789abcdef".toList

/-- The number that hexadecimal digits stand for. -/
def hexValue (digits : List Char) : Nat :=
  digits.foldl (fun n c => 16 * n + hexLetters.idxOf c) 0

/-- Hexadecimal digits in lower case stand for the number. Zero is a single digit, and no other
number starts with a zero. -/
structure IsHexNumeral (digits : List Char) (n : Nat) : Prop where
  nonempty : digits ≠ []
  digit : ∀ c ∈ digits, c ∈ hexLetters
  value : hexValue digits = n
  zero : n = 0 → digits = ['0']
  unpadded : 0 < n → digits.head? ≠ some '0'

/-- A hexadecimal digit stands at its value among the digits. -/
theorem idxOf_digitChar {d : Nat} (h : d < 16) :
    d.digitChar ∈ hexLetters ∧ hexLetters.idxOf d.digitChar = d := by
  have hall : ∀ d < 16, d.digitChar ∈ hexLetters ∧ hexLetters.idxOf d.digitChar = d := by
    decide +kernel
  exact hall d h

/-- A digit behind others counts them sixteen times. -/
theorem hexValue_concat (digits : List Char) (c : Char) :
    hexValue (digits ++ [c]) = 16 * hexValue digits + hexLetters.idxOf c := by
  rw [hexValue, List.foldl_append, List.foldl_cons, List.foldl_nil]
  rfl

/-- The digits are written from the last one to the first, so the induction takes the last one
away. -/
theorem hexValue_toDigits (n : Nat) :
    (∀ c ∈ Nat.toDigits 16 n, c ∈ hexLetters) ∧ hexValue (Nat.toDigits 16 n) = n := by
  induction n using Nat.strongRecOn with
  | ind n ih =>
    rw [Nat.toDigits_eq_if (by decide)]
    split
    · rename_i hsmall
      obtain ⟨hletter, hvalue⟩ := idxOf_digitChar hsmall
      refine ⟨fun c hc => (List.mem_singleton.mp hc) ▸ hletter, ?_⟩
      have hone := hexValue_concat [] n.digitChar
      rw [List.nil_append, hvalue] at hone
      exact hone.trans (Nat.zero_add n)
    · rename_i hlarge
      -- The digits in front are those of the sixteenth part.
      obtain ⟨hletters, hfront⟩ := ih (n / 16) (by omega)
      obtain ⟨hletter, hlast⟩ := idxOf_digitChar (Nat.mod_lt n (by decide : 0 < 16))
      refine ⟨fun c hc => ?_, ?_⟩
      · rcases List.mem_append.mp hc with hc | hc
        · exact hletters c hc
        · exact (List.mem_singleton.mp hc) ▸ hletter
      · rw [hexValue_concat, hfront, hlast]
        omega

/-- What is written for a number stands for it. -/
theorem isHexNumeral_hexDigits (n : Nat) : IsHexNumeral (hexDigits n).toList n := by
  rw [hexDigits, String.toList_ofList]
  obtain ⟨hdigit, hvalue⟩ := hexValue_toDigits n
  refine ⟨Nat.toDigits_ne_nil, hdigit, hvalue, ?_, head?_toDigits (by decide) (by decide)⟩
  rintro rfl
  exact Nat.toDigits_zero 16

end ModBuild.Proofs.Text
