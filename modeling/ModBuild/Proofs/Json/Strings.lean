import ModBuild.Json.Reader
import ModBuild.Json.Writer

/-!
# `ModBuild.Proofs.Json.Strings`: strings that are written are read back

The writer escapes few characters, and the reader knows more escapes than the writer uses. The
theorems:

* `escaped_cases`: what stands for one character.
* `stringBody_written`: a string that is written is read back.
* `skippedString_written`: it is taken off as a whole where nobody asks for it.
-/

set_option autoImplicit false

namespace ModBuild.Proofs.Json

open ModBuild ModBuild.Json

/-! ### One character -/

/-- Digits in lower case are read. -/
theorem hexDigit?_digitChar {d : Nat} (h : d < 16) :
    Text.hexDigit? (Nat.digitChar d) = some d := by
  have hall : ∀ d < 16, Text.hexDigit? (Nat.digitChar d) = some d := by decide
  exact hall d h

/-- Every character takes at least one byte. -/
theorem length_le_utf8Length (s : List Char) : s.length ≤ Template.utf8Length s := by
  have hall : ∀ n, n + s.length ≤ s.foldl (fun n c => n + c.utf8Size) n := by
    induction s with
    | nil =>
      intro n
      exact Nat.le_refl n
    | cons c s ih =>
      intro n
      have hsize := Char.utf8Size_pos c
      have hrest := ih (n + c.utf8Size)
      simp only [List.length_cons, List.foldl_cons]
      omega
  simpa [Template.utf8Length] using hall 0

/-- Four digits are read, whatever follows. -/
theorem hexEscape_digits {digits : List Char} (hlength : digits.length = 4)
    (hdigits : digits.all (fun c => (Text.hexDigit? c).isSome) = true) (rest : List Char) :
    hexEscape (digits ++ rest) = .ok (Text.hexNumber digits, rest) := by
  have htake : (digits ++ rest).take 4 = digits := List.take_left' hlength
  have hdrop : (digits ++ rest).drop 4 = rest := List.drop_left' hlength
  have hbytes : ¬ Template.utf8Length digits < 4 := by
    have hle := length_le_utf8Length digits
    omega
  unfold hexEscape
  simp only [htake, hdrop, hlength, hdigits, if_neg hbytes]
  rfl

/-- The digits of a control character. -/
def controlDigits (c : Char) : List Char :=
  ['0', '0', Nat.digitChar (c.toNat / 16), Nat.digitChar (c.toNat % 16)]

/-- The number of a control character is written with two digits behind two zeros. -/
theorem hexEscape_control {c : Char} (h : c.toNat < 32) (rest : List Char) :
    hexEscape (controlDigits c ++ rest) = .ok (c.toNat, rest) := by
  have hhigh := hexDigit?_digitChar (d := c.toNat / 16) (by omega)
  have hlow := hexDigit?_digitChar (d := c.toNat % 16) (by omega)
  have hzero : Text.hexDigit? '0' = some 0 := rfl
  have hdigits : (controlDigits c).all (fun c => (Text.hexDigit? c).isSome) = true := by
    simp [controlDigits, hhigh, hlow, hzero]
  have hvalue : Text.hexNumber (controlDigits c) = c.toNat := by
    simp only [controlDigits, Text.hexNumber, List.foldl_cons, List.foldl_nil, hzero, hhigh, hlow,
      Option.getD_some]
    omega
  rw [hexEscape_digits rfl hdigits, hvalue]

/-- A character stands for itself, or an escape stands for it. -/
theorem escaped_cases (c : Char) :
    (escaped c = [c] ∧ c ≠ '"' ∧ c ≠ '\\' ∧ ¬ c.toNat < 32) ∨
    ∃ letter more, escaped c = '\\' :: letter :: more ∧
      (∀ rest, escape (letter :: more ++ rest) = .ok (c, rest)) ∧
      ∀ rest, skippedEscape (letter :: more ++ rest) = .ok rest := by
  unfold escaped
  by_cases hquote : c = '"'
  · subst hquote
    exact .inr ⟨'"', [], rfl, fun _ => rfl, fun _ => rfl⟩
  by_cases hslash : c = '\\'
  · subst hslash
    exact .inr ⟨'\\', [], rfl, fun _ => rfl, fun _ => rfl⟩
  by_cases hcontrol : c.toNat < 32
  · right
    -- All other characters below 32 are escaped: five by a letter of their own, the rest by a
    -- number.
    rw [if_neg hquote, if_neg hslash, if_pos hcontrol]
    by_cases hn : c = '\n'
    · subst hn
      exact ⟨'n', [], rfl, fun _ => rfl, fun _ => rfl⟩
    by_cases hr : c = '\r'
    · subst hr
      exact ⟨'r', [], rfl, fun _ => rfl, fun _ => rfl⟩
    by_cases ht : c = '\t'
    · subst ht
      exact ⟨'t', [], rfl, fun _ => rfl, fun _ => rfl⟩
    rw [if_neg hn, if_neg hr, if_neg ht]
    by_cases hb : c.toNat = 8
    · obtain rfl : c = '\x08' := Char.toNat_inj.mp hb
      exact ⟨'b', [], rfl, fun _ => rfl, fun _ => rfl⟩
    by_cases hf : c.toNat = 12
    · obtain rfl : c = '\x0c' := Char.toNat_inj.mp hf
      exact ⟨'f', [], rfl, fun _ => rfl, fun _ => rfl⟩
    rw [if_neg hb, if_neg hf]
    refine ⟨'u', controlDigits c, rfl, fun rest => ?_, fun rest => ?_⟩
    · -- A control character is no surrogate.
      have hlow : (decide (0xDC00 ≤ c.toNat) && decide (c.toNat ≤ 0xDFFF)) = false := by
        rw [Bool.and_eq_false_iff, decide_eq_false_iff_not]
        exact .inl (by omega)
      have hhigh : (decide (0xD800 ≤ c.toNat) && decide (c.toNat ≤ 0xDBFF)) = false := by
        rw [Bool.and_eq_false_iff, decide_eq_false_iff_not]
        exact .inl (by omega)
      show numberedChar (controlDigits c ++ rest) = _
      unfold numberedChar
      rw [hexEscape_control hcontrol]
      simp only [bind, Except.bind, hlow, hhigh, Bool.false_eq_true, if_false, Char.ofNat_toNat]
    · show (hexEscape (controlDigits c ++ rest)).map (·.2) = _
      rw [hexEscape_control hcontrol]
      rfl
  · left
    rw [if_neg hquote, if_neg hslash, if_neg hcontrol]
    exact ⟨rfl, hquote, hslash, hcontrol⟩

/-! ### Strings -/

/-- A character without a special meaning is read as itself. -/
theorem stringOnto_plain {c : Char} (hquote : c ≠ '"') (hslash : c ≠ '\\')
    (hcontrol : ¬ c.toNat < 32) (read s : List Char) :
    stringOnto read (c :: s) = stringOnto (c :: read) s := by
  rw [stringOnto, if_neg hquote, if_neg hslash, if_neg hcontrol]

/-- An escape is read as the character that it stands for. -/
theorem stringOnto_escape {c : Char} {s rest : List Char} (h : escape s = .ok (c, rest))
    (read : List Char) : stringOnto read ('\\' :: s) = stringOnto (c :: read) rest := by
  rw [stringOnto, if_neg (by decide), if_pos rfl]
  split
  · rename_i hescape
    rw [h] at hescape
    cases hescape
    rfl
  · rename_i hescape
    rw [h] at hescape
    cases hescape

/-- A string is read as it is written, up to its closing quote. -/
theorem stringOnto_written (s read rest : List Char) :
    stringOnto read (s.flatMap escaped ++ '"' :: rest) =
      .ok (String.ofList (read.reverse ++ s), rest) := by
  induction s generalizing read with
  | nil =>
    show stringOnto read ('"' :: rest) = _
    rw [stringOnto, if_pos rfl, List.append_nil]
  | cons c s ih =>
    rw [List.flatMap_cons, List.append_assoc]
    rcases escaped_cases c with
      ⟨hself, hquote, hslash, hcontrol⟩ | ⟨letter, more, hescaped, hescape, -⟩
    · rw [hself, List.singleton_append, stringOnto_plain hquote hslash hcontrol, ih]
      simp
    · rw [hescaped, List.cons_append, stringOnto_escape (hescape _), ih]
      simp

/-- A string that is written is read back. -/
theorem stringBody_written (s : String) (rest : List Char) :
    stringBody (s.toList.flatMap escaped ++ '"' :: rest) = .ok (s, rest) := by
  unfold stringBody
  rw [stringOnto_written, List.reverse_nil, List.nil_append, String.ofList_toList]

/-- An escape is passed over in a string. -/
theorem skippedString_escape {s rest : List Char} (h : skippedEscape s = .ok rest) :
    skippedString ('\\' :: s) = skippedString rest := by
  rw [skippedString, if_neg (by decide), if_pos rfl]
  split
  · rename_i hescape
    rw [h] at hescape
    cases hescape
    rfl
  · rename_i hescape
    rw [h] at hescape
    cases hescape

/-- A string that is written is taken off as a whole. -/
theorem skippedString_written (s rest : List Char) :
    skippedString (s.flatMap escaped ++ '"' :: rest) = .ok rest := by
  induction s with
  | nil =>
    show skippedString ('"' :: rest) = _
    rw [skippedString, if_pos rfl]
  | cons c s ih =>
    rw [List.flatMap_cons, List.append_assoc]
    rcases escaped_cases c with
      ⟨hself, hquote, hslash, hcontrol⟩ | ⟨letter, more, hescaped, -, hskipped⟩
    · rw [hself, List.singleton_append, skippedString, if_neg hquote, if_neg hslash,
        if_neg hcontrol, ih]
    · rw [hescaped, List.cons_append, skippedString_escape (hskipped _), ih]

end ModBuild.Proofs.Json
