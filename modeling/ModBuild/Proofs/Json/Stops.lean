import ModBuild.Json.Record
import ModBuild.Proofs.Json.TakenOff

/-!
# `ModBuild.Proofs.Json.Stops`: readers stop where a document ends

A reader that asks for a text, a list or an object stops where `skipped` does, although the latter
looks at less: it does not ask whether the numbers of an escape make a character. The theorems:

* `skippedString_of_stringOnto` and `takesOff_of_text`: texts.
* `TakesOff.item` and `takesOff_listEnd`: the items of a list, and its end.
* `nextPart_of_nextKey` and `takesOff_objectEnd`: the members of an object, and its end.
-/

set_option autoImplicit false

namespace ModBuild.Proofs.Json

open ModBuild ModBuild.Json

/-! ### Texts -/

section Texts

variable {s rest : List Char}

/-- A coded character that can be read is passed over in a string. -/
theorem skippedString_of_hexEscape {n : Nat} (h : hexEscape s = .ok (n, rest)) :
    skippedString ('\\' :: 'u' :: s) = skippedString rest := by
  refine skippedString_escape ?_
  rw [skippedEscape, if_pos rfl, h]
  rfl

/-- What is left behind a mark stands behind its character. -/
theorem eq_cons_of_escapeMark {c : Char} (h : escapeMark c s = .ok rest) : s = c :: rest := by
  cases s with
  | nil => cases h
  | cons d s =>
    rw [escapeMark] at h
    split at h
    · rename_i heq
      cases h
      rw [heq]
    · cases h

/-- Of an escape with a pair of numbers, each is taken off as an escape of its own. -/
theorem skippedString_of_numberedChar {c : Char} (h : numberedChar s = .ok (c, rest)) :
    skippedString ('\\' :: 'u' :: s) = skippedString rest := by
  unfold numberedChar at h
  obtain ⟨⟨high, behind⟩, hhigh, h⟩ := bind_eq_ok h
  rw [skippedString_of_hexEscape hhigh]
  simp only at h
  split at h
  · cases h
  split at h
  · -- The number calls for a second one.
    obtain ⟨second, hsecond, h⟩ := bind_eq_ok h
    obtain ⟨digits, hdigits, h⟩ := bind_eq_ok h
    obtain ⟨⟨low, left⟩, hlow, h⟩ := bind_eq_ok h
    simp only at h
    split at h
    · obtain ⟨-, rfl⟩ := Prod.mk.inj (Except.ok.inj h)
      rw [eq_cons_of_escapeMark hsecond, eq_cons_of_escapeMark hdigits,
        skippedString_of_hexEscape hlow]
    · cases h
  · cases h
    rfl

/-- An escape that can be read is passed over in a string. -/
theorem skippedString_of_escape {c : Char} (h : escape s = .ok (c, rest)) :
    skippedString ('\\' :: s) = skippedString rest := by
  cases s with
  | nil => cases h
  | cons d s =>
    rw [escape] at h
    split at h
    · rename_i hu
      subst hu
      exact skippedString_of_numberedChar h
    · -- Any other escape is a single letter, which both readers know or neither does.
      rename_i hu
      refine skippedString_escape ?_
      rw [skippedEscape, if_neg hu]
      cases hplain : plainEscape? d with
      | some e =>
        rw [hplain] at h
        cases h
        exact if_pos rfl
      | none =>
        rw [hplain] at h
        cases h

/-- A string that is read is taken off. -/
theorem skippedString_of_stringOnto {read : List Char} {t : String}
    (h : stringOnto read s = .ok (t, rest)) : skippedString s = .ok rest := by
  fun_induction stringOnto read s with
  | case1 => cases h
  | case2 read s =>
    cases h
    rw [skippedString, if_pos rfl]
  | case3 read s c next hescape hquote ih => rw [skippedString_of_escape hescape, ih h]
  | case4 => cases h
  | case5 => cases h
  | case6 read c s hquote hslash hcontrol ih =>
    rw [skippedString, if_neg hquote, if_neg hslash, if_neg hcontrol, ih h]

/-- A string that can be read is taken off as a value. -/
theorem takesOff_of_text {t : String} (h : text s = .ok (t, rest)) :
    TakesOff (.atValue []) s rest := by
  refine takesOff_scalar ?_
  unfold text at h
  split at h
  · cases h
  · rename_i behind heq
    have hskip : skippedString behind = .ok rest := skippedString_of_stringOnto h
    unfold skippedScalar
    rw [heq]
    simp only [hskip]
    rfl
  · cases h

end Texts

/-! ### Lists and objects -/

section Parts

variable {first : Bool} {s s' rest : List Char}

/-- A list is taken off with its items. -/
theorem TakesOff.list (h : TakesOff (.inside .list [] true) s' rest)
    (heq : skipBlanks s = '[' :: s') : TakesOff (.atValue []) s rest := by
  refine h.opened ?_
  unfold skippedScalar
  rw [heq]
  rfl

/-- An object is taken off with its members. -/
theorem TakesOff.object (h : TakesOff (.inside .object [] true) s' rest)
    (heq : skipBlanks s = '\x7b' :: s') : TakesOff (.atValue []) s rest := by
  refine h.opened ?_
  unfold skippedScalar
  rw [heq]
  rfl

/-- The next item of a list is the next part of it. -/
theorem TakesOff.item (h : TakesOff (.atValue [.list]) s' rest)
    (hitem : nextItem first s = .ok (true, s')) : TakesOff (.inside .list [] first) s rest := by
  -- The text may be left at blanks in front of the item, which do not matter.
  obtain ⟨start, hpart, rfl⟩ : ∃ start, nextPart .list first s = .ok (true, start) ∧
      skipBlanks start = s' := by
    have hidem := skipBlanks_skipBlanks s
    unfold nextItem at hitem
    unfold nextPart
    split at hitem
    · cases hitem
    · cases hitem
    · rename_i behind heq
      rw [heq] at hidem
      cases first with
      | true =>
        cases hitem
        exact ⟨_, by rw [heq]; rfl, hidem⟩
      | false =>
        refine ⟨behind, by rw [heq]; rfl, ?_⟩
        simp only [Bool.false_eq_true, if_false] at hitem
        split at hitem
        · cases hitem
        · cases hitem
        · cases hitem
          rfl
    · rename_i hne hclosing hcomma
      cases first with
      | true =>
        cases hitem
        refine ⟨skipBlanks s, ?_, hidem⟩
        cases hs : skipBlanks s with
        | nil => exact absurd hs hne
        | cons c behind =>
          have hc : c ≠ ']' := by
            rintro rfl
            exact hclosing behind hs
          show (if c = ']' then _ else _) = _
          rw [if_neg hc]
          rfl
      | false => cases hitem
  exact h.of_skipBlanks.part hpart

/-- There is no item only in front of the bracket that closes. -/
theorem nextItem_closing (h : nextItem first s = .ok (false, s')) :
    ∃ behind, skipBlanks s = ']' :: behind ∧ s' = ']' :: behind := by
  unfold nextItem at h
  split at h
  · cases h
  · rename_i behind heq
    cases h
    exact ⟨behind, heq, rfl⟩
  · split at h
    · cases h
    · split at h <;> cases h
  · split at h <;> cases h

/-- And in front of that bracket there is none. -/
theorem nextItem_of_listEnd (h : listEnd s = .ok rest) :
    nextItem first s = .ok (false, ']' :: rest) := by
  have heq : skipBlanks s = ']' :: rest := by
    unfold listEnd at h
    split at h
    · cases h
    · rename_i heq
      cases h
      exact heq
    · split at h <;> cases h
    · cases h
  unfold nextItem
  simp only [heq]

/-- Behind the last item the list ends. -/
theorem takesOff_listEnd (hitem : nextItem first s = .ok (false, s'))
    (hend : listEnd s' = .ok rest) : TakesOff (.inside .list [] first) s rest := by
  obtain ⟨behind, heq, rfl⟩ := nextItem_closing hitem
  cases hend
  refine takesOff_closing ?_
  unfold nextPart
  rw [heq]
  rfl

/-- A name that can be read is passed over together with its colon. -/
theorem skippedKey_of_stringBody {name : String} {behind : List Char}
    (hs : skipBlanks s = '"' :: s') (hname : stringBody s' = .ok (name, behind))
    (hcolon : colon behind = .ok rest) : skippedKey s = .ok rest := by
  have hskip : skippedString s' = .ok behind := skippedString_of_stringOnto hname
  unfold skippedKey
  rw [hs]
  simp only [hskip]
  exact hcolon

/-- The next member of an object is the next part of it. -/
theorem nextPart_of_nextKey {name : String} (hkey : nextKey first s = .ok (some name, s'))
    (hcolon : colon s' = .ok rest) : nextPart .object first s = .ok (true, rest) := by
  have hread : ∀ {s behind : List Char},
      (stringBody s >>= fun found => .ok (some found.1, found.2)) = .ok (some name, s') →
      skipBlanks behind = '"' :: s → skippedKey behind = .ok rest := by
    intro s behind h hs
    obtain ⟨found, hname, hsame⟩ := bind_eq_ok h
    cases hsame
    exact skippedKey_of_stringBody hs hname hcolon
  -- Both look behind the comma for a name, and the skip then takes the colon besides.
  unfold nextKey at hkey
  unfold nextPart
  simp only at hkey
  split at hkey
  · cases hkey
  · cases hkey
  · rename_i c behind hclosing heq
    have hc : c ≠ closingOf .object := hclosing
    rw [heq]
    simp only [if_neg hc]
    cases first with
    | true =>
      rw [if_pos rfl] at hkey ⊢
      split at hkey
      · rename_i hquote
        subst hquote
        rw [show skippedName .object _ = skippedKey _ from rfl, hread hkey rfl]
        rfl
      · cases hkey
    | false =>
      rw [if_neg (by decide)] at hkey ⊢
      split at hkey
      · rename_i hcomma
        rw [if_pos hcomma]
        split at hkey
        · cases hkey
        · rename_i hs
          rw [show skippedName .object _ = skippedKey _ from rfl, hread hkey hs]
          rfl
        · cases hkey
        · cases hkey
      · cases hkey

/-- Behind the last member the object ends. -/
theorem takesOff_objectEnd (hkey : nextKey first s = .ok (none, s'))
    (hend : objectEnd s' = .ok rest) : TakesOff (.inside .object [] first) s rest := by
  -- If a name were read, the answer would not be that there is none.
  have hread : ∀ {s : List Char},
      ¬ (stringBody s >>= fun found => .ok (some found.1, found.2)) = .ok (none, s') := by
    intro s h
    obtain ⟨found, -, hsame⟩ := bind_eq_ok h
    cases hsame
  refine takesOff_closing ?_
  unfold nextKey at hkey
  unfold nextPart
  simp only at hkey
  split at hkey
  · cases hkey
  · rename_i behind heq
    cases hkey
    cases hend
    rw [heq]
    rfl
  · split at hkey
    · split at hkey
      · exact (hread hkey).elim
      · cases hkey
    · split at hkey
      · split at hkey
        · cases hkey
        · exact (hread hkey).elim
        · cases hkey
        · cases hkey
      · cases hkey

end Parts

end ModBuild.Proofs.Json
