import ModBuild.Proofs.Template.Kinds
import ModBuild.Proofs.Template.Length
import ModBuild.Proofs.Template.Settled
import ModBuild.Proofs.Template.Table

/-!
# `ModBuild.Proofs.Template.Escaped`: texts that are written as they are

In a format a percent sign begins a directive, so a text that is to come out as it is has each of
its percent signs doubled. The theorems:

* `format_escaped`: such a format gives the text, whatever the arguments are.
* `tokenFree_escaped_iff`: doubling neither makes tokens nor breaks any.
* `expand_insert`: a name expands to the value that it was registered with, if that holds no token
  and keeps the limit.
* `render_escaped`: all of this for a value that is registered with its percent signs doubled.
-/

set_option autoImplicit false

namespace ModBuild.Proofs.Template

open ModBuild ModBuild.Template

/-! ### Percent signs -/

/-- What is written for a character of a text that a format is to give as it is. -/
def escapedChar (c : Char) : List Char :=
  if c = '%' then ['%', '%'] else [c]

/-- The characters with every percent sign doubled. -/
def escapedChars (s : List Char) : List Char :=
  s.flatMap escapedChar

/-- The text with every percent sign doubled. -/
def escaped (s : String) : String :=
  String.ofList (escapedChars s.toList)

/-- Characters are escaped one by one. -/
theorem escapedChars_cons (c : Char) (rest : List Char) :
    escapedChars (c :: rest) = escapedChar c ++ escapedChars rest :=
  List.flatMap_cons

/-- A doubled percent sign is a directive, and so is any other character by itself. -/
theorem spelled_escapedChar (c : Char) : Spelled (escapedChar c) (.literal c) := by
  unfold escapedChar
  split
  · rename_i hc
    rw [hc]
    exact .percent
  · rename_i hc
    exact .literal hc

/-- An escaped text is read as the characters of the text, as they are. -/
theorem splits_escapedChars (s : List Char) : Splits (escapedChars s) (s.map .literal) := by
  induction s with
  | nil => exact .nil
  | cons c rest ih =>
    rw [escapedChars_cons, List.map_cons]
    exact .cons (spelled_escapedChar c) ih

/-- Literals refer to no argument, so they come to what they come to without any. -/
theorem filled_literals (args : List Argument) (out : List Char) :
    Filled args (out.map .literal) out := by
  have hnone : Filled [] (out.map .literal) out := filled_nil_iff.mpr rfl
  exact filled_of_referred hnone fun i a _ ha => by simp at ha

/-- A text comes out as it is. -/
theorem format_escaped (s : String) (args : List Argument) : format (escaped s) args = .ok s := by
  refine format_eq_ok_iff.mpr ⟨s.toList.map .literal, ?_, filled_literals args s.toList⟩
  rw [escaped, String.toList_ofList]
  exact splits_escapedChars s.toList

/-! ### Tokens -/

/-- A percent sign belongs to no token, and neither do two of them. Other characters can be part of
one, so they are moved to the text in front. -/
theorem tokenFree_append_escapedChars_iff {front s : List Char} :
    TokenFree (front ++ escapedChars s) ↔ TokenFree (front ++ s) := by
  induction s generalizing front with
  | nil => rfl
  | cons c rest ih =>
    rw [escapedChars_cons]
    by_cases hc : c = '%'
    · subst hc
      have htwo : escapedChar '%' ++ escapedChars rest =
          '%' :: ([] ++ '%' :: escapedChars rest) := rfl
      have hempty : TokenFree [] := tokenFree_of_not_mem List.not_mem_nil
      have hrest : TokenFree ([] ++ escapedChars rest) ↔ TokenFree ([] ++ rest) := ih
      rw [htwo, tokenFree_append_separator_iff isSeparator_percent,
        tokenFree_append_separator_iff isSeparator_percent,
        tokenFree_append_separator_iff isSeparator_percent]
      exact and_congr_right fun _ => (and_iff_right hempty).trans hrest
    · have hone : escapedChar c = [c] := if_neg hc
      have hmove : TokenFree (front ++ [c] ++ escapedChars rest) ↔
          TokenFree (front ++ [c] ++ rest) := ih
      rw [List.append_assoc, List.append_assoc] at hmove
      rw [hone]
      exact hmove

/-- An escaped text has tokens exactly if the text has. -/
theorem tokenFree_escaped_iff {s : String} :
    TokenFree (escaped s).toList ↔ TokenFree s.toList := by
  have hchars : TokenFree ([] ++ escapedChars s.toList) ↔ TokenFree ([] ++ s.toList) :=
    tokenFree_append_escapedChars_iff
  rw [escaped, String.toList_ofList]
  exact hchars

/-! ### Lengths -/

/-- To escape characters makes no text shorter. -/
theorem byteSize_le_escapedChars (s : List Char) : byteSize s ≤ byteSize (escapedChars s) := by
  induction s with
  | nil => exact Nat.le_refl _
  | cons c rest ih =>
    have hchar : c.utf8Size ≤ byteSize (escapedChar c) := by
      unfold escapedChar
      split
      · rename_i hc
        rw [hc]
        decide +kernel
      · rw [byteSize_singleton]
    rw [escapedChars_cons, byteSize_append, byteSize_cons]
    omega

/-- To escape a text does not make it shorter. -/
theorem utf8ByteSize_le_escaped (s : String) : s.utf8ByteSize ≤ (escaped s).utf8ByteSize := by
  rw [← byteSize_toList]
  exact byteSize_le_escapedChars s.toList

/-! ### Values -/

/-- A name that was registered with a value without tokens expands to the value, up to the limit of
length. -/
theorem expand_insert (table : Table) {name value : String} (hname : isName name.toList = true)
    (hfree : TokenFree value.toList) (hlimit : value.utf8ByteSize ≤ maxLength) :
    ∃ table', table.insert name value = .ok table' ∧ expand table' name = .ok value := by
  refine ⟨table.put name value hname, by rw [Table.insert, dif_pos hname], ?_⟩
  obtain ⟨letters, hletters, htext⟩ := isName_iff.mp hname
  have htoken : String.ofList (tokenText letters) = name := by
    rw [← String.toList_inj, String.toList_ofList, htext]
  have hvalue : valueOf? (table.put name value hname) letters = some value := by
    rw [valueOf?, htoken, find?_put, if_pos rfl]
  have hempty : TokenFree [] := tokenFree_of_not_mem List.not_mem_nil
  -- The name is its token with nothing behind it.
  have hexpand := expand_tokenText_append hletters hvalue hlimit hempty (by rwa [List.append_nil])
  rwa [List.append_nil, List.append_nil, htoken, String.ofList_toList] at hexpand

/-- A text whose percent signs are doubled is a format for the text itself, with any arguments. So a
name that is registered with such a value renders to the text, where the text holds no token and the
value keeps the limit. Where it expands only, the text is registered as it is. -/
theorem render_escaped :
    (∀ s args, format (escaped s) args = .ok s) ∧
    ∀ (table : Table) (name value : String), isName name.toList = true →
      TokenFree value.toList → (escaped value).utf8ByteSize ≤ maxLength →
      (∃ table', table.insert name (escaped value) = .ok table' ∧
        ∀ args, render table' name args = .ok value) ∧
      ∃ table', table.insert name value = .ok table' ∧ expand table' name = .ok value := by
  refine ⟨format_escaped, fun table name value hname hfree hlimit => ⟨?_, ?_⟩⟩
  · obtain ⟨table', hinsert, hexpand⟩ :=
      expand_insert table hname (tokenFree_escaped_iff.mpr hfree) hlimit
    refine ⟨table', hinsert, fun args => ?_⟩
    exact render_eq_ok_iff.mpr ⟨_, hexpand, format_escaped value args⟩
  · exact expand_insert table hname hfree (Nat.le_trans (utf8ByteSize_le_escaped value) hlimit)

/-- Percent signs in front of a digit, a letter of a conversion and each other, and half a token. -/
theorem render_escaped_percents :
    ∃ table', Table.empty.insert "@DONE@" "100%%1$s%%%%d @A" = .ok table' ∧
      render table' "@DONE@" [.int 7] = .ok "100%1$s%%d @A" := by
  have hescaped : escaped "100%1$s%%d @A" = "100%%1$s%%%%d @A" := by decide +kernel
  have hfree : TokenFree "100%1$s%%d @A".toList := tokenFree_iff_hasToken.mpr (by decide +kernel)
  obtain ⟨⟨table', hinsert, hrender⟩, -⟩ :=
    render_escaped.2 Table.empty "@DONE@" _ (by decide +kernel) hfree (by decide +kernel)
  rw [hescaped] at hinsert
  exact ⟨table', hinsert, hrender _⟩

end ModBuild.Proofs.Template
