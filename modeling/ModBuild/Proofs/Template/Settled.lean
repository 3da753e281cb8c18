import ModBuild.Proofs.Template.Grammar
import ModBuild.Proofs.Template.Segments

/-!
# `ModBuild.Proofs.Template.Settled`: no token is left

A value may end in a stray `@` that makes a token with the text behind it, and an escape of a format
takes a character out of the text. Neither leaves a token in a result.

* `expand_settled`: passes end on a text without tokens only, and leave such a text as it is. The
  tokens that values and their surroundings make together are looked for in each pass like any
  other.
* `filled_nil_iff`: without arguments a format comes to literals, so each character of the result
  stands for itself or for an escape.
* `tokenFree_of_splits`: the escapes change nothing, since neither they nor what they stand for
  belong to a token, and both are in the same place.
-/

set_option autoImplicit false

namespace ModBuild.Proofs.Template

open ModBuild ModBuild.Template

/-! ### Expansion -/

/-- An expansion has no tokens, and expands to itself. -/
theorem expand_settled {table : Table} {template s : String}
    (h : expand table template = .ok s) :
    TokenFree s.toList ∧ expand table s = .ok s := by
  have hfree : TokenFree s.toList := tokenFree_of_settle (expand_eq_ok_iff.mp h)
  exact ⟨hfree, expand_eq_ok_iff.mpr (settle_of_tokenFree table s maxPasses hfree)⟩

/-! ### Escapes -/

/-- Without arguments only literals come to a text, and they come to themselves. -/
theorem filled_nil_iff {directives : List Directive} {out : List Char} :
    Filled [] directives out ↔ directives = out.map .literal := by
  constructor
  · intro h
    induction h with
    | nil => rfl
    | literal c h ih => rw [List.map_append, ← ih, List.map_singleton]
    | convert h harg htext ih => simp [argument?] at harg
  · rintro rfl
    induction out using List.reverseRecOn with
    | nil => exact .nil
    | append_singleton out c ih =>
      rw [List.map_append, List.map_singleton]
      exact ih.literal c

/-- The sign of a directive is a separator. -/
theorem isSeparator_percent : IsSeparator '%' := by
  constructor <;> decide

/-- The letter of a line break is a separator. -/
theorem isSeparator_n : IsSeparator 'n' := by
  constructor <;> decide

/-- A line break is a separator. -/
theorem isSeparator_newline : IsSeparator '\n' := by
  constructor <;> decide

/-- An escape, and the character that it stands for, hold the texts around them apart alike. -/
theorem tokenFree_escaped {c d e : Char} (hc : IsSeparator c) (hd : IsSeparator d)
    (he : IsSeparator e) {front rest : List Char} (h : TokenFree (front ++ c :: d :: rest)) :
    TokenFree (front ++ e :: rest) := by
  obtain ⟨hfront, hbehind⟩ := (tokenFree_append_separator_iff hc).mp h
  have hsplit : d :: rest = [] ++ d :: rest := rfl
  rw [hsplit, tokenFree_append_separator_iff hd] at hbehind
  exact (tokenFree_append_separator_iff he).mpr ⟨hfront, hbehind.2⟩

/-- A text of literals and escapes makes no token that it did not have. Characters that stand for
themselves can be part of one, so they are moved to the text in front. -/
theorem tokenFree_of_splits {text out front : List Char}
    (h : Splits text (out.map .literal)) (hfree : TokenFree (front ++ text)) :
    TokenFree (front ++ out) := by
  induction out generalizing text front with
  | nil =>
    cases h with
    | nil => exact hfree
  | cons c out ih =>
    have hmove : front ++ c :: out = front ++ [c] ++ out := by simp
    rw [hmove]
    -- The sign of an escape and what it writes are separators, so neither is part of a token.
    cases h with
    | @cons spelled rest _ _ hspelled hrest =>
      refine ih hrest ?_
      rw [List.append_assoc, List.singleton_append]
      cases hspelled with
      | literal => exact hfree
      | percent =>
        exact tokenFree_escaped isSeparator_percent isSeparator_percent isSeparator_percent hfree
      | lineEnd =>
        exact tokenFree_escaped isSeparator_percent isSeparator_n isSeparator_newline hfree

/-- A format without arguments makes no token. -/
theorem tokenFree_of_format {template out : String} (h : format template [] = .ok out)
    (hfree : TokenFree template.toList) : TokenFree out.toList := by
  obtain ⟨directives, hsplits, hfilled⟩ := format_eq_ok_iff.mp h
  rw [filled_nil_iff.mp hfilled] at hsplits
  have hout : TokenFree ([] ++ out.toList) := tokenFree_of_splits hsplits hfree
  exact hout

/-! ### Results -/

/-- What a template expands to, with its escapes or without, has no token, and expanding it again
changes nothing. -/
theorem no_token_left (table : Table) (template : String) :
    (∀ s, expand table template = .ok s → TokenFree s.toList ∧ expand table s = .ok s) ∧
    (∀ s, render table template [] = .ok s → TokenFree s.toList) := by
  refine ⟨fun s => expand_settled, fun s h => ?_⟩
  unfold render at h
  split at h
  · rename_i expanded hexpand
    exact tokenFree_of_format h (expand_settled hexpand).1
  · cases h

/-- A value that makes a token with the text behind it, and another that holds an escape. -/
def strayTable : Table :=
  (Table.empty.put "@P@" "x@A" (by decide +kernel)).put "@AB@" "done%%n" (by decide +kernel)

/-- The token that is made is replaced as well, and nothing is left of it. -/
theorem no_token_left_strayTable :
    (expand strayTable "@P@B@" = .ok "xdone%%n" ∧ TokenFree "xdone%%n".toList ∧
      expand strayTable "xdone%%n" = .ok "xdone%%n") ∧
    render strayTable "@P@B@" [] = .ok "xdone%n" ∧ TokenFree "xdone%n".toList := by
  have hexpand : expand strayTable "@P@B@" = .ok "xdone%%n" := by decide +kernel
  have hrender : render strayTable "@P@B@" [] = .ok "xdone%n" := by decide +kernel
  obtain ⟨hexpanded, hrendered⟩ := no_token_left strayTable "@P@B@"
  exact ⟨⟨hexpand, hexpanded _ hexpand⟩, hrender, hrendered _ hrender⟩

end ModBuild.Proofs.Template
