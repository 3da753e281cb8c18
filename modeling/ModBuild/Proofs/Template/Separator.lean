import ModBuild.Proofs.Template.Rescan

/-!
# `ModBuild.Proofs.Template.Separator`: what a path does behind its last token

A slash belongs to no token, so every token of a path lies within one segment, and a value that ends
in a stray `@` cannot form a token with the segments behind it. The theorems:

* `pieces_append_separator`: the cut at a character that belongs to no token.
* `settle_append_tail` and `expand_append_tail_iff`: segments without tokens at the end of a path
  stay as they are, and what is in front of them expands as it does alone. Neither limit of an
  expansion counts them.
-/

set_option autoImplicit false

namespace ModBuild.Proofs.Template

open ModBuild ModBuild.Template

/-! ### The cut at a separator -/

/-- The character belongs to no token. -/
def IsSeparator (c : Char) : Prop :=
  c ≠ '@' ∧ isNameLetter c = false

/-- A slash is a separator. -/
theorem isSeparator_slash : IsSeparator '/' := by
  constructor <;> decide

variable {c : Char}

/-- No token contains a separator. -/
theorem IsSeparator.not_mem_tokenText (h : IsSeparator c) {letters : List Char}
    (hletters : IsTokenLetters letters) : c ∉ tokenText letters := by
  intro hmem
  simp only [tokenText, List.cons_append, List.mem_cons, List.mem_append, List.not_mem_nil,
    or_false] at hmem
  rcases hmem with hat | hletter | hat
  · exact h.1 hat
  · have hclass := hletters.2 c hletter
    rw [h.2] at hclass
    cases hclass
  · exact h.1 hat

/-- No token starts in front of a separator and ends behind it. -/
theorem tokenAtHead?_append_separator (h : IsSeparator c) {d : Char} {rest : List Char}
    (hnone : tokenAtHead? (d :: rest) = none) (b : List Char) :
    tokenAtHead? (d :: (rest ++ c :: b)) = none := by
  cases hread : tokenAtHead? (d :: (rest ++ c :: b)) with
  | none => rfl
  | some found =>
    obtain ⟨letters, after⟩ := found
    obtain ⟨hletters, heq⟩ := tokenAtHead?_eq_some_iff.mp hread
    rw [← List.cons_append] at heq
    rcases List.append_eq_append_iff.mp heq with ⟨inside, htoken, hrest⟩ | ⟨between, htext, -⟩
    · -- The token reaches up to the separator, and does not hold it.
      cases inside with
      | nil =>
        rw [List.append_nil] at htoken
        have hhead := tokenAtHead?_tokenText_append hletters []
        rw [List.append_nil, htoken, hnone] at hhead
        cases hhead
      | cons e inside =>
        obtain ⟨rfl, -⟩ := List.cons.inj hrest
        exact absurd (by simp [htoken]) (h.not_mem_tokenText hletters)
    · -- The token would end in front of the separator, where there is none.
      rw [htext, tokenAtHead?_tokenText_append hletters between] at hnone
      cases hnone

/-- The cut on one side of a separator does not depend on the other side. -/
theorem pieces_append_separator (h : IsSeparator c) (a b : List Char) :
    pieces (a ++ c :: b) = pieces a ++ .char c :: pieces b := by
  induction a using cut_induction with
  | nil => simp [pieces_cons_of_ne h.1]
  | char d rest hnone ih =>
    rw [pieces_of_char hnone, List.cons_append,
      pieces_of_char (tokenAtHead?_append_separator h hnone b), ih, List.cons_append]
  | token letters after hletters ih =>
    rw [List.append_assoc, pieces_tokenText_append hletters, pieces_tokenText_append hletters, ih,
      List.cons_append]

/-- A text with a separator in it has a token exactly if one of its sides has. -/
theorem hasToken_append_separator (h : IsSeparator c) (a b : List Char) :
    hasToken (a ++ c :: b) = (hasToken a || hasToken b) := by
  simp [hasToken, pieces_append_separator h, Piece.isToken]

/-- The tokens around a separator are those of both sides. -/
theorem tokenFree_append_separator_iff (h : IsSeparator c) {a b : List Char} :
    TokenFree (a ++ c :: b) ↔ TokenFree a ∧ TokenFree b := by
  simp only [tokenFree_iff_hasToken, hasToken_append_separator h, Bool.or_eq_false_iff]

/-! ### A tail without tokens -/

/-- Characters behind the pieces of a pass are written as they are, and the pass does not stop at
them: lengths are checked behind values only. -/
theorem substituteOnto_append_chars (table : Table) (written : List Char) (size : Nat)
    (ps : List Piece) (tail : List Char) :
    substituteOnto table written size (ps ++ tail.map .char) =
      (substituteOnto table written size ps).map (· ++ tail) := by
  induction ps generalizing written size with
  | nil =>
    simp only [List.nil_append, substituteOnto, Except.map]
    induction tail generalizing written size with
    | nil => simp [substituteOnto]
    | cons d tail ih => simp [substituteOnto, ih]
  | cons p rest ih =>
    cases p with
    | char d => exact ih _ _
    | token letters =>
      simp only [List.cons_append, substituteOnto]
      split
      · rfl
      · split
        · rfl
        · exact ih _ _

/-- A pass leaves what stands behind a separator, if no token is there. -/
theorem substitute_append_tail (h : IsSeparator c) (table : Table) (s : List Char)
    {tail : List Char} (htail : TokenFree tail) :
    substitute table (s ++ c :: tail) = (substitute table s).map (· ++ c :: tail) := by
  have hchars : Piece.char c :: pieces tail = (c :: tail).map .char := by
    rw [pieces_of_tokenFree htail, List.map_cons]
  rw [substitute, pieces_append_separator h, hchars, substituteOnto_append_chars]
  rfl

/-- Passes do the same with a tail behind the text, which stays. -/
theorem settle_append_tail (h : IsSeparator c) (table : Table) (template : String) (left : Nat)
    (s : List Char) {tail : List Char} (htail : TokenFree tail) :
    settle table template left (s ++ c :: tail) =
      (settle table template left s).map (· ++ c :: tail) := by
  -- The tail neither starts a pass nor ends the passes early.
  have hsame : ∀ s, hasToken (s ++ c :: tail) = hasToken s := fun s => by
    rw [hasToken_append_separator h, tokenFree_iff_hasToken.mp htail, Bool.or_false]
  induction left generalizing s with
  | zero =>
    simp only [settle, hsame]
    split <;> rfl
  | succ left ih =>
    simp only [settle, hsame, substitute_append_tail h table s htail]
    split
    · cases substitute table s with
      | ok next => exact ih next
      | error stop => cases stop <;> rfl
    · rfl

/-- The template is named in errors, and does not matter for a text that passes settle on. -/
theorem settle_eq_ok_iff (table : Table) (template template' : String) (left : Nat)
    (s t : List Char) :
    settle table template left s = .ok t ↔ settle table template' left s = .ok t := by
  induction left generalizing s with
  | zero =>
    simp only [settle]
    split <;> simp
  | succ left ih =>
    simp only [settle]
    split
    · cases substitute table s with
      | ok next => exact ih next
      | error stop => cases stop <;> simp
    · rfl

/-- A template with a tail behind a separator expands exactly if the template expands, and the tail
is behind its expansion. -/
theorem expand_append_tail_iff (h : IsSeparator c) (table : Table) (template : String)
    {tail : List Char} (htail : TokenFree tail) {s : String} :
    expand table (template ++ String.ofList (c :: tail)) = .ok s ↔
      ∃ front, expand table template = .ok front ∧ s = front ++ String.ofList (c :: tail) := by
  -- The passes on both sides name different templates in errors, so the whole one is kept apart.
  generalize hwhole : template ++ String.ofList (c :: tail) = whole
  have hsettle : settle table whole maxPasses whole.toList =
      (settle table whole maxPasses template.toList).map (· ++ c :: tail) := by
    have htext : whole.toList = template.toList ++ c :: tail := by
      rw [← hwhole, String.toList_append, String.toList_ofList]
    rw [htext, settle_append_tail h table whole maxPasses template.toList htail]
  rw [expand_eq_ok_iff, hsettle]
  constructor
  · intro hok
    cases hfront : settle table whole maxPasses template.toList with
    | error e =>
      rw [hfront] at hok
      cases hok
    | ok front =>
      rw [hfront] at hok
      have htext : front ++ c :: tail = s.toList := Except.ok.inj hok
      refine ⟨String.ofList front, ?_, ?_⟩
      · rw [expand_eq_ok_iff, String.toList_ofList]
        exact (settle_eq_ok_iff _ _ template _ _ _).mp hfront
      · rw [← String.ofList_append, htext, String.ofList_toList]
  · rintro ⟨front, hfront, rfl⟩
    have hok := (settle_eq_ok_iff _ _ whole _ _ _).mp (expand_eq_ok_iff.mp hfront)
    rw [hok, String.toList_append, String.toList_ofList]
    rfl

end ModBuild.Proofs.Template
