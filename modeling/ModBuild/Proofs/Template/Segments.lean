import ModBuild.Proofs.Template.Separator

/-!
# `ModBuild.Proofs.Template.Segments`: paths expand segment by segment

A path is often put together before it is expanded, and its segments may hold tokens themselves.
When such a path expands, each segment expands by itself, to the same text. The theorems:

* `settle_succ`: passes that are left over do no harm.
* `settle_append_separator` and `expand_append_separator`: both sides of a separator expand by
  themselves. The other way round this does not hold as it stands, as the limit of length counts
  both sides together.
* `expand_token`: a token alone expands as its value does. It takes one pass more, so a value may
  expand where its token does not.
-/

set_option autoImplicit false

namespace ModBuild.Proofs.Template

open ModBuild ModBuild.Template

variable {c : Char} {table : Table} {template : String} {left : Nat} {s s' t a b : List Char}

/-! ### Passes that are left over -/

/-- Passes end on a text without tokens. -/
theorem tokenFree_of_settle (h : settle table template left s = .ok t) : TokenFree t := by
  rw [tokenFree_iff_hasToken]
  induction left generalizing s with
  | zero =>
    obtain ⟨hnone, rfl⟩ := settle_zero_eq_ok_iff.mp h
    exact hnone
  | succ left ih =>
    cases htoken : hasToken s with
    | true =>
      obtain ⟨next, -, hrest⟩ := substitute_of_settle h htoken
      exact ih hrest
    | false =>
      rw [settle_of_hasToken_eq_false table template (left + 1) htoken] at h
      cases h
      exact htoken

/-- Passes leave a text without tokens as it is. -/
theorem settle_of_tokenFree (table : Table) (template : String) (left : Nat) (h : TokenFree s) :
    settle table template left s = .ok s :=
  settle_of_hasToken_eq_false table template left (tokenFree_iff_hasToken.mp h)

/-- A text without tokens settles as it is. -/
theorem eq_of_settle_of_tokenFree (hfree : TokenFree s)
    (h : settle table template left s = .ok t) : t = s := by
  rw [settle_of_tokenFree table template left hfree] at h
  exact (Except.ok.inj h).symm

/-- A pass changes nothing about a text without tokens, however long it is. -/
theorem substitute_tokenFree (table : Table) (h : TokenFree s) : substitute table s = .ok s := by
  have hchars := substituteOnto_append_chars table [] 0 [] s
  rw [List.nil_append] at hchars
  rw [substitute, pieces_of_tokenFree h, hchars]
  rfl

/-- A pass leaves a text without tokens as it is. -/
theorem substitute_of_tokenFree (h : TokenFree s) (hpass : substitute table s = .ok s') :
    s' = s := by
  rw [substitute_tokenFree table h] at hpass
  exact (Except.ok.inj hpass).symm

/-- A pass that stops has found a token. -/
theorem hasToken_of_substitute_error {stop : PassStop} (h : substitute table s = .error stop) :
    hasToken s = true := by
  cases htoken : hasToken s with
  | true => rfl
  | false =>
    rw [substitute_tokenFree table (tokenFree_iff_hasToken.mpr htoken)] at h
    cases h

/-- A pass may go first, whether it has something to replace or not. -/
theorem settle_of_substitute (hpass : substitute table s = .ok s')
    (h : settle table template left s' = .ok t) : settle table template (left + 1) s = .ok t := by
  cases htoken : hasToken s with
  | true => rw [settle_succ_of_ok template left htoken hpass, h]
  | false =>
    have hfree : TokenFree s := tokenFree_iff_hasToken.mpr htoken
    rw [substitute_of_tokenFree hfree hpass, settle_of_tokenFree table template left hfree] at h
    rw [settle_of_tokenFree table template (left + 1) hfree, h]

/-- With one more pass a text expands as it did. -/
theorem settle_succ (h : settle table template left s = .ok t) :
    settle table template (left + 1) s = .ok t := by
  induction left generalizing s with
  | zero =>
    obtain ⟨hnone, rfl⟩ := settle_zero_eq_ok_iff.mp h
    exact settle_of_hasToken_eq_false table template 1 hnone
  | succ left ih =>
    cases htoken : hasToken s with
    | true =>
      obtain ⟨s', hpass, hrest⟩ := substitute_of_settle h htoken
      exact settle_of_substitute hpass (ih hrest)
    | false =>
      have hfree : TokenFree s := tokenFree_iff_hasToken.mpr htoken
      rw [settle_of_tokenFree _ _ _ hfree] at h ⊢
      exact h

/-! ### Both sides of a separator -/

/-- A pass that goes through pieces goes through them also where less is written in front. -/
theorem substituteOnto_of_le {ps : List Piece} {written written' out : List Char}
    {size size' : Nat} (hle : size' ≤ size) (h : substituteOnto table written size ps = .ok out) :
    ∃ out', substituteOnto table written' size' ps = .ok out' := by
  induction ps generalizing written written' size size' with
  | nil => exact ⟨_, rfl⟩
  | cons p rest ih =>
    cases p with
    | char d => exact ih (Nat.add_le_add_right hle _) h
    | token letters =>
      simp only [substituteOnto] at h ⊢
      split at h
      · cases h
      · rename_i value _
        split at h
        · cases h
        · rename_i hshort
          -- With less in front the text is shorter still.
          have hsize : size' + value.utf8ByteSize ≤ size + value.utf8ByteSize :=
            Nat.add_le_add_right hle _
          have hshort' : ¬ size' + value.utf8ByteSize > maxLength := by omega
          simp only [if_neg hshort']
          exact ih hsize h

/-- A pass over joined pieces goes through the first of them, and then through the rest. -/
theorem substituteOnto_append {ps qs : List Piece} {written out : List Char} {size : Nat}
    (h : substituteOnto table written size (ps ++ qs) = .ok out) :
    ∃ middle size', substituteOnto table written size ps = .ok middle ∧
      substituteOnto table middle.reverse size' qs = .ok out := by
  induction ps generalizing written size with
  | nil => exact ⟨written.reverse, size, rfl, by rwa [List.reverse_reverse]⟩
  | cons p rest ih =>
    cases p with
    | char d => exact ih h
    | token letters =>
      simp only [List.cons_append, substituteOnto] at h ⊢
      split at h
      · cases h
      · split at h
        · cases h
        · rename_i hshort
          simp only [if_neg hshort]
          exact ih h

/-- A pass over a text with a separator goes through both sides. -/
theorem substitute_append_separator (hc : IsSeparator c)
    (h : substitute table (a ++ c :: b) = .ok t) :
    ∃ x y, substitute table a = .ok x ∧ substitute table b = .ok y ∧ t = x ++ c :: y := by
  rw [substitute, pieces_append_separator hc] at h
  obtain ⟨x, size, hx, hrest⟩ := substituteOnto_append h
  have hbehind : substituteOnto table (c :: x.reverse) (size + c.utf8Size) (pieces b) = .ok t :=
    hrest
  obtain ⟨y, hy⟩ := substituteOnto_of_le (Nat.zero_le _) hbehind
  refine ⟨x, y, hx, hy, ?_⟩
  -- What is written behind the separator is the same, whatever stands in front of it.
  have hout := (substituteOnto_ok hbehind).2
  have hside := (substitute_ok hy).2
  rw [hout, hside]
  simp

/-- Passes that settle on a text with a separator settle on both sides. -/
theorem settle_append_separator (hc : IsSeparator c)
    (h : settle table template left (a ++ c :: b) = .ok t) :
    ∃ x y, settle table template left a = .ok x ∧ settle table template left b = .ok y ∧
      t = x ++ c :: y := by
  -- Without tokens there are none on either side.
  have hplain : ∀ left a b, hasToken (a ++ c :: b) = false →
      settle table template left a = .ok a ∧ settle table template left b = .ok b := by
    intro left a b hnone
    obtain ⟨ha, hb⟩ := (tokenFree_append_separator_iff hc).mp (tokenFree_iff_hasToken.mpr hnone)
    exact ⟨settle_of_tokenFree _ _ _ ha, settle_of_tokenFree _ _ _ hb⟩
  induction left generalizing a b with
  | zero =>
    obtain ⟨hnone, rfl⟩ := settle_zero_eq_ok_iff.mp h
    obtain ⟨ha, hb⟩ := hplain 0 a b hnone
    exact ⟨a, b, ha, hb, rfl⟩
  | succ left ih =>
    cases htoken : hasToken (a ++ c :: b) with
    | true =>
      obtain ⟨s', hpass, hrest⟩ := substitute_of_settle h htoken
      obtain ⟨a', b', ha, hb, rfl⟩ := substitute_append_separator hc hpass
      obtain ⟨x, y, hx, hy, ht⟩ := ih hrest
      exact ⟨x, y, settle_of_substitute ha hx, settle_of_substitute hb hy, ht⟩
    | false =>
      rw [settle_of_tokenFree _ _ _ (tokenFree_iff_hasToken.mpr htoken)] at h
      cases h
      obtain ⟨ha, hb⟩ := hplain (left + 1) a b htoken
      exact ⟨a, b, ha, hb, rfl⟩

/-- A template with a separator expands to what its sides expand to. -/
theorem expand_append_separator (hc : IsSeparator c) {front behind s : String}
    (h : expand table (front ++ String.ofList [c] ++ behind) = .ok s) :
    ∃ x y, expand table front = .ok x ∧ expand table behind = .ok y ∧
      s = x ++ String.ofList [c] ++ y := by
  have htext : (front ++ String.ofList [c] ++ behind).toList =
      front.toList ++ c :: behind.toList := by
    simp [String.toList_append]
  rw [expand_eq_ok_iff, htext] at h
  obtain ⟨x, y, hx, hy, hs⟩ := settle_append_separator hc h
  refine ⟨String.ofList x, String.ofList y, ?_, ?_, ?_⟩
  · rw [expand_eq_ok_iff, String.toList_ofList]
    exact (settle_eq_ok_iff _ _ _ _ _ _).mp hx
  · rw [expand_eq_ok_iff, String.toList_ofList]
    exact (settle_eq_ok_iff _ _ _ _ _ _).mp hy
  · rw [← String.toList_inj, hs]
    simp [String.toList_append]

/-! ### A token alone -/

/-- A token alone expands as its value does. -/
theorem expand_token {letters : List Char} (hletters : IsTokenLetters letters) {value s : String}
    (hvalue : valueOf? table letters = some value)
    (h : expand table (String.ofList (tokenText letters)) = .ok s) :
    expand table value = .ok s := by
  have hcut : pieces (tokenText letters) = [.token letters] := by
    have happend := pieces_tokenText_append hletters []
    rwa [List.append_nil, pieces_nil] at happend
  have htoken : hasToken (tokenText letters) = true := by
    rw [hasToken, hcut]
    rfl
  rw [expand_eq_ok_iff, String.toList_ofList] at h
  have hfirst : settle table (String.ofList (tokenText letters)) (31 + 1) (tokenText letters) =
      .ok s.toList := h
  obtain ⟨s', hpass, hrest⟩ := substitute_of_settle hfirst htoken
  have hs' : s' = value.toList := by
    obtain ⟨-, rfl⟩ := substitute_ok hpass
    simp [hcut, valueText, hvalue]
  rw [hs'] at hrest
  exact expand_eq_ok_iff.mpr ((settle_eq_ok_iff _ _ _ _ _ _).mp (settle_succ hrest))

end ModBuild.Proofs.Template
