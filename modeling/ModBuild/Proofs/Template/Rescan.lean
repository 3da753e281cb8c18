import ModBuild.Proofs.Template.Pass

/-!
# `ModBuild.Proofs.Template.Rescan`: expansion one token at a time

`expand` goes breadth-first: a pass replaces all tokens of a text, and passes follow until none is
left. The rule that templates are documented by goes depth-first: replace the leftmost token, then
look at the new text from its start, until none is left. `Rescans` states that rule, without the
cut that `expand` works on and without its limits. This file proves that the two agree on
well-delimited templates and values.

Both orders walk the same tree of tokens and values. `Unfolds` is the walk over that tree by pieces,
and it is the middle of the proof:

* `rescans_settled_iff`: the rule settles on a text exactly if the pieces unfold to it. A step of
  the rule is a step of the walk, because the pieces in front of the leftmost token are characters.
* `unfolds_flatMap_iff`: a pass changes nothing about what the pieces unfold to, since `Unfolds`
  splits over joined pieces.
* `expand_agrees_with_rescanning`: the two together.
-/

set_option autoImplicit false

namespace ModBuild.Proofs.Template

open ModBuild.Template

/-! ### The leftmost token -/

/-- The leftmost token of a text: the letters, and what stands before and after the token. -/
structure FirstToken (s before letters after : List Char) : Prop where
  split : s = before ++ tokenText letters ++ after
  isToken : IsTokenLetters letters
  leftmost : ∀ b l a, IsTokenLetters l → s = b ++ tokenText l ++ a → before.length ≤ b.length

/-- No part of the text is a token. -/
def TokenFree (s : List Char) : Prop :=
  ∀ b l a, IsTokenLetters l → s ≠ b ++ tokenText l ++ a

/-- A token at the head is the leftmost one. -/
theorem firstToken_head {letters : List Char} (h : IsTokenLetters letters) (after : List Char) :
    FirstToken (tokenText letters ++ after) [] letters after :=
  ⟨by simp, h, fun b _ _ _ _ => by simp⟩

/-- Where a text and another part of it start with tokens at one place, the tokens are one. -/
theorem tokenText_append_inj {l l' a a' : List Char} (h : IsTokenLetters l)
    (h' : IsTokenLetters l') (heq : tokenText l ++ a = tokenText l' ++ a') : l = l' ∧ a = a' := by
  have hread := tokenAtHead?_tokenText_append h a
  rw [heq, tokenAtHead?_tokenText_append h' a'] at hread
  simpa [eq_comm] using hread

/-- A text has one leftmost token at most. -/
theorem FirstToken.unique {s b l a b' l' a' : List Char} (h : FirstToken s b l a)
    (h' : FirstToken s b' l' a') : b = b' ∧ l = l' ∧ a = a' := by
  have hlen : b.length = b'.length :=
    Nat.le_antisymm (h.leftmost _ _ _ h'.isToken h'.split) (h'.leftmost _ _ _ h.isToken h.split)
  have heq := h.split.symm.trans h'.split
  rw [List.append_assoc, List.append_assoc] at heq
  obtain ⟨hb, hrest⟩ := List.append_inj heq hlen
  exact ⟨hb, tokenText_append_inj h.isToken h'.isToken hrest⟩

/-- A text with a leftmost token is not free of tokens. -/
theorem FirstToken.not_tokenFree {s b l a : List Char} (h : FirstToken s b l a) : ¬ TokenFree s :=
  fun hfree => hfree b l a h.isToken h.split

/-- Where no token starts at the head, the tokens of a text are those behind its first
character. -/
theorem split_cons_of_none {c : Char} {rest b l a : List Char}
    (hc : tokenAtHead? (c :: rest) = none) (hl : IsTokenLetters l)
    (h : c :: rest = b ++ tokenText l ++ a) :
    ∃ b', b = c :: b' ∧ rest = b' ++ tokenText l ++ a := by
  cases b with
  | nil =>
    rw [tokenAtHead?_eq_some_iff.mpr ⟨hl, by simpa using h⟩] at hc
    cases hc
  | cons c' b' =>
    obtain ⟨rfl, hrest⟩ := List.cons.inj h
    exact ⟨b', rfl, hrest⟩

/-- Where no token starts, the rest decides whether the text has one. -/
theorem tokenFree_cons_iff {c : Char} {rest : List Char} (hc : tokenAtHead? (c :: rest) = none) :
    TokenFree (c :: rest) ↔ TokenFree rest := by
  constructor
  · intro h b l a hl heq
    exact h (c :: b) l a hl (by rw [heq]; rfl)
  · intro h b l a hl heq
    obtain ⟨b', -, hrest⟩ := split_cons_of_none hc hl heq
    exact h b' l a hl hrest

/-- The leftmost token of a text behind a character at which none starts. -/
theorem FirstToken.cons {c : Char} {rest b l a : List Char}
    (hc : tokenAtHead? (c :: rest) = none) (h : FirstToken rest b l a) :
    FirstToken (c :: rest) (c :: b) l a where
  split := by rw [h.split]; rfl
  isToken := h.isToken
  leftmost b' l' a' hl' heq := by
    obtain ⟨b'', rfl, hrest⟩ := split_cons_of_none hc hl' heq
    simpa using h.leftmost b'' l' a' hl' hrest

/-- A text is free of tokens exactly if its cut has none. -/
theorem tokenFree_iff_hasToken {s : List Char} : TokenFree s ↔ hasToken s = false := by
  induction s using cut_induction with
  | nil => simp [TokenFree, hasToken, tokenText]
  | char c rest hc ih =>
    rw [tokenFree_cons_iff hc, ih]
    simp [hasToken, pieces_of_char hc, Piece.isToken]
  | token letters after hletters ih =>
    have hfirst := firstToken_head hletters after
    simp [hfirst.not_tokenFree, hasToken, pieces_tokenText_append hletters, Piece.isToken]

/-- A text with a token has a leftmost one, so the rule below is never stuck. -/
theorem exists_firstToken {s : List Char} (h : hasToken s = true) :
    ∃ b l a, FirstToken s b l a := by
  induction s using cut_induction with
  | nil => simp [hasToken] at h
  | char c rest hc ih =>
    obtain ⟨b, l, a, hfirst⟩ := ih (by simpa [hasToken, pieces_of_char hc, Piece.isToken] using h)
    exact ⟨c :: b, l, a, hfirst.cons hc⟩
  | token letters after hletters ih => exact ⟨[], letters, after, firstToken_head hletters after⟩

/-- The cut at the leftmost token: characters, the token, and the cut of what follows. -/
theorem FirstToken.pieces_eq {s b l a : List Char} (h : FirstToken s b l a) :
    pieces s = b.map .char ++ .token l :: pieces a := by
  induction b generalizing s with
  | nil =>
    rw [h.split, List.nil_append, pieces_tokenText_append h.isToken]
    rfl
  | cons c b ih =>
    have hsplit : s = c :: (b ++ tokenText l ++ a) := h.split
    have hnone : tokenAtHead? (c :: (b ++ tokenText l ++ a)) = none := by
      cases hread : tokenAtHead? (c :: (b ++ tokenText l ++ a)) with
      | none => rfl
      | some found =>
        -- A token at the head would stand further left.
        obtain ⟨hl, heq⟩ := tokenAtHead?_eq_some_iff.mp hread
        have hle := h.leftmost [] found.1 found.2 hl (hsplit.trans heq)
        simp at hle
    have hfirst : FirstToken (b ++ tokenText l ++ a) b l a :=
      ⟨rfl, h.isToken, fun b' l' a' hl' heq => by
        have hle := h.leftmost (c :: b') l' a' hl' (by rw [hsplit, heq]; rfl)
        simpa using hle⟩
    rw [hsplit, pieces_of_char hnone, ih hfirst]
    rfl

/-! ### The rule -/

/-- How the rule ends on a text, where it ends. -/
inductive Outcome where
  /-- No token is left in the text. -/
  | settled (text : List Char)
  /-- The leftmost token is not registered. -/
  | unregistered (letters : List Char)
  deriving DecidableEq

/-- The rule takes a text to an outcome: while there is a token, the leftmost one is replaced and
the new text is looked at from its start. -/
inductive Rescans (table : Table) : List Char → Outcome → Prop where
  | settled {s : List Char} (h : TokenFree s) : Rescans table s (.settled s)
  | unregistered {s before letters after : List Char} (h : FirstToken s before letters after)
      (hvalue : table.find? (String.ofList (tokenText letters)) = none) :
      Rescans table s (.unregistered letters)
  | replaced {s before letters after : List Char} {value : String} {outcome : Outcome}
      (h : FirstToken s before letters after)
      (hvalue : table.find? (String.ofList (tokenText letters)) = some value)
      (hrest : Rescans table (before ++ value.toList ++ after) outcome) : Rescans table s outcome

/-- The rule has one outcome at most. -/
theorem Rescans.unique {table : Table} {s : List Char} {o o' : Outcome} (h : Rescans table s o)
    (h' : Rescans table s o') : o = o' := by
  -- The leftmost token decides which of the three cases it is, so both take the same one.
  induction h with
  | settled hfree =>
    cases h' with
    | settled => rfl
    | unregistered hfirst => exact absurd hfree hfirst.not_tokenFree
    | replaced hfirst => exact absurd hfree hfirst.not_tokenFree
  | unregistered hfirst hnone =>
    cases h' with
    | settled hfree => exact absurd hfree hfirst.not_tokenFree
    | unregistered hfirst' => rw [(hfirst.unique hfirst').2.1]
    | replaced hfirst' hsome =>
      rw [(hfirst.unique hfirst').2.1, hsome] at hnone
      cases hnone
  | replaced hfirst hsome _ ih =>
    cases h' with
    | settled hfree => exact absurd hfree hfirst.not_tokenFree
    | unregistered hfirst' hnone =>
      rw [(hfirst.unique hfirst').2.1, hnone] at hsome
      cases hsome
    | replaced hfirst' hsome' hrest' =>
      obtain ⟨rfl, rfl, rfl⟩ := hfirst.unique hfirst'
      rw [hsome] at hsome'
      cases hsome'
      exact ih hrest'

/-! ### Unfolding pieces -/

/-- The pieces come to a text when every token is unfolded, the leftmost first. -/
inductive Unfolds (table : Table) : List Piece → List Char → Prop where
  | nil : Unfolds table [] []
  | char {c : Char} {rest : List Piece} {t : List Char} (h : Unfolds table rest t) :
      Unfolds table (.char c :: rest) (c :: t)
  | token {letters : List Char} {value : String} {rest : List Piece} {t : List Char}
      (hvalue : valueOf? table letters = some value)
      (h : Unfolds table (pieces value.toList ++ rest) t) : Unfolds table (.token letters :: rest) t

namespace Unfolds

variable {table : Table}

/-- A character in front unfolds to itself. -/
theorem char_cons_iff {c : Char} {rest : List Piece} {t : List Char} :
    Unfolds table (.char c :: rest) t ↔ ∃ t', t = c :: t' ∧ Unfolds table rest t' := by
  constructor
  · intro h
    cases h with
    | char h => exact ⟨_, rfl, h⟩
  · rintro ⟨t', rfl, h⟩
    exact .char h

/-- Characters stand for themselves. -/
theorem map_char_append_iff (b : List Char) (ps : List Piece) {t : List Char} :
    Unfolds table (b.map .char ++ ps) t ↔ ∃ t', t = b ++ t' ∧ Unfolds table ps t' := by
  induction b generalizing t with
  | nil => simp
  | cons c b ih =>
    rw [List.map_cons, List.cons_append, char_cons_iff]
    constructor
    · rintro ⟨t', rfl, h⟩
      obtain ⟨u, rfl, hu⟩ := ih.mp h
      exact ⟨u, rfl, hu⟩
    · rintro ⟨u, rfl, hu⟩
      exact ⟨b ++ u, rfl, ih.mpr ⟨u, rfl, hu⟩⟩

/-- A token in front unfolds as its value does in its place. -/
theorem token_cons_iff {letters : List Char} {value : String} {rest : List Piece} {t : List Char}
    (hvalue : valueOf? table letters = some value) :
    Unfolds table (.token letters :: rest) t ↔ Unfolds table (pieces value.toList ++ rest) t := by
  constructor
  · intro h
    cases h with
    | token hvalue' h =>
      rw [hvalue] at hvalue'
      cases hvalue'
      exact h
  · exact .token hvalue

/-- Pieces one behind the other unfold to their texts one behind the other. -/
theorem append {ps qs : List Piece} {t u : List Char} (h : Unfolds table ps t)
    (h' : Unfolds table qs u) : Unfolds table (ps ++ qs) (t ++ u) := by
  induction h with
  | nil => exact h'
  | char _ ih => exact .char ih
  | token hvalue _ ih =>
    rw [List.append_assoc] at ih
    exact .token hvalue ih

/-- What joined pieces come to is what the two parts come to, joined. -/
theorem append_iff {ps qs : List Piece} {t : List Char} :
    Unfolds table (ps ++ qs) t ↔
      ∃ u v, t = u ++ v ∧ Unfolds table ps u ∧ Unfolds table qs v := by
  constructor
  · intro h
    -- The pieces grow where a value takes the place of its token, so the induction is on `h`.
    generalize hjoin : ps ++ qs = joined at h
    induction h generalizing ps with
    | nil =>
      obtain ⟨rfl, rfl⟩ := List.append_eq_nil_iff.mp hjoin
      exact ⟨[], [], rfl, .nil, .nil⟩
    | @char c rest t hrest ih =>
      rcases List.append_eq_cons_iff.mp hjoin with ⟨rfl, hqs⟩ | ⟨ps', rfl, hps⟩
      · exact ⟨[], c :: t, rfl, .nil, hqs ▸ .char hrest⟩
      · obtain ⟨u, v, rfl, hu, hv⟩ := ih hps.symm
        exact ⟨c :: u, v, rfl, .char hu, hv⟩
    | @token letters value rest t hvalue hrest ih =>
      rcases List.append_eq_cons_iff.mp hjoin with ⟨rfl, hqs⟩ | ⟨ps', rfl, hps⟩
      · exact ⟨[], t, rfl, .nil, hqs ▸ .token hvalue hrest⟩
      · have hnext : pieces value.toList ++ ps' ++ qs = pieces value.toList ++ rest := by
          rw [hps, List.append_assoc]
        obtain ⟨u, v, rfl, hu, hv⟩ := ih hnext
        exact ⟨u, v, rfl, .token hvalue hu, hv⟩
  · rintro ⟨u, v, rfl, hu, hv⟩
    exact hu.append hv

/-- Every token among pieces that unfold is registered. -/
theorem registered {ps : List Piece} {t : List Char} (h : Unfolds table ps t) :
    ∀ letters, .token letters ∈ ps → (valueOf? table letters).isSome := by
  induction h with
  | nil => simp
  | char _ ih => intro letters hmem; exact ih letters (by simpa using hmem)
  | token hvalue _ ih =>
    intro found hmem
    rcases List.mem_cons.mp hmem with heq | hmem
    · cases heq
      simp [hvalue]
    · exact ih found (List.mem_append_right _ hmem)

end Unfolds

/-- A pass does not change what pieces come to. -/
theorem unfolds_flatMap_iff {table : Table} {ps : List Piece} {t : List Char}
    (hall : ∀ letters, .token letters ∈ ps → (valueOf? table letters).isSome) :
    Unfolds table (ps.flatMap (valuePieces table)) t ↔ Unfolds table ps t := by
  induction ps generalizing t with
  | nil => rfl
  | cons p rest ih =>
    have ih := fun t => ih (t := t) fun letters hmem => hall letters (List.mem_cons_of_mem _ hmem)
    rw [List.flatMap_cons]
    cases p with
    | char c =>
      simp only [valuePieces, List.singleton_append, Unfolds.char_cons_iff, ih]
    | token letters =>
      obtain ⟨value, hvalue⟩ := Option.isSome_iff_exists.mp (hall letters List.mem_cons_self)
      rw [Unfolds.token_cons_iff hvalue]
      simp only [valuePieces, hvalue, Option.getD_some, Unfolds.append_iff, ih]

/-! ### The rule unfolds the pieces -/

/-- A text is well-delimited exactly if both sides of its leftmost token are. -/
theorem FirstToken.wellDelimited_iff {s b l a : List Char} (h : FirstToken s b l a) :
    WellDelimited s ↔ '@' ∉ b ∧ WellDelimited a := by
  unfold WellDelimited withoutTokens
  rw [h.pieces_eq]
  simp [List.flatMap_map]

/-- Behind characters other than `@`, the first token is the leftmost. -/
theorem firstToken_of_not_mem {b l : List Char} (hb : '@' ∉ b) (hl : IsTokenLetters l)
    (a : List Char) : FirstToken (b ++ tokenText l ++ a) b l a := by
  induction b with
  | nil => exact firstToken_head hl a
  | cons c b ih =>
    rw [List.mem_cons, not_or] at hb
    exact (ih hb.2).cons (tokenAtHead?_of_ne (Ne.symm hb.1))

/-- Without a sign there is no token. -/
theorem tokenFree_of_not_mem {s : List Char} (h : '@' ∉ s) : TokenFree s := by
  rintro b l a - rfl
  exact h (by simp [tokenText])

/-- A text without tokens is cut into its characters. -/
theorem pieces_of_tokenFree {s : List Char} (h : TokenFree s) : pieces s = s.map .char := by
  induction s using cut_induction with
  | nil => simp
  | char c rest hc ih =>
    rw [pieces_of_char hc, ih ((tokenFree_cons_iff hc).mp h), List.map_cons]
  | token letters after hletters ih => exact absurd h (firstToken_head hletters after).not_tokenFree

/-- A text without tokens unfolds to itself and to nothing else. -/
theorem unfolds_pieces_iff_of_tokenFree {table : Table} {s t : List Char} (h : TokenFree s) :
    Unfolds table (pieces s) t ↔ t = s := by
  rw [pieces_of_tokenFree h, ← List.append_nil (s.map Piece.char), Unfolds.map_char_append_iff]
  constructor
  · rintro ⟨t', rfl, hnil⟩
    cases hnil
    simp
  · rintro rfl
    exact ⟨[], by simp, .nil⟩

/-- Passes stop at a text without tokens, so it is what its pieces come to. -/
theorem unfolds_pieces_iff_of_not_hasToken {table : Table} {s t : List Char}
    (h : ¬ hasToken s = true) : Unfolds table (pieces s) t ↔ t = s := by
  have hfree : TokenFree s := tokenFree_iff_hasToken.mpr (by simpa using h)
  exact unfolds_pieces_iff_of_tokenFree hfree

/-- Where the rule settles on a text, the pieces unfold to it. -/
theorem unfolds_of_rescans {table : Table} (ht : DelimitedValues table) {s t : List Char}
    (hs : WellDelimited s) (h : Rescans table s (.settled t)) : Unfolds table (pieces s) t := by
  generalize ho : Outcome.settled t = o at h
  induction h with
  | @settled s hfree =>
    cases ho
    exact (unfolds_pieces_iff_of_tokenFree hfree).mpr rfl
  | unregistered => cases ho
  | @replaced s b l a value o hfirst hvalue _ ih =>
    obtain ⟨hb, ha⟩ := hfirst.wellDelimited_iff.mp hs
    have hb' := wellDelimited_of_not_mem hb
    have hv := wellDelimited_of_valueOf? ht hvalue
    -- The next text is three well-delimited ones joined, so its cut is the three cuts joined.
    have hnext := ih (wellDelimited_append (wellDelimited_append hb' hv) ha) ho
    rw [List.append_assoc, pieces_append hb', pieces_append hv,
      pieces_of_tokenFree (tokenFree_of_not_mem hb), Unfolds.map_char_append_iff] at hnext
    rw [hfirst.pieces_eq, Unfolds.map_char_append_iff]
    obtain ⟨t', heq, hunfold⟩ := hnext
    exact ⟨t', heq, .token hvalue hunfold⟩

/-- Where pieces unfold to a text, the rule settles on it. What stands in front of the pieces is
done: it holds no `@`, so the rule passes over it. -/
theorem rescans_of_unfolds {table : Table} (ht : DelimitedValues table) {ps : List Piece}
    {t : List Char} (h : Unfolds table ps t) :
    ∀ done s : List Char, '@' ∉ done → WellDelimited s → pieces s = ps →
      Rescans table (done ++ s) (.settled (done ++ t)) := by
  induction h with
  | nil =>
    intro done s hdone _ hps
    have hnil : s = [] := by simpa [hps] using (flatMap_text_pieces s).symm
    subst hnil
    exact .settled (tokenFree_of_not_mem (by simpa using hdone))
  | @char c rest t _ ih =>
    intro done s hdone hs hps
    cases s using cut_induction with
    | nil => simp at hps
    | char c' s hc _ =>
      rw [pieces_of_char hc] at hps
      obtain ⟨hhead, hrest⟩ := List.cons.inj hps
      cases hhead
      obtain ⟨hne, hs⟩ := (wellDelimited_cons_iff hc).mp hs
      have hdone' : '@' ∉ done ++ [c] := by simp [hdone, Ne.symm hne]
      simpa using ih _ s hdone' hs hrest
    | token letters after hletters _ =>
      rw [pieces_tokenText_append hletters] at hps
      cases hps
  | @token letters value rest t hvalue _ ih =>
    intro done s hdone hs hps
    -- Only a text that starts with this token is cut so. It is the leftmost, as `done` has none.
    cases s using cut_induction with
    | nil => simp at hps
    | char c s hc _ =>
      rw [pieces_of_char hc] at hps
      cases hps
    | token letters' after hletters _ =>
      rw [pieces_tokenText_append hletters] at hps
      obtain ⟨hhead, hrest⟩ := List.cons.inj hps
      cases hhead
      have hafter := (wellDelimited_tokenText_append_iff hletters after).mp hs
      have hv := wellDelimited_of_valueOf? ht hvalue
      have hcut : pieces (value.toList ++ after) = pieces value.toList ++ rest := by
        rw [pieces_append hv, hrest]
      have hnext := ih done _ hdone (wellDelimited_append hv hafter) hcut
      have hfirst := firstToken_of_not_mem hdone hletters after
      rw [List.append_assoc] at hfirst
      exact .replaced hfirst hvalue (by rwa [← List.append_assoc] at hnext)

/-- The rule settles on a text exactly if the pieces unfold to it. -/
theorem rescans_settled_iff {table : Table} (ht : DelimitedValues table) {s t : List Char}
    (hs : WellDelimited s) :
    Rescans table s (.settled t) ↔ Unfolds table (pieces s) t :=
  ⟨unfolds_of_rescans ht hs, fun h => rescans_of_unfolds ht h [] s (by simp) hs rfl⟩

/-! ### Passes unfold the pieces -/

/-- What passes settle on, the pieces unfold to. -/
theorem unfolds_of_settle {table : Table} (ht : DelimitedValues table) {template : String}
    {left : Nat} {s t : List Char} (hs : WellDelimited s)
    (h : settle table template left s = .ok t) : Unfolds table (pieces s) t := by
  induction left generalizing s with
  | zero =>
    simp only [settle] at h
    split at h
    · cases h
    · rename_i hfree
      cases h
      exact (unfolds_pieces_iff_of_not_hasToken hfree).mpr rfl
  | succ left ih =>
    simp only [settle] at h
    split at h
    · split at h
      · -- A pass unfolds each token once, which makes no difference to what the pieces unfold to.
        rename_i next hpass
        obtain ⟨hall, rfl⟩ := substitute_ok hpass
        obtain ⟨hwell, hcut⟩ := wellDelimited_flatMap_valueText ht hs
        have hnext := ih hwell h
        rwa [hcut, unfolds_flatMap_iff hall] at hnext
      · cases h
      · cases h
    · rename_i hfree
      cases h
      exact (unfolds_pieces_iff_of_not_hasToken hfree).mpr rfl

/-- Passes over pieces that unfold to a text settle on it, unless they meet a limit. -/
theorem settle_of_unfolds {table : Table} (ht : DelimitedValues table) (template : String)
    (left : Nat) {s t : List Char} (hs : WellDelimited s) (h : Unfolds table (pieces s) t) :
    settle table template left s = .ok t ∨
      ∃ passes, settle table template left s = .error (.expansionLimit template passes) := by
  induction left generalizing s with
  | zero =>
    simp only [settle]
    split
    · exact .inr ⟨_, rfl⟩
    · rename_i hfree
      exact .inl (by rw [(unfolds_pieces_iff_of_not_hasToken hfree).mp h])
  | succ left ih =>
    simp only [settle]
    split
    · split
      · rename_i next hpass
        obtain ⟨hall, rfl⟩ := substitute_ok hpass
        obtain ⟨hwell, hcut⟩ := wellDelimited_flatMap_valueText ht hs
        exact ih hwell (by rwa [hcut, unfolds_flatMap_iff hall])
      · rename_i token hpass
        -- Pieces that unfold have no token without a value.
        obtain ⟨letters, hmem, hnone, -⟩ := substitute_unregistered hpass
        have hsome := h.registered letters hmem
        rw [hnone] at hsome
        cases hsome
      · exact .inr ⟨_, rfl⟩
    · rename_i hfree
      exact .inl (by rw [(unfolds_pieces_iff_of_not_hasToken hfree).mp h])

/-- Passes and the documented rule agree on well-delimited templates and values. A text that
`expand` returns is the only outcome of the rule; a text that the rule settles on is returned by
`expand`, unless it meets one of its limits. -/
theorem expand_agrees_with_rescanning (table : Table) (template : String)
    (ht : ∀ e ∈ table.entries, WellDelimited e.2.toList) (hs : WellDelimited template.toList) :
    (∀ s, expand table template = .ok s →
      ∀ o, Rescans table template.toList o ↔ o = .settled s.toList) ∧
    (∀ s : String, Rescans table template.toList (.settled s.toList) →
      expand table template = .ok s ∨
        ∃ passes, expand table template = .error (.expansionLimit template passes)) := by
  constructor
  · intro s h o
    have hunfold := unfolds_of_settle ht hs (expand_eq_ok_iff.mp h)
    have hrule := (rescans_settled_iff ht hs).mpr hunfold
    exact ⟨fun ho => ho.unique hrule, fun ho => ho ▸ hrule⟩
  · intro s h
    have hunfold := (rescans_settled_iff ht hs).mp h
    rcases settle_of_unfolds ht template maxPasses hs hunfold with hok | ⟨passes, hlimit⟩
    · exact .inl (expand_eq_ok_iff.mpr hok)
    · exact .inr ⟨passes, expand_eq_error_iff.mpr hlimit⟩

/-- A value between whose tokens a run of letters stands, as a false token would. -/
def nestedTable : Table :=
  ⟨[("@P@", "@Q@X@Q@"), ("@Q@", "B")], by decide, by decide⟩

/-- The rule and `expand` on a template whose values hold tokens. -/
theorem expand_nestedTable :
    (∀ e ∈ nestedTable.entries, WellDelimited e.2.toList) ∧ WellDelimited "A@P@_@Q@".toList ∧
      expand nestedTable "A@P@_@Q@" = .ok "ABXB_B" ∧
      ∀ o, Rescans nestedTable "A@P@_@Q@".toList o ↔ o = .settled "ABXB_B".toList := by
  have hvalues : ∀ e ∈ nestedTable.entries, WellDelimited e.2.toList := by decide +kernel
  have htemplate : WellDelimited "A@P@_@Q@".toList := by decide +kernel
  have hexpand : expand nestedTable "A@P@_@Q@" = .ok "ABXB_B" := by decide +kernel
  exact ⟨hvalues, htemplate, hexpand,
    (expand_agrees_with_rescanning nestedTable "A@P@_@Q@" hvalues htemplate).1 _ hexpand⟩

end ModBuild.Proofs.Template
