import ModBuild.Template.Token
import Mathlib.Data.List.TakeWhile

/-!
# `ModBuild.Proofs.Template.Cut`: what the cut of a text says about it

`pieces` cuts a text into tokens and single characters. The theorems:

* `tokenAtHead?_eq_some_iff`: the reader of a token at the head of a text, as an equation between
  texts.
* `cut_induction`: a statement about all texts follows the cut, one character or one token at a
  time. Every proof below goes by it.
* `flatMap_text_pieces`: the pieces joined are the text.
* `pieces_append`: the cut of two joined texts is the two cuts joined, provided that the first text
  is `WellDelimited`. Without that, a stray `@` at its end may pair with letters of the second.
-/

set_option autoImplicit false

namespace ModBuild.Proofs.Template

open ModBuild.Template

/-! ### One token -/

/-- The letters of a token: at least one, and each of the class. -/
def IsTokenLetters (letters : List Char) : Prop :=
  letters ≠ [] ∧ ∀ c ∈ letters, isNameLetter c = true

/-- The letters of a token, one by one. -/
theorem isTokenLetters_iff {letters : List Char} :
    IsTokenLetters letters ↔
      letters ≠ [] ∧ ∀ a ∈ letters, a = '_' ∨ 'A' ≤ a ∧ a ≤ 'Z' := by
  simp [IsTokenLetters, isNameLetter]

/-- The first run of letters in front of an `@` ends there. -/
theorem takeWhile_letters_append {letters : List Char}
    (h : ∀ c ∈ letters, isNameLetter c = true) (after : List Char) :
    (letters ++ '@' :: after).takeWhile isNameLetter = letters := by
  rw [List.takeWhile_append_of_pos h, List.takeWhile_cons_of_neg (by decide), List.append_nil]

/-- Behind the letters of a name stands the sign that ends it. -/
theorem dropWhile_letters_append {letters : List Char}
    (h : ∀ c ∈ letters, isNameLetter c = true) (after : List Char) :
    (letters ++ '@' :: after).dropWhile isNameLetter = '@' :: after := by
  rw [List.dropWhile_append_of_pos h, List.dropWhile_cons_of_neg (by decide)]

/-- A token is read at the head of a text exactly where the text starts with one. -/
theorem tokenAtHead?_eq_some_iff {s letters after : List Char} :
    tokenAtHead? s = some (letters, after) ↔
      IsTokenLetters letters ∧ s = tokenText letters ++ after := by
  constructor
  · intro h
    unfold tokenAtHead? at h
    split at h
    · rename_i rest
      -- The letters are taken as far as they go, and what stops them has to be the sign.
      have hrun : ∀ c ∈ rest.takeWhile isNameLetter, isNameLetter c = true :=
        fun c hc => List.mem_takeWhile_imp hc
      have hjoin := List.takeWhile_append_dropWhile (p := isNameLetter) (l := rest)
      split at h
      · simp at h
      · rename_i hdrop hne
        simp only [Option.some.injEq, Prod.mk.injEq] at h
        obtain ⟨rfl, rfl⟩ := h
        refine ⟨⟨hne, hrun⟩, ?_⟩
        rw [hdrop] at hjoin
        simp [tokenText, hjoin]
      · simp at h
    · simp at h
  · rintro ⟨⟨hne, hrun⟩, rfl⟩
    have htake := takeWhile_letters_append hrun after
    have hdrop := dropWhile_letters_append hrun after
    cases letters with
    | nil => exact absurd rfl hne
    | cons c letters =>
      simp only [tokenText, List.cons_append, List.append_assoc, List.nil_append] at *
      simp only [tokenAtHead?, htake, hdrop]

/-- A token is found where it is written. -/
theorem tokenAtHead?_tokenText_append {letters : List Char} (h : IsTokenLetters letters)
    (after : List Char) : tokenAtHead? (tokenText letters ++ after) = some (letters, after) :=
  tokenAtHead?_eq_some_iff.mpr ⟨h, rfl⟩

/-- A name is the text of a token. -/
theorem isName_iff {s : List Char} :
    isName s = true ↔ ∃ letters, IsTokenLetters letters ∧ s = tokenText letters := by
  constructor
  · intro h
    unfold isName at h
    split at h
    · rename_i letters hread
      obtain ⟨hletters, heq⟩ := tokenAtHead?_eq_some_iff.mp hread
      exact ⟨letters, hletters, by rw [heq, List.append_nil]⟩
    · cases h
  · rintro ⟨letters, hletters, rfl⟩
    have hread := tokenAtHead?_tokenText_append hletters []
    rw [List.append_nil] at hread
    rw [isName, hread]

/-- A text that starts with another character than `@` starts with no token. -/
theorem tokenAtHead?_of_ne {c : Char} {rest : List Char} (h : c ≠ '@') :
    tokenAtHead? (c :: rest) = none := by
  unfold tokenAtHead?
  split
  · rename_i heq
    exact absurd (List.cons.inj heq).1 h
  · rfl

/-! ### The cut, one piece at a time -/

/-- A character other than the sign is a piece of its own. -/
theorem pieces_cons_of_ne {c : Char} {rest : List Char} (h : c ≠ '@') :
    pieces (c :: rest) = .char c :: pieces rest :=
  pieces_of_char (tokenAtHead?_of_ne h)

/-- A token is one piece where it is written. -/
theorem pieces_tokenText_append {letters : List Char} (h : IsTokenLetters letters)
    (after : List Char) : pieces (tokenText letters ++ after) = .token letters :: pieces after :=
  pieces_of_token (tokenAtHead?_tokenText_append h after)

/-- What holds of the empty text, and passes on to a text from what follows its first piece, holds
of every text. -/
theorem cut_induction {motive : List Char → Prop} (nil : motive [])
    (char : ∀ c rest, tokenAtHead? (c :: rest) = none → motive rest → motive (c :: rest))
    (token : ∀ letters after, IsTokenLetters letters → motive after →
      motive (tokenText letters ++ after))
    (s : List Char) : motive s := by
  induction hn : s.length using Nat.strongRecOn generalizing s with
  | ind n ih =>
    cases s with
    | nil => exact nil
    | cons c rest =>
      cases h : tokenAtHead? (c :: rest) with
      | none => exact char c rest h (ih _ (by rw [← hn]; simp) rest rfl)
      | some found =>
        obtain ⟨letters, after⟩ := found
        obtain ⟨hletters, heq⟩ := tokenAtHead?_eq_some_iff.mp h
        rw [heq]
        exact token letters after hletters (ih _ (hn ▸ length_of_tokenAtHead? h) after rfl)

/-- Nothing is lost in the cut. -/
theorem flatMap_text_pieces (s : List Char) : (pieces s).flatMap Piece.text = s := by
  induction s using cut_induction with
  | nil => simp
  | char c rest h ih => simp [pieces_of_char h, Piece.text, ih]
  | token letters after h ih => simp [pieces_tokenText_append h, Piece.text, ih]

/-- What is cut out as a token has the letters of one. -/
theorem isTokenLetters_of_mem_pieces {s letters : List Char} (h : .token letters ∈ pieces s) :
    IsTokenLetters letters := by
  induction s using cut_induction with
  | nil => simp at h
  | char c rest hc ih =>
    rw [pieces_of_char hc] at h
    exact ih (by simpa using h)
  | token found after hfound ih =>
    rw [pieces_tokenText_append hfound] at h
    rcases List.mem_cons.mp h with heq | hmem
    · cases heq
      exact hfound
    · exact ih hmem

/-! ### Well-delimited texts -/

/-- What is left of a text when its tokens are taken out. -/
def withoutTokens (s : List Char) : List Char :=
  (pieces s).flatMap fun
    | .char c => [c]
    | .token _ => []

/-- Every `@` of the text belongs to a token. -/
def WellDelimited (s : List Char) : Prop :=
  '@' ∉ withoutTokens s

instance (s : List Char) : Decidable (WellDelimited s) :=
  inferInstanceAs (Decidable ('@' ∉ withoutTokens s))

/-- The empty text is delimited. -/
theorem wellDelimited_nil : WellDelimited [] := by
  simp [WellDelimited, withoutTokens]

/-- A well-delimited text goes on well-delimited behind a character, which is no `@`. -/
theorem wellDelimited_cons_iff {c : Char} {rest : List Char}
    (h : tokenAtHead? (c :: rest) = none) :
    WellDelimited (c :: rest) ↔ c ≠ '@' ∧ WellDelimited rest := by
  simp [WellDelimited, withoutTokens, pieces_of_char h, eq_comm]

/-- A token in front of a text leaves it delimited, or not. -/
theorem wellDelimited_tokenText_append_iff {letters : List Char} (h : IsTokenLetters letters)
    (after : List Char) :
    WellDelimited (tokenText letters ++ after) ↔ WellDelimited after := by
  simp [WellDelimited, withoutTokens, pieces_tokenText_append h]

/-- A text without any `@` is well-delimited. -/
theorem wellDelimited_of_not_mem {s : List Char} (h : '@' ∉ s) : WellDelimited s := by
  induction s with
  | nil => exact wellDelimited_nil
  | cons c rest ih =>
    rw [List.mem_cons, not_or] at h
    have hc : c ≠ '@' := Ne.symm h.1
    exact (wellDelimited_cons_iff (tokenAtHead?_of_ne hc)).mpr ⟨hc, ih h.2⟩

/-- The cut of a well-delimited text does not depend on what follows the text. -/
theorem pieces_append {s : List Char} (h : WellDelimited s) (t : List Char) :
    pieces (s ++ t) = pieces s ++ pieces t := by
  induction s using cut_induction with
  | nil => simp
  | char c rest hc ih =>
    obtain ⟨hne, hrest⟩ := (wellDelimited_cons_iff hc).mp h
    rw [List.cons_append, pieces_cons_of_ne hne, pieces_cons_of_ne hne, ih hrest,
      List.cons_append]
  | token letters after hletters ih =>
    have hafter := (wellDelimited_tokenText_append_iff hletters after).mp h
    rw [List.append_assoc, pieces_tokenText_append hletters, pieces_tokenText_append hletters,
      ih hafter, List.cons_append]

/-- Two well-delimited texts joined are well-delimited. -/
theorem wellDelimited_append {s t : List Char} (hs : WellDelimited s) (ht : WellDelimited t) :
    WellDelimited (s ++ t) := by
  unfold WellDelimited withoutTokens at *
  rw [pieces_append hs, List.flatMap_append, List.mem_append, not_or]
  exact ⟨hs, ht⟩

end ModBuild.Proofs.Template
