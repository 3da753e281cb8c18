import ModBuild.Proofs.Template.Chains

/-!
# `ModBuild.Proofs.Template.Length`: how long expansions get

A pass looks at its length behind every value, and not at its end. So the limit holds up to the end
of the last value, and the text behind the last token comes on top of it, however long it is. In the
next pass part of that text may be in front of the last token, or all of it. The theorems:

* `exists_lastToken`: a text with tokens has a last one, with nothing but characters behind it.
* `LastToken.substitute_eq_ok_iff`: a pass goes through exactly if it keeps the limit up to the end
  of the last value.
* `length_of_settle`: each pass adds at most as many bytes as the limit, by induction on the passes.
* `length_of_expand`: both of them for expansions.
* `expand_tokenText_append`: a token expands in front of a text of any length.
* `not_withinLimit`: an expansion that is longer than the limit.
-/

set_option autoImplicit false

namespace ModBuild.Proofs.Template

open ModBuild ModBuild.Template

/-! ### The last token -/

/-- The last token of a text, with the pieces in front of it and the characters behind it. -/
def LastToken (s : List Char) (before : List Piece) (letters behind : List Char) : Prop :=
  pieces s = before ++ .token letters :: behind.map .char

/-- Pieces without a token among them are characters. -/
theorem exists_map_char {ps : List Piece} (h : ps.any Piece.isToken = false) :
    ∃ chars : List Char, ps = chars.map .char := by
  induction ps with
  | nil => exact ⟨[], rfl⟩
  | cons p rest ih =>
    rw [List.any_cons, Bool.or_eq_false_iff] at h
    obtain ⟨chars, hchars⟩ := ih h.2
    cases p with
    | char c => exact ⟨c :: chars, by rw [hchars, List.map_cons]⟩
    | token letters => cases h.1

/-- Pieces with a token among them have a last one. -/
theorem exists_split_last {ps : List Piece} (h : ps.any Piece.isToken = true) :
    ∃ before letters, ∃ behind : List Char,
      ps = before ++ Piece.token letters :: behind.map .char := by
  induction ps with
  | nil => cases h
  | cons p rest ih =>
    cases hrest : rest.any Piece.isToken with
    | true =>
      obtain ⟨before, letters, behind, heq⟩ := ih hrest
      exact ⟨p :: before, letters, behind, by rw [heq, List.cons_append]⟩
    | false =>
      rw [List.any_cons, hrest, Bool.or_false] at h
      cases p with
      | char c => cases h
      | token letters =>
        obtain ⟨behind, hbehind⟩ := exists_map_char hrest
        exact ⟨[], letters, behind, by rw [hbehind, List.nil_append]⟩

/-- A text with tokens has a last one. -/
theorem exists_lastToken {s : List Char} (h : hasToken s = true) :
    ∃ before letters behind, LastToken s before letters behind :=
  exists_split_last h

section

variable {table : Table} {template : String} {left : Nat} {s t behind letters : List Char}
variable {before : List Piece}

/-- What a pass writes up to the end of the last value. -/
def writtenFront (table : Table) (before : List Piece) (letters : List Char) : List Char :=
  (before ++ [Piece.token letters]).flatMap (valueText table)

/-- Behind the last token there are characters alone. -/
theorem LastToken.split (h : LastToken s before letters behind) :
    pieces s = (before ++ [Piece.token letters]) ++ behind.map .char := by
  rw [List.append_assoc, List.singleton_append]
  exact h

/-- The characters behind the last token end the text. -/
theorem LastToken.suffix (h : LastToken s before letters behind) : behind <:+ s := by
  refine ⟨(before ++ [Piece.token letters]).flatMap Piece.text, ?_⟩
  have htext := flatMap_text_pieces s
  rw [h.split, List.flatMap_append, List.flatMap_map] at htext
  rw [← htext]
  exact congrArg _ (List.flatMap_singleton' behind).symm

/-- They are written as they are. -/
theorem LastToken.passed_eq (h : LastToken s before letters behind) :
    passed table s = writtenFront table before letters ++ behind := by
  rw [passed, h.split, List.flatMap_append, List.flatMap_map, writtenFront]
  exact congrArg _ (List.flatMap_singleton' behind)

/-! ### One pass -/

/-- The end of a text is no longer than the text. -/
theorem byteSize_le_of_suffix {u v : List Char} (h : u <:+ v) : byteSize u ≤ byteSize v := by
  obtain ⟨front, rfl⟩ := h
  rw [byteSize_append]
  omega

/-- A pass that writes too much does so up to the end of the last value, since no value ends behind
it. -/
theorem LastToken.tooLongIn_iff (h : LastToken s before letters behind)
    (hall : Registered table s) :
    TooLongIn table 0 (pieces s) ↔ maxLength < byteSize (writtenFront table before letters) := by
  constructor
  · rintro ⟨front, found, after, heq, -, hlong⟩
    rw [Nat.zero_add] at hlong
    -- The value that is too long is one of those up to the last.
    have hsplit : (front ++ [.token found]) ++ after =
        (before ++ [.token letters]) ++ behind.map .char := by
      rw [← h.split, heq, List.append_assoc, List.singleton_append]
    obtain ⟨between, hfront⟩ : ∃ between,
        before ++ [.token letters] = (front ++ [.token found]) ++ between := by
      rcases List.append_eq_append_iff.mp hsplit with ⟨between, hlast, -⟩ | ⟨between, hlast, hchars⟩
      · exact ⟨between, hlast⟩
      · cases between using List.reverseRecOn with
        | nil => exact ⟨[], by rw [hlast, List.append_nil, List.append_nil]⟩
        | append_singleton between p =>
          -- It would be a character.
          rw [← List.append_assoc] at hlast
          have hp : p = .token found := (List.append_singleton_inj.mp hlast).2.symm
          have hmem : .token found ∈ behind.map Piece.char := by
            rw [hchars, hp]
            simp
          simp at hmem
    rw [writtenFront, hfront, List.flatMap_append, byteSize_append]
    omega
  · intro hlong
    refine ⟨before, letters, behind.map .char, h, fun found hmem => hall found ?_, ?_⟩
    · rw [h.split]
      exact List.mem_append_left _ hmem
    · rw [Nat.zero_add, ← writtenFront]
      exact hlong

/-- A pass over a text whose tokens have values goes through exactly if it keeps the limit up to the
end of the last value. What stands behind does not count. -/
theorem LastToken.substitute_eq_ok_iff (h : LastToken s before letters behind)
    (hall : Registered table s) :
    substitute table s = .ok (passed table s) ↔
      byteSize (writtenFront table before letters) ≤ maxLength := by
  rw [← Nat.not_lt, ← h.tooLongIn_iff hall]
  constructor
  · intro hpass hlong
    have hstop : substitute table s = .error .tooLong := substituteOnto_tooLong_iff.mpr hlong
    rw [hpass] at hstop
    cases hstop
  · exact substitute_of_registered hall

/-- A pass that goes through has kept the limit up to the end of the last value. -/
theorem LastToken.of_substitute (h : LastToken s before letters behind)
    (hpass : substitute table s = .ok t) :
    t = writtenFront table before letters ++ behind ∧
      byteSize (writtenFront table before letters) ≤ maxLength := by
  obtain ⟨hall, ht⟩ := substitute_ok hpass
  have hpassed : t = passed table s := ht
  refine ⟨by rw [hpassed, h.passed_eq], (h.substitute_eq_ok_iff hall).mp ?_⟩
  rw [hpass, hpassed]

/-- A pass adds at most as many bytes as the limit. -/
theorem byteSize_of_substitute (htoken : hasToken s = true) (hpass : substitute table s = .ok t) :
    byteSize t ≤ maxLength + byteSize s := by
  obtain ⟨before, letters, behind, hlast⟩ := exists_lastToken htoken
  obtain ⟨rfl, hfront⟩ := hlast.of_substitute hpass
  have hbehind := byteSize_le_of_suffix hlast.suffix
  rw [byteSize_append]
  omega

/-! ### All passes -/

/-- Passes that settle on a text with tokens end in one that has something to replace. -/
theorem length_of_settle (h : settle table template left s = .ok t) (htoken : hasToken s = true) :
    ∃ k < left, hasToken (passedTimes table k s) = true ∧
      substitute table (passedTimes table k s) = .ok t ∧
      byteSize t ≤ (k + 1) * maxLength + byteSize s := by
  induction left generalizing s with
  | zero => simp [settle, htoken] at h
  | succ left ih =>
    obtain ⟨next, hpass, hrest⟩ := substitute_of_settle h htoken
    have hsize := byteSize_of_substitute htoken hpass
    cases hnext : hasToken next with
    | false =>
      -- This pass was the last one.
      rw [settle_of_tokenFree _ _ _ (tokenFree_iff_hasToken.mpr hnext)] at hrest
      cases hrest
      exact ⟨0, Nat.succ_pos left, htoken, hpass, by omega⟩
    | true =>
      obtain ⟨-, hpassed⟩ := substitute_ok hpass
      obtain ⟨k, hk, hlast, hlastPass, hlength⟩ := ih hrest hnext
      rw [hpassed] at hlast hlastPass
      refine ⟨k + 1, Nat.succ_lt_succ hk, hlast, hlastPass, ?_⟩
      rw [Nat.succ_mul]
      omega

/-! ### A token in front of any text -/

/-- A token in front of a text without tokens is the last one. -/
theorem lastToken_tokenText_append (hletters : IsTokenLetters letters) {rest : List Char}
    (hrest : TokenFree rest) : LastToken (tokenText letters ++ rest) [] letters rest := by
  rw [LastToken, pieces_tokenText_append hletters, pieces_of_tokenFree hrest, List.nil_append]

/-- A token with a value in front of a text without tokens leaves none without a value. -/
theorem registered_tokenText_append (hletters : IsTokenLetters letters)
    (hvalue : (valueOf? table letters).isSome) {rest : List Char} (hrest : TokenFree rest) :
    Registered table (tokenText letters ++ rest) := by
  intro found hmem
  rw [pieces_tokenText_append hletters, pieces_of_tokenFree hrest] at hmem
  have hfound : found = letters := by simpa using hmem
  rwa [hfound]

/-- A token with any text behind it expands to its value with that text behind it, if that is free
of tokens and the value keeps the limit. How long the text is does not matter. -/
theorem expand_tokenText_append (hletters : IsTokenLetters letters) {value : String}
    (hvalue : valueOf? table letters = some value) (hlimit : value.utf8ByteSize ≤ maxLength)
    {rest : List Char} (hrest : TokenFree rest) (hfree : TokenFree (value.toList ++ rest)) :
    expand table (String.ofList (tokenText letters ++ rest)) =
      .ok (String.ofList (value.toList ++ rest)) := by
  have hlast := lastToken_tokenText_append hletters hrest
  have hall : Registered table (tokenText letters ++ rest) :=
    registered_tokenText_append hletters (by rw [hvalue]; rfl) hrest
  have hfront : writtenFront table [] letters = value.toList := by
    simp [writtenFront, valueText, hvalue]
  have hpass := (hlast.substitute_eq_ok_iff hall).mpr (by rwa [hfront, byteSize_toList])
  rw [hlast.passed_eq, hfront] at hpass
  rw [expand_eq_ok_iff, String.toList_ofList, String.toList_ofList]
  exact settle_of_substitute hpass (settle_of_tokenFree table _ 31 hfree)

end

/-- The limit of length holds up to the end of the last value of a pass, and for nothing behind it.
A pass over a text whose tokens have values goes through exactly if it keeps the limit up to there.
An expansion of a template with tokens is what its last pass wrote: up to the end of the last value
it keeps the limit, and behind that stands what stood behind the last token. As each pass may add as
many bytes as the limit, the expansion is no longer than the template and one limit for each pass.
-/
theorem length_of_expand (table : Table) :
    (∀ s before letters behind, LastToken s before letters behind → Registered table s →
      (substitute table s = .ok (passed table s) ↔
        byteSize (writtenFront table before letters) ≤ maxLength)) ∧
    ∀ template s, hasToken template.toList = true → expand table template = .ok s →
      ∃ k < maxPasses, ∃ before letters behind,
        LastToken (passedTimes table k template.toList) before letters behind ∧
        s.toList = writtenFront table before letters ++ behind ∧
        byteSize (writtenFront table before letters) ≤ maxLength ∧
        s.utf8ByteSize ≤ (k + 1) * maxLength + template.utf8ByteSize := by
  refine ⟨fun s before letters behind hlast hall => hlast.substitute_eq_ok_iff hall, ?_⟩
  intro template s htoken h
  obtain ⟨k, hk, hmore, hpass, hlength⟩ := length_of_settle (expand_eq_ok_iff.mp h) htoken
  obtain ⟨before, letters, behind, hlast⟩ := exists_lastToken hmore
  obtain ⟨htext, hfront⟩ := hlast.of_substitute hpass
  rw [byteSize_toList, byteSize_toList] at hlength
  exact ⟨k, hk, before, letters, behind, hlast, htext, hfront, hlength⟩

/-- A table with one short value. -/
def letterTable : Table :=
  Table.empty.put "@A@" "x" (by decide +kernel)

/-- The name in the table is one of a token. -/
theorem isTokenLetters_letterTable : IsTokenLetters ['A'] := by
  have hletter : isNameLetter 'A' = true := by decide
  exact ⟨List.cons_ne_nil _ _, fun a ha => List.mem_singleton.mp ha ▸ hletter⟩

/-- Many times the same letter. -/
def manyLetters (n : Nat) : List Char :=
  List.replicate n 'y'

/-- There are as many bytes as letters. -/
theorem byteSize_manyLetters (n : Nat) : byteSize (manyLetters n) = n := by
  induction n with
  | zero => rfl
  | succ n ih =>
    have hcons : manyLetters (n + 1) = 'y' :: manyLetters n := rfl
    rw [hcons, byteSize_cons, ih]
    exact Nat.add_comm 1 n

/-- Letters behind a text without signs make no token. -/
theorem tokenFree_manyLetters (front : List Char) (hfront : '@' ∉ front) (n : Nat) :
    TokenFree (front ++ manyLetters n) := by
  refine tokenFree_of_not_mem fun hmem => ?_
  rcases List.mem_append.mp hmem with hmem | hmem
  · exact hfront hmem
  · exact absurd (List.eq_of_mem_replicate hmem) (by decide)

/-- A token with as many letters behind it. -/
def lettersTemplate (n : Nat) : String :=
  String.ofList (tokenText ['A'] ++ manyLetters n)

/-- The only token of the template is its last. -/
theorem lastToken_lettersTemplate (n : Nat) :
    LastToken (lettersTemplate n).toList [] ['A'] (manyLetters n) := by
  rw [lettersTemplate, String.toList_ofList]
  exact lastToken_tokenText_append isTokenLetters_letterTable
    (tokenFree_manyLetters [] List.not_mem_nil n)

/-- The template has a token. -/
theorem hasToken_lettersTemplate (n : Nat) : hasToken (lettersTemplate n).toList = true := by
  rw [hasToken, lastToken_lettersTemplate n]
  rfl

/-- It expands however many letters there are. -/
theorem expand_lettersTemplate (n : Nat) :
    expand letterTable (lettersTemplate n) = .ok (String.ofList ('x' :: manyLetters n)) := by
  have hfind : valueOf? letterTable ['A'] = some "x" := by decide +kernel
  exact expand_tokenText_append isTokenLetters_letterTable hfind (by decide +kernel)
    (tokenFree_manyLetters [] List.not_mem_nil n) (tokenFree_manyLetters ['x'] (by decide) n)

/-- One pass goes over the letters, which keeps the limit with the value of the token and writes
them behind it. -/
theorem length_of_lettersTemplate :
    substitute letterTable (lettersTemplate maxLength).toList =
        .ok (passed letterTable (lettersTemplate maxLength).toList) ∧
      ∃ k < maxPasses, ∃ before letters behind,
        LastToken (passedTimes letterTable k (lettersTemplate maxLength).toList) before letters
          behind ∧
        'x' :: manyLetters maxLength = writtenFront letterTable before letters ++ behind ∧
        byteSize (writtenFront letterTable before letters) ≤ maxLength := by
  have hall : Registered letterTable (lettersTemplate maxLength).toList := by
    rw [lettersTemplate, String.toList_ofList]
    exact registered_tokenText_append isTokenLetters_letterTable (by decide +kernel)
      (tokenFree_manyLetters [] List.not_mem_nil maxLength)
  obtain ⟨hpasses, hexpands⟩ := length_of_expand letterTable
  obtain ⟨k, hk, before, letters, behind, hlast, htext, hfront, -⟩ :=
    hexpands _ _ (hasToken_lettersTemplate maxLength) (expand_lettersTemplate maxLength)
  rw [String.toList_ofList] at htext
  exact ⟨(hpasses _ _ _ _ (lastToken_lettersTemplate maxLength) hall).mpr (by decide +kernel),
    k, hk, before, letters, behind, hlast, htext, hfront⟩

/-- With as many letters as the limit allows, the expansion is longer than the limit. -/
theorem not_withinLimit :
    ¬ ∀ table template s, hasToken template.toList = true → expand table template = .ok s →
      s.utf8ByteSize ≤ maxLength := by
  intro hlimit
  have hle := hlimit letterTable _ _ (hasToken_lettersTemplate maxLength)
    (expand_lettersTemplate maxLength)
  have hcons : 'x' :: manyLetters maxLength = ['x'] ++ manyLetters maxLength := rfl
  rw [← byteSize_toList, String.toList_ofList, hcons, byteSize_append, byteSize_manyLetters,
    byteSize_singleton] at hle
  exact absurd hle (Nat.not_le.mpr (Nat.lt_add_of_pos_left (by decide)))

end ModBuild.Proofs.Template
