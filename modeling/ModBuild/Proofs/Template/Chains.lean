import Mathlib.Data.List.Chain
import Mathlib.Logic.Relation
import ModBuild.Proofs.Template.Segments

/-!
# `ModBuild.Proofs.Template.Chains`: how deep references go

The value of a token may hold tokens, whose values hold tokens again. A chain follows such
references, from a token of a text on. Each pass takes the first token off every chain, so an
expansion needs as many passes as its longest chain has tokens. The theorems:

* `token_mem_passed_iff`: the tokens behind a pass are those that the tokens in front refer to.
* `length_le_of_settle`: passes that settle have been enough for every chain, and have found a
  value for each token on it.
* `settle_of_chains`: the other way round, unless a pass writes too much.
* `exists_longer_chain`: a token that refers back to itself lies on chains of any length.
* `expand_follows_chains`: all of this for an expansion, and what the passes in its error say.

Passes write into a text of limited length. `Overflows` says of which text that is: the output of
one pass, up to the end of some value in it.
-/

set_option autoImplicit false

namespace ModBuild.Proofs.Template

open ModBuild ModBuild.Template
open Relation (TransGen ReflTransGen)

/-! ### Chains of references -/

/-- The value of the first token holds the second one. -/
def Refers (table : Table) (a b : List Char) : Prop :=
  ∃ value, valueOf? table a = some value ∧ .token b ∈ pieces value.toList

/-- A sequence of tokens, the first of which is one of the text. Each of the others stands in the
value of the one before it. -/
structure IsChainOf (table : Table) (s : List Char) (chain : List (List Char)) : Prop where
  start : ∀ letters ∈ chain.head?, .token letters ∈ pieces s
  linked : chain.IsChain (Refers table)

/-- Every token of the text has a value. -/
def Registered (table : Table) (s : List Char) : Prop :=
  ∀ letters, .token letters ∈ pieces s → (valueOf? table letters).isSome

/-- The piece is a character, or a token with a value. -/
def hasValue (table : Table) : Piece → Bool
  | .char _ => true
  | .token letters => (valueOf? table letters).isSome

/-- The tokens of a text have values exactly if each of its pieces is a character or has one. -/
theorem registered_iff {table : Table} {s : List Char} :
    Registered table s ↔ ∀ p ∈ pieces s, hasValue table p = true := by
  constructor
  · intro h p hp
    cases p with
    | char c => rfl
    | token letters => exact h letters hp
  · intro h letters hmem
    exact h _ hmem

instance (table : Table) (s : List Char) : Decidable (Registered table s) :=
  decidable_of_iff _ registered_iff.symm

/-- Every token that the text comes to has a value. -/
def RegisteredBelow (table : Table) (s : List Char) : Prop :=
  ∀ chain, IsChainOf table s chain → ∀ letters ∈ chain, (valueOf? table letters).isSome

/-! ### What is written -/

/-- What a pass makes of a text whose tokens have values. -/
def passed (table : Table) (s : List Char) : List Char :=
  (pieces s).flatMap (valueText table)

/-- The text behind a number of passes. -/
def passedTimes (table : Table) : Nat → List Char → List Char
  | 0, s => s
  | k + 1, s => passedTimes table k (passed table s)

/-- The bytes of a run of characters. -/
def byteSize (s : List Char) : Nat :=
  (String.ofList s).utf8ByteSize

/-- At the end of some value among the pieces, more is written than there may be. The tokens up to
there have values, so a pass gets that far. -/
def TooLongIn (table : Table) (size : Nat) (ps : List Piece) : Prop :=
  ∃ before letters after, ps = before ++ .token letters :: after ∧
    (∀ found, Piece.token found ∈ before ++ [Piece.token letters] → (valueOf? table found).isSome) ∧
    maxLength < size + byteSize ((before ++ [Piece.token letters]).flatMap (valueText table))

/-- One of the first passes over a text, behind others that go through, writes too much. -/
def Overflows (table : Table) (passes : Nat) (s : List Char) : Prop :=
  ∃ k < passes, (∀ j < k, Registered table (passedTimes table j s)) ∧
    TooLongIn table 0 (pieces (passedTimes table k s))

section

variable {table : Table} {template : String} {left : Nat} {s t : List Char}
variable {chain : List (List Char)} {a : List Char}

/-! ### One pass and the chains -/

/-- No names are a chain of any text. -/
theorem isChainOf_nil (table : Table) (s : List Char) : IsChainOf table s [] :=
  ⟨nofun, .nil⟩

/-- A chain goes on with what its first token refers to. -/
theorem isChainOf_cons_iff :
    IsChainOf table s (a :: chain) ↔
      .token a ∈ pieces s ∧ (∀ b ∈ chain.head?, Refers table a b) ∧
        chain.IsChain (Refers table) := by
  constructor
  · intro h
    exact ⟨h.start a rfl, List.isChain_cons.mp h.linked⟩
  · rintro ⟨hmem, hlinked⟩
    refine ⟨fun letters hletters => ?_, List.isChain_cons.mpr hlinked⟩
    cases hletters
    exact hmem

/-- The tokens behind a pass are those that the tokens in front of it refer to. -/
theorem token_mem_passed_iff (ht : DelimitedValues table) (hs : WellDelimited s) {b : List Char} :
    .token b ∈ pieces (passed table s) ↔ ∃ a, .token a ∈ pieces s ∧ Refers table a b := by
  rw [passed, (wellDelimited_flatMap_valueText ht hs).2, List.mem_flatMap]
  constructor
  · rintro ⟨p, hp, hb⟩
    cases p with
    | char c => simp [valuePieces] at hb
    | token a =>
      cases hvalue : valueOf? table a with
      | none => simp [valuePieces, hvalue] at hb
      | some value => exact ⟨a, hp, value, hvalue, by simpa [valuePieces, hvalue] using hb⟩
  · rintro ⟨a, ha, value, hvalue, hb⟩
    exact ⟨.token a, ha, by simpa [valuePieces, hvalue] using hb⟩

/-- A pass takes the first token off a chain. -/
theorem IsChainOf.tail (ht : DelimitedValues table) (hs : WellDelimited s)
    (h : IsChainOf table s (a :: chain)) : IsChainOf table (passed table s) chain := by
  obtain ⟨hmem, hnext, hlinked⟩ := isChainOf_cons_iff.mp h
  exact ⟨fun b hb => (token_mem_passed_iff ht hs).mpr ⟨a, hmem, hnext b hb⟩, hlinked⟩

/-- A chain behind a pass is the rest of one in front of it. An empty one will do as well, as long
as there is a token for it to follow. -/
theorem IsChainOf.extend (ht : DelimitedValues table) (hs : WellDelimited s)
    (htoken : hasToken s = true) (h : IsChainOf table (passed table s) chain) :
    ∃ a, IsChainOf table s (a :: chain) := by
  cases chain with
  | nil =>
    obtain ⟨p, hp, hpiece⟩ := List.any_eq_true.mp htoken
    cases p with
    | char c => cases hpiece
    | token a => exact ⟨a, isChainOf_cons_iff.mpr ⟨hp, nofun, .nil⟩⟩
  | cons b rest =>
    obtain ⟨a, ha, hrefers⟩ := (token_mem_passed_iff ht hs).mp (h.start b rfl)
    refine ⟨a, isChainOf_cons_iff.mpr ⟨ha, fun b' hb' => ?_, h.linked⟩⟩
    cases hb'
    exact hrefers

/-- The tokens of a text are chains by themselves. -/
theorem RegisteredBelow.registered (h : RegisteredBelow table s) : Registered table s := by
  intro a ha
  exact h [a] (isChainOf_cons_iff.mpr ⟨ha, nofun, .nil⟩) a List.mem_cons_self

/-- In a table whose values hold registered tokens only, nothing else is met. -/
theorem registeredBelow_of_closed (hclosed : ∀ e ∈ table.entries, Registered table e.2.toList)
    (hs : Registered table s) : RegisteredBelow table s := by
  intro chain hchain
  refine hchain.linked.induction (fun letters => (valueOf? table letters).isSome) chain ?_ ?_
  · rintro a b ⟨value, hvalue, hb⟩ -
    exact hclosed _ (mem_entries_of_valueOf? hvalue) b hb
  · intro hne
    exact hs _ (hchain.start _ (List.head?_eq_some_head hne))

/-- If every token that a text comes to has a value, so does every one after a pass. -/
theorem RegisteredBelow.passed (ht : DelimitedValues table) (hs : WellDelimited s)
    (htoken : hasToken s = true) (h : RegisteredBelow table s) :
    RegisteredBelow table (passed table s) := by
  intro chain hchain b hb
  obtain ⟨a, hlonger⟩ := hchain.extend ht hs htoken
  exact h _ hlonger b (List.mem_cons_of_mem _ hb)

/-- A pass leaves a text delimited, if the values are. -/
theorem wellDelimited_passed (ht : DelimitedValues table) (hs : WellDelimited s) :
    WellDelimited (passed table s) :=
  (wellDelimited_flatMap_valueText ht hs).1

/-! ### One pass and the length -/

/-- The sizes of two texts add up. -/
theorem byteSize_append (u v : List Char) : byteSize (u ++ v) = byteSize u + byteSize v := by
  simp [byteSize, String.ofList_append]

/-- The size of a character is that of its encoding. -/
theorem byteSize_singleton (c : Char) : byteSize [c] = c.utf8Size := by
  simp [byteSize]

/-- A character in front adds its size. -/
theorem byteSize_cons (c : Char) (s : List Char) :
    byteSize (c :: s) = c.utf8Size + byteSize s := by
  rw [← List.singleton_append, byteSize_append, byteSize_singleton]

/-- A text that is not empty has at least one byte. -/
theorem one_le_byteSize (h : s ≠ []) : 1 ≤ byteSize s := by
  cases s with
  | nil => exact absurd rfl h
  | cons c rest =>
    have hpos := c.utf8Size_pos
    rw [byteSize_cons]
    omega

/-- The size of a string is that of its characters. -/
theorem byteSize_toList (value : String) : byteSize value.toList = value.utf8ByteSize := by
  simp [byteSize]

/-- Characters in front only move the end of what is written. -/
theorem tooLongIn_char_iff {c : Char} {size : Nat} {rest : List Piece} :
    TooLongIn table size (.char c :: rest) ↔ TooLongIn table (size + c.utf8Size) rest := by
  -- The pieces in front of the token that is too much begin with this character.
  constructor
  · rintro ⟨before, letters, after, heq, hall, hlong⟩
    cases before with
    | nil => cases heq
    | cons p before =>
      obtain ⟨rfl, hrest⟩ := List.cons.inj heq
      refine ⟨before, letters, after, hrest, fun found hmem => ?_, ?_⟩
      · exact hall found (List.mem_cons_of_mem _ hmem)
      · rw [List.cons_append, List.flatMap_cons, byteSize_append] at hlong
        rw [show byteSize (valueText table (.char c)) = c.utf8Size from byteSize_singleton c]
          at hlong
        omega
  · rintro ⟨before, letters, after, rfl, hall, hlong⟩
    refine ⟨.char c :: before, letters, after, rfl, fun found hmem => ?_, ?_⟩
    · exact hall found (by simpa using hmem)
    · rw [List.cons_append, List.flatMap_cons, byteSize_append]
      rw [show byteSize (valueText table (.char c)) = c.utf8Size from byteSize_singleton c]
      omega

/-- A token with a value in front writes too much by itself, or moves the end. -/
theorem tooLongIn_token_iff {letters : List Char} {value : String} {size : Nat}
    {rest : List Piece} (hvalue : valueOf? table letters = some value) :
    TooLongIn table size (.token letters :: rest) ↔
      maxLength < size + value.utf8ByteSize ∨
        TooLongIn table (size + value.utf8ByteSize) rest := by
  -- A value counts with its length in bytes.
  have hsize : byteSize (valueText table (.token letters)) = value.utf8ByteSize := by
    rw [valueText, hvalue]
    exact byteSize_toList value
  constructor
  · rintro ⟨before, found, after, heq, hall, hlong⟩
    cases before with
    | nil =>
      obtain ⟨hhead, -⟩ := List.cons.inj heq
      cases hhead
      left
      rw [List.nil_append, List.flatMap_singleton, hsize] at hlong
      exact hlong
    | cons p before =>
      obtain ⟨rfl, hrest⟩ := List.cons.inj heq
      right
      refine ⟨before, found, after, hrest, fun other hmem => ?_, ?_⟩
      · exact hall other (List.mem_cons_of_mem _ hmem)
      · rw [List.cons_append, List.flatMap_cons, byteSize_append, hsize] at hlong
        omega
  · rintro (hlong | ⟨before, found, after, rfl, hall, hlong⟩)
    · refine ⟨[], letters, rest, rfl, fun found hmem => ?_, ?_⟩
      · rw [List.nil_append, List.mem_singleton] at hmem
        cases hmem
        rw [hvalue]
        rfl
      · rw [List.nil_append, List.flatMap_singleton, hsize]
        exact hlong
    · refine ⟨.token letters :: before, found, after, rfl, fun other hmem => ?_, ?_⟩
      · rcases List.mem_cons.mp hmem with heq | hmem
        · cases heq
          rw [hvalue]
          rfl
        · exact hall other hmem
      · rw [List.cons_append, List.flatMap_cons, byteSize_append, hsize]
        omega

/-- A pass stops at the length exactly if it writes too much. It stops at the first value that does,
and there is one as soon as there is any. -/
theorem substituteOnto_tooLong_iff {ps : List Piece} {written : List Char} {size : Nat} :
    substituteOnto table written size ps = .error .tooLong ↔ TooLongIn table size ps := by
  induction ps generalizing written size with
  | nil =>
    simp [substituteOnto, TooLongIn]
  | cons p rest ih =>
    cases p with
    | char c =>
      rw [tooLongIn_char_iff]
      exact ih
    | token letters =>
      cases hvalue : valueOf? table letters with
      | none =>
        have hfind : table.find? (String.ofList (tokenText letters)) = none := hvalue
        simp only [substituteOnto, hfind]
        constructor
        · intro h
          cases h
        · rintro ⟨before, found, after, heq, hall, -⟩
          -- The token without a value is the first, so no pass gets behind it.
          have hfirst : Piece.token letters ∈ before ++ [.token found] := by
            cases before with
            | nil =>
              obtain ⟨hhead, -⟩ := List.cons.inj heq
              rw [hhead]
              exact List.mem_singleton_self _
            | cons p before =>
              obtain ⟨rfl, -⟩ := List.cons.inj heq
              exact List.mem_cons_self
          have hsome := hall letters hfirst
          rw [hvalue] at hsome
          cases hsome
      | some value =>
        have hfind : table.find? (String.ofList (tokenText letters)) = some value := hvalue
        rw [tooLongIn_token_iff hvalue]
        simp only [substituteOnto, hfind]
        by_cases hlong : size + value.utf8ByteSize > maxLength
        · simp [hlong]
        · rw [if_neg hlong, ih]
          constructor
          · exact .inr
          · rintro (hlong' | h)
            · exact absurd hlong' hlong
            · exact h

/-- A pass goes through where all tokens have values and it does not write too much. -/
theorem substitute_of_registered (hall : Registered table s)
    (hshort : ¬ TooLongIn table 0 (pieces s)) : substitute table s = .ok (passed table s) := by
  cases hpass : substitute table s with
  | ok next => rw [(substitute_ok hpass).2, passed]
  | error stop =>
    cases stop with
    | unregistered token =>
      obtain ⟨letters, hmem, hnone, -⟩ := substitute_unregistered hpass
      have hsome := hall letters hmem
      rw [hnone] at hsome
      cases hsome
    | tooLong => exact absurd (substituteOnto_tooLong_iff.mp hpass) hshort

/-- A text overflows in its first pass or, if that goes through, in one that follows. -/
theorem overflows_succ_iff :
    Overflows table (left + 1) s ↔
      TooLongIn table 0 (pieces s) ∨ Registered table s ∧ Overflows table left (passed table s) := by
  constructor
  · rintro ⟨k, hk, hall, hlong⟩
    cases k with
    | zero => exact .inl hlong
    | succ k =>
      refine .inr ⟨hall 0 (Nat.succ_pos k), k, Nat.lt_of_succ_lt_succ hk, fun j hj => ?_, hlong⟩
      exact hall (j + 1) (Nat.succ_lt_succ hj)
  · rintro (hlong | ⟨hfirst, k, hk, hall, hlong⟩)
    · exact ⟨0, Nat.succ_pos left, fun j hj => absurd hj (Nat.not_lt_zero j), hlong⟩
    · refine ⟨k + 1, Nat.succ_lt_succ hk, fun j hj => ?_, hlong⟩
      cases j with
      | zero => exact hfirst
      | succ j => exact hall j (Nat.lt_of_succ_lt_succ hj)

/-! ### Passes follow the chains -/

/-- Passes that settle have been enough for every chain, and each token on it has a value. -/
theorem length_le_of_settle (ht : DelimitedValues table) (hs : WellDelimited s)
    (h : settle table template left s = .ok t) (hchain : IsChainOf table s chain) :
    (∀ letters ∈ chain, (valueOf? table letters).isSome) ∧ chain.length ≤ left := by
  induction left generalizing s chain with
  | zero =>
    cases chain with
    | nil => exact ⟨nofun, Nat.le_refl 0⟩
    | cons a rest =>
      have htoken : hasToken s = true := List.any_eq_true.mpr ⟨_, hchain.start a rfl, rfl⟩
      simp [settle, htoken] at h
  | succ left ih =>
    cases chain with
    | nil => exact ⟨nofun, Nat.zero_le _⟩
    | cons a rest =>
      -- The first token of the chain is in the text, so the pass went on and it has a value.
      have hmem := hchain.start a rfl
      have htoken : hasToken s = true := List.any_eq_true.mpr ⟨_, hmem, rfl⟩
      obtain ⟨next, hpass, hrest⟩ := substitute_of_settle h htoken
      obtain ⟨hall, rfl⟩ := substitute_ok hpass
      obtain ⟨hvalues, hlength⟩ :=
        ih (wellDelimited_passed ht hs) hrest (hchain.tail ht hs)
      refine ⟨fun letters hletters => ?_, ?_⟩
      · rcases List.mem_cons.mp hletters with rfl | hletters
        · exact hall letters hmem
        · exact hvalues letters hletters
      · rw [List.length_cons]
        omega

/-- A text without tokens overflows in no pass. -/
theorem not_overflows_of_tokenFree {passes : Nat} (h : TokenFree s) :
    ¬ Overflows table passes s := by
  have hcut := pieces_of_tokenFree h
  have hsame : ∀ k, passedTimes table k s = s := by
    intro k
    induction k with
    | zero => rfl
    | succ k ih =>
      have hpassed : passed table s = s := by
        rw [passed, hcut, List.flatMap_map]
        exact List.flatMap_singleton' s
      rw [passedTimes, hpassed, ih]
  rintro ⟨k, -, -, before, letters, after, heq, -⟩
  rw [hsame k, hcut] at heq
  have hmem : .token letters ∈ s.map Piece.char := heq ▸ List.mem_append_right _ List.mem_cons_self
  simp at hmem

/-- Passes that settle have not overflowed. -/
theorem not_overflows_of_settle (h : settle table template left s = .ok t) :
    ¬ Overflows table left s := by
  induction left generalizing s with
  | zero =>
    rintro ⟨k, hk, -⟩
    exact absurd hk (Nat.not_lt_zero k)
  | succ left ih =>
    cases htoken : hasToken s with
    | false => exact not_overflows_of_tokenFree (tokenFree_iff_hasToken.mpr htoken)
    | true =>
      obtain ⟨next, hpass, hrest⟩ := substitute_of_settle h htoken
      obtain ⟨-, rfl⟩ := substitute_ok hpass
      rw [overflows_succ_iff]
      rintro (hlong | ⟨-, hlater⟩)
      · have hstop : substitute table s = .error .tooLong := substituteOnto_tooLong_iff.mpr hlong
        rw [hpass] at hstop
        cases hstop
      · exact ih hrest hlater

/-- Where every token has a value, passes settle or meet a limit. -/
theorem settle_cases (ht : DelimitedValues table) (hs : WellDelimited s) (template : String)
    (left : Nat) (hall : RegisteredBelow table s) :
    (∃ t, settle table template left s = .ok t) ∨
      ∃ passes, settle table template left s = .error (.expansionLimit template passes) := by
  induction left generalizing s with
  | zero =>
    cases htoken : hasToken s with
    | false => exact .inl ⟨s, by simp [settle, htoken]⟩
    | true => exact .inr ⟨maxPasses, by simp [settle, htoken]⟩
  | succ left ih =>
    cases htoken : hasToken s with
    | false => exact .inl ⟨s, by simp [settle, htoken]⟩
    | true =>
      by_cases hlong : TooLongIn table 0 (pieces s)
      · have hstop : substitute table s = .error .tooLong := substituteOnto_tooLong_iff.mpr hlong
        exact .inr ⟨maxPasses - left, by simp [settle, htoken, hstop]⟩
      · have hpass := substitute_of_registered hall.registered hlong
        simp only [settle, htoken, if_true, hpass]
        exact ih (wellDelimited_passed ht hs) (hall.passed ht hs htoken)

/-- Passes settle where every token has a value, there are passes enough for every chain, and none
of them overflows. -/
theorem settle_of_chains (ht : DelimitedValues table) (hs : WellDelimited s) (template : String)
    (hall : RegisteredBelow table s) (hlength : ∀ chain, IsChainOf table s chain →
      chain.length ≤ left) (hshort : ¬ Overflows table left s) :
    ∃ t, settle table template left s = .ok t := by
  induction left generalizing s with
  | zero =>
    cases htoken : hasToken s with
    | false => exact ⟨s, by simp [settle, htoken]⟩
    | true =>
      -- A token that is left is a chain.
      obtain ⟨a, hchain⟩ := (isChainOf_nil table (passed table s)).extend ht hs htoken
      exact absurd (hlength _ hchain) (by simp)
  | succ left ih =>
    cases htoken : hasToken s with
    | false => exact ⟨s, by simp [settle, htoken]⟩
    | true =>
      rw [overflows_succ_iff, not_or] at hshort
      have hpass := substitute_of_registered hall.registered hshort.1
      simp only [settle, htoken, if_true, hpass]
      refine ih (wellDelimited_passed ht hs) (hall.passed ht hs htoken) ?_ ?_
      · intro chain hchain
        obtain ⟨a, hlonger⟩ := hchain.extend ht hs htoken
        have hle := hlength _ hlonger
        rw [List.length_cons] at hle
        omega
      · exact fun hlater => hshort.2 ⟨hall.registered, hlater⟩

/-- The passes that an error tells are counted from 1, and all were taken unless one overflowed. -/
theorem passes_of_settle {text : String} {passes : Nat} (hleft : left ≤ maxPasses)
    (h : settle table template left s = .error (.expansionLimit text passes)) :
    text = template ∧ 1 ≤ passes ∧ passes ≤ maxPasses ∧
      (¬ Overflows table left s → passes = maxPasses) := by
  induction left generalizing s with
  | zero =>
    simp only [settle] at h
    split at h
    · cases h
      exact ⟨rfl, by decide, Nat.le_refl _, fun _ => rfl⟩
    · cases h
  | succ left ih =>
    simp only [settle] at h
    split at h
    · split at h
      · rename_i next hpass
        -- A pass that goes through can overflow only later.
        obtain ⟨hall, rfl⟩ := substitute_ok hpass
        obtain ⟨htext, hpos, hle, hfull⟩ := ih (by omega) h
        refine ⟨htext, hpos, hle, fun hshort => hfull fun hlater => ?_⟩
        exact hshort (overflows_succ_iff.mpr (.inr ⟨hall, hlater⟩))
      · rw [unresolved] at h
        cases h
      · rename_i hpass
        cases h
        refine ⟨rfl, by omega, Nat.sub_le _ _, fun hshort => ?_⟩
        exact absurd (overflows_succ_iff.mpr (.inl (substituteOnto_tooLong_iff.mp hpass))) hshort
    · cases h

/-! ### References back -/

/-- A token that refers back to itself refers to one that does so, too. -/
theorem exists_refers_of_cycle (h : TransGen (Refers table) a a) :
    ∃ b, Refers table a b ∧ TransGen (Refers table) b b := by
  obtain ⟨b, hab, hba⟩ := TransGen.head'_iff.mp h
  exact ⟨b, hab, TransGen.tail' hba hab⟩

/-- From a token that refers back to itself, references go on for as long as one likes. -/
theorem exists_linked_of_cycle (n : Nat) (h : TransGen (Refers table) a a) :
    ∃ rest, rest.length = n ∧ (a :: rest).IsChain (Refers table) := by
  induction n generalizing a with
  | zero => exact ⟨[], rfl, List.isChain_singleton a⟩
  | succ n ih =>
    obtain ⟨b, hab, hb⟩ := exists_refers_of_cycle h
    obtain ⟨rest, hlength, hlinked⟩ := ih hb
    refine ⟨b :: rest, by rw [List.length_cons, hlength], List.isChain_cons.mpr ⟨?_, hlinked⟩⟩
    intro b' hb'
    cases hb'
    exact hab

/-- A token on a chain that refers back to itself lies on chains of any length. -/
theorem exists_longer_chain (n : Nat) (hchain : IsChainOf table s chain) (ha : a ∈ chain)
    (h : TransGen (Refers table) a a) : ∃ longer, IsChainOf table s longer ∧ n < longer.length := by
  obtain ⟨front, behind, rfl⟩ := List.append_of_mem ha
  obtain ⟨rest, hlength, hlinked⟩ := exists_linked_of_cycle n h
  refine ⟨front ++ a :: rest, ⟨fun letters hletters => ?_, ?_⟩, ?_⟩
  · refine hchain.start letters ?_
    -- The first token is one of `front`, or `a`, and both chains begin with these.
    rw [List.head?_append] at hletters ⊢
    exact hletters
  · have hfront := (List.isChain_split.mp hchain.linked).1
    exact List.isChain_split.mpr ⟨hfront, hlinked⟩
  · rw [List.length_append, List.length_cons, hlength]
    omega

/-! ### Results -/

/-- What is known of the chains of a template that expands. -/
theorem chains_of_expand {text : String} (ht : DelimitedValues table)
    (hs : WellDelimited template.toList) (h : expand table template = .ok text)
    (hchain : IsChainOf table template.toList chain) :
    chain.length ≤ maxPasses ∧ ∀ letters ∈ chain,
      (valueOf? table letters).isSome ∧ ¬ TransGen (Refers table) letters letters := by
  have hsettle := expand_eq_ok_iff.mp h
  obtain ⟨hvalues, hlength⟩ := length_le_of_settle ht hs hsettle hchain
  refine ⟨hlength, fun letters hletters => ⟨hvalues letters hletters, fun hcycle => ?_⟩⟩
  -- On a cycle there would be a chain with one token more than there are passes.
  obtain ⟨longer, hlonger, hlt⟩ := exists_longer_chain maxPasses hchain hletters hcycle
  have hle := (length_le_of_settle ht hs hsettle hlonger).2
  omega

/-- With values for all its tokens, a template that does not expand meets a limit. -/
theorem limit_of_registeredBelow (ht : DelimitedValues table) (hs : WellDelimited template.toList)
    (hall : RegisteredBelow table template.toList) (hfails : ∀ s, expand table template ≠ .ok s) :
    ∃ passes, expand table template = .error (.expansionLimit template passes) := by
  rcases settle_cases ht hs template maxPasses hall with ⟨t, hok⟩ | ⟨passes, hstop⟩
  · rw [← String.toList_ofList (l := t)] at hok
    exact absurd (expand_eq_ok_iff.mpr hok) (hfails _)
  · exact ⟨passes, expand_eq_error_iff.mpr hstop⟩

end

/-- Expansion on well-delimited templates and values, by the chains of references in it. A template
that expands has a value for every token it comes to, no chain of it has more tokens than there are
passes, and none of its tokens refers back to itself. The other way round, a template all of whose
tokens have values expands if its chains are not too long and no pass overflows, and otherwise meets
a limit. The passes that the error tells are all that there may be, unless one of them overflowed.
-/
theorem expand_follows_chains (table : Table) (template : String)
    (ht : ∀ e ∈ table.entries, WellDelimited e.2.toList) (hs : WellDelimited template.toList) :
    (∀ s, expand table template = .ok s →
      ∀ chain, IsChainOf table template.toList chain →
        chain.length ≤ maxPasses ∧ ∀ letters ∈ chain,
          (valueOf? table letters).isSome ∧ ¬ TransGen (Refers table) letters letters) ∧
    (RegisteredBelow table template.toList →
      (∀ chain, IsChainOf table template.toList chain → chain.length ≤ maxPasses) →
        (¬ Overflows table maxPasses template.toList → ∃ s, expand table template = .ok s) ∧
        (Overflows table maxPasses template.toList →
          ∃ passes, expand table template = .error (.expansionLimit template passes))) ∧
    (RegisteredBelow table template.toList →
      (∃ chain, IsChainOf table template.toList chain ∧ (maxPasses < chain.length ∨
        ∃ letters ∈ chain, TransGen (Refers table) letters letters)) →
          ∃ passes, expand table template = .error (.expansionLimit template passes)) ∧
    (∀ text passes, expand table template = .error (.expansionLimit text passes) →
      text = template ∧ 1 ≤ passes ∧ passes ≤ maxPasses ∧
        (¬ Overflows table maxPasses template.toList → passes = maxPasses)) := by
  refine ⟨fun s h chain hchain => chains_of_expand ht hs h hchain, fun hall hlength => ⟨?_, ?_⟩,
    ?_, ?_⟩
  · intro hshort
    obtain ⟨t, hok⟩ := settle_of_chains ht hs template hall hlength hshort
    rw [← String.toList_ofList (l := t)] at hok
    exact ⟨_, expand_eq_ok_iff.mpr hok⟩
  · intro hlong
    refine limit_of_registeredBelow ht hs hall fun s hok => ?_
    exact not_overflows_of_settle (expand_eq_ok_iff.mp hok) hlong
  · rintro hall ⟨chain, hchain, hdeep⟩
    refine limit_of_registeredBelow ht hs hall fun s hok => ?_
    obtain ⟨hle, hvalues⟩ := chains_of_expand ht hs hok hchain
    -- Too long a chain, or one through a token that leads back to itself, would have settled.
    rcases hdeep with hlt | ⟨letters, hletters, hcycle⟩
    · omega
    · exact (hvalues letters hletters).2 hcycle
  · intro text passes h
    exact passes_of_settle (Nat.le_refl _) (expand_eq_error_iff.mp h)

/-- A token that leads to another, which refers back to itself. -/
def loopTable : Table :=
  ⟨[("@A@", "to @B@"), ("@B@", "@B@ again")], by decide, by decide⟩

/-- The tokens of a chain through the table are the two that it has values for. -/
theorem mem_loopTable_chain {chain : List (List Char)}
    (hchain : IsChainOf loopTable "@A@".toList chain) :
    ∀ letters ∈ chain, letters = ['A'] ∨ letters = ['B'] := by
  have htemplate : pieces "@A@".toList = [.token ['A']] := by decide +kernel
  have hfirst : pieces "to @B@".toList =
      [.char 't', .char 'o', .char ' ', .token ['B']] := by decide +kernel
  have hagain : pieces "@B@ again".toList = .token ['B'] :: " again".toList.map .char := by
    decide +kernel
  -- By induction along the chain: each value leads to the one other token.
  refine hchain.linked.induction (fun letters => letters = ['A'] ∨ letters = ['B']) chain ?_ ?_
  · rintro a b ⟨value, hvalue, hb⟩ (rfl | rfl)
    · have hA : valueOf? loopTable ['A'] = some "to @B@" := by decide
      rw [hA] at hvalue
      cases hvalue
      rw [hfirst] at hb
      exact .inr (by simpa using hb)
    · have hB : valueOf? loopTable ['B'] = some "@B@ again" := by decide
      rw [hB] at hvalue
      cases hvalue
      rw [hagain] at hb
      exact .inr (by simpa using hb)
  · intro hne
    have hmem := hchain.start (chain.head hne) (List.head?_eq_some_head hne)
    rw [htemplate] at hmem
    exact .inl (by simpa using hmem)

/-- A template expands in no number of passes where a token behind its own refers back to itself. -/
theorem expand_loopTable :
    (∀ e ∈ loopTable.entries, WellDelimited e.2.toList) ∧ WellDelimited "@A@".toList ∧
      RegisteredBelow loopTable "@A@".toList ∧
      IsChainOf loopTable "@A@".toList [['A'], ['B']] ∧
      TransGen (Refers loopTable) ['B'] ['B'] ∧
      ∃ passes, expand loopTable "@A@" = .error (.expansionLimit "@A@" passes) := by
  have hvalues : ∀ e ∈ loopTable.entries, WellDelimited e.2.toList := by decide +kernel
  have htemplate : WellDelimited "@A@".toList := by decide +kernel
  -- The chain through the second token goes on for ever, so it is settled by what its tokens can
  -- be.
  have hall : RegisteredBelow loopTable "@A@".toList := by
    intro chain hchain letters hletters
    rcases mem_loopTable_chain hchain letters hletters with rfl | rfl
    · decide
    · decide
  have hAB : Refers loopTable ['A'] ['B'] := ⟨"to @B@", by decide, by decide +kernel⟩
  have hBB : Refers loopTable ['B'] ['B'] := ⟨"@B@ again", by decide, by decide +kernel⟩
  have hchain : IsChainOf loopTable "@A@".toList [['A'], ['B']] :=
    ⟨fun letters hletters => by cases hletters; decide +kernel, List.isChain_pair.mpr hAB⟩
  have hcycle := TransGen.single hBB
  exact ⟨hvalues, htemplate, hall, hchain, hcycle,
    (expand_follows_chains loopTable "@A@" hvalues htemplate).2.2.1 hall
      ⟨_, hchain, .inr ⟨['B'], by simp, hcycle⟩⟩⟩

end ModBuild.Proofs.Template
