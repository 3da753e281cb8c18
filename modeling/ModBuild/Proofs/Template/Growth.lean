import Mathlib.Algebra.Group.Nat.Defs
import ModBuild.Proofs.Template.Ending
import ModBuild.Proofs.Template.Length

/-!
# `ModBuild.Proofs.Template.Growth`: a token that doubles

A value that holds its own token twice makes two of each such token in every pass. Their number
grows until a pass writes more than it may, long before all passes are used up. The theorems:

* `count_mul_le_flatMap`: a piece that occurs often writes often, in whatever measure.
* `count_passed`: a pass doubles the number of tokens.
* `count_of_substitute`: a pass that goes through has not found too many of them, since their values
  are within the limit, the last one included.
* `two_pow_mul_count_le`: what passes make of the number, by induction on the passes.
* `passes_le`: so not more than 18 go through.
* `doubling_stops_early`: the expansion fails, in the pass behind these at the latest.
-/

set_option autoImplicit false

namespace ModBuild.Proofs.Template

open ModBuild ModBuild.Template

/-- The value of the token holds the token at least twice. -/
def Doubles (table : Table) (letters : List Char) : Prop :=
  ∃ value, valueOf? table letters = some value ∧ 2 ≤ (pieces value.toList).count (.token letters)

variable {table : Table} {template : String} {letters s t : List Char} {k : Nat}

/-! ### Counting -/

/-- What pieces are written to is at least as large as what one of them is written to, as often as
it occurs. -/
theorem count_mul_le_flatMap {α : Type} (size : List α → Nat)
    (hsize : ∀ u v, size (u ++ v) = size u + size v) (f : Piece → List α) (p : Piece)
    (ps : List Piece) : ps.count p * size (f p) ≤ size (ps.flatMap f) := by
  induction ps with
  | nil => simp
  | cons q rest ih =>
    rw [List.flatMap_cons, hsize]
    by_cases hq : q = p
    · rw [hq, List.count_cons_self, Nat.succ_mul]
      omega
    · rw [List.count_cons_of_ne hq]
      omega

/-- A token has its two `@` and a letter. -/
theorem three_le_byteSize_tokenText (h : IsTokenLetters letters) :
    3 ≤ byteSize (tokenText letters) := by
  have hsplit : tokenText letters = ['@'] ++ letters ++ ['@'] := rfl
  have hat : byteSize ['@'] = 1 := by decide +kernel
  have hletters := one_le_byteSize h.1
  rw [hsplit, byteSize_append, byteSize_append, hat]
  omega

/-- A value with two tokens is two tokens long. -/
theorem six_le_byteSize {value : String}
    (htwice : 2 ≤ (pieces value.toList).count (.token letters)) : 6 ≤ byteSize value.toList := by
  have hmem : .token letters ∈ pieces value.toList := List.count_pos_iff.mp (by omega)
  have htoken := three_le_byteSize_tokenText (isTokenLetters_of_mem_pieces hmem)
  have hlength := count_mul_le_flatMap byteSize byteSize_append Piece.text (.token letters)
    (pieces value.toList)
  rw [flatMap_text_pieces] at hlength
  calc 6 = 2 * 3 := rfl
    _ ≤ (pieces value.toList).count (.token letters) * byteSize (tokenText letters) :=
        Nat.mul_le_mul htwice htoken
    _ ≤ byteSize value.toList := hlength

/-! ### One pass -/

/-- A pass makes two of each. -/
theorem count_passed (ht : DelimitedValues table) (hs : WellDelimited s)
    (h : Doubles table letters) :
    2 * (pieces s).count (.token letters) ≤ (pieces (passed table s)).count (.token letters) := by
  obtain ⟨value, hvalue, htwice⟩ := h
  have hcut := (wellDelimited_flatMap_valueText ht hs).2
  have hcount := count_mul_le_flatMap (List.count (.token letters)) (fun _ _ => List.count_append)
    (valuePieces table) (.token letters) (pieces s)
  rw [passed, hcut]
  rw [valuePieces, hvalue, Option.getD_some] at hcount
  calc 2 * (pieces s).count (.token letters)
      = (pieces s).count (.token letters) * 2 := Nat.mul_comm _ _
    _ ≤ (pieces s).count (.token letters) * (pieces value.toList).count (.token letters) :=
        Nat.mul_le_mul_left _ htwice
    _ ≤ _ := hcount

/-- A pass that goes through has kept the limit with the values of all of them. No value ends behind
that of the last token, so the length is looked at behind every one. -/
theorem count_of_substitute (h : Doubles table letters) (hpass : substitute table s = .ok t) :
    6 * (pieces s).count (.token letters) ≤ maxLength := by
  obtain ⟨value, hvalue, htwice⟩ := h
  have hlong := six_le_byteSize htwice
  cases htoken : hasToken s with
  | false =>
    have hfree : TokenFree s := tokenFree_iff_hasToken.mpr htoken
    have hnone : (pieces s).count (.token letters) = 0 := by
      rw [pieces_of_tokenFree hfree, List.count_eq_zero]
      simp
    rw [hnone]
    omega
  | true =>
    obtain ⟨before, last, behind, hlast⟩ := exists_lastToken htoken
    -- Only characters come behind the last check, so it has seen all of the tokens.
    have hchars : (behind.map Piece.char).count (.token letters) = 0 := by
      rw [List.count_eq_zero]
      simp
    have hcount := count_mul_le_flatMap byteSize byteSize_append (valueText table) (.token letters)
      (before ++ [.token last])
    rw [← writtenFront, valueText, hvalue, Option.getD_some] at hcount
    rw [hlast.split, List.count_append, hchars, Nat.add_zero]
    calc 6 * (before ++ [Piece.token last]).count (.token letters)
        = (before ++ [Piece.token last]).count (.token letters) * 6 := Nat.mul_comm _ _
      _ ≤ (before ++ [Piece.token last]).count (.token letters) * byteSize value.toList :=
          Nat.mul_le_mul_left _ hlong
      _ ≤ byteSize (writtenFront table before last) := hcount
      _ ≤ maxLength := (hlast.of_substitute hpass).2

/-! ### All passes -/

/-- Passes double the number of tokens as often as there are passes. -/
theorem two_pow_mul_count_le (ht : DelimitedValues table) (h : Doubles table letters)
    (hs : WellDelimited s) (hpasses : Passes table k s t) :
    2 ^ k * (pieces s).count (.token letters) ≤ (pieces t).count (.token letters) := by
  induction hpasses with
  | none => simp
  | @more k s next t htoken hpass _ ih =>
    obtain ⟨-, hnext⟩ := substitute_ok hpass
    have hpassed : next = passed table s := hnext
    have hdouble := count_passed ht hs h
    rw [← hpassed] at hdouble
    have hrest := ih (hpassed ▸ wellDelimited_passed ht hs)
    calc 2 ^ (k + 1) * (pieces s).count (.token letters)
        = 2 ^ k * (2 * (pieces s).count (.token letters)) := by rw [Nat.pow_succ, Nat.mul_assoc]
      _ ≤ 2 ^ k * (pieces next).count (.token letters) := Nat.mul_le_mul_left _ hdouble
      _ ≤ (pieces t).count (.token letters) := hrest

/-- A text with the token keeps it. -/
theorem two_pow_le_count (ht : DelimitedValues table) (h : Doubles table letters)
    (hs : WellDelimited s) (hmem : .token letters ∈ pieces s) (hpasses : Passes table k s t) :
    2 ^ k ≤ (pieces t).count (.token letters) := by
  have hgrown := two_pow_mul_count_le ht h hs hpasses
  have hfirst : 1 ≤ (pieces s).count (.token letters) := List.count_pos_iff.mpr hmem
  exact Nat.le_trans (Nat.le_mul_of_pos_right _ hfirst) hgrown

/-- The number of passes that go through is limited by the length alone. -/
theorem passes_le (ht : DelimitedValues table) (h : Doubles table letters) (hs : WellDelimited s)
    (hmem : .token letters ∈ pieces s) (hpasses : Passes table k s t) : k ≤ 18 := by
  cases k with
  | zero => exact Nat.zero_le _
  | succ k =>
    obtain ⟨before, hbefore, hlast⟩ := hpasses.last
    have hcount := two_pow_le_count ht h hs hmem hbefore
    have hlimit := count_of_substitute h hlast
    by_contra hmany
    -- There would be a quarter of a million values of six bytes.
    have hpow : 2 ^ 18 ≤ 2 ^ k := Nat.pow_le_pow_right (by decide) (by omega)
    rw [maxLength] at hlimit
    omega

/-- A text with the token has tokens behind any passes that go through. -/
theorem hasToken_of_passes (ht : DelimitedValues table) (h : Doubles table letters)
    (hs : WellDelimited s) (hmem : .token letters ∈ pieces s) (hpasses : Passes table k s t) :
    hasToken t = true := by
  have hcount := two_pow_le_count ht h hs hmem hpasses
  have hpos := Nat.two_pow_pos k
  have hleft : .token letters ∈ pieces t := List.count_pos_iff.mp (by omega)
  exact List.any_eq_true.mpr ⟨_, hleft, rfl⟩

/-! ### Result -/

/-- With well-delimited values, a well-delimited template does not expand if it holds a token whose
value holds the token at least twice. If it meets a limit, then in the nineteenth pass at the
latest, so the passes never run out. -/
theorem doubling_stops_early (table : Table) (template : String) (letters : List Char)
    (ht : ∀ e ∈ table.entries, WellDelimited e.2.toList) (hdoubles : Doubles table letters)
    (hs : WellDelimited template.toList) (hmem : .token letters ∈ pieces template.toList) :
    (∃ e, expand table template = .error e) ∧
      ∀ text passes, expand table template = .error (.expansionLimit text passes) →
        passes ≤ 19 := by
  constructor
  · obtain ⟨result, hend⟩ := ends_of_expand table template
    rw [hend.expand_eq]
    cases hend with
    -- The token has doubled with every pass, so it is still there.
    | settled hk hpasses hfree =>
      rw [hasToken_of_passes ht hdoubles hs hmem hpasses] at hfree
      cases hfree
    | unregistered => exact ⟨_, rfl⟩
    | tooLong => exact ⟨_, rfl⟩
    | exhausted => exact ⟨_, rfl⟩
  · intro text passes h
    generalize hresult : Except.error (BuildError.expansionLimit text passes) = result at h
    cases expand_eq_iff.mp h with
    | settled => cases hresult
    | unregistered => cases hresult
    | tooLong hk hpasses hstop =>
      cases hresult
      exact Nat.succ_le_succ (passes_le ht hdoubles hs hmem hpasses)
    -- The passes never run out: the text would have been too long before.
    | exhausted hpasses htoken =>
      have hle := passes_le ht hdoubles hs hmem hpasses
      exact absurd hle (by decide)

/-- A value that holds its own token at both ends, and another token between them. -/
def doublingTable : Table :=
  ⟨[("@A@", "@A@/@B@/@A@"), ("@B@", "b")], by decide, by decide⟩

/-- All tokens have values, so the limit is met, and not behind the nineteenth pass. -/
theorem doubling_stops_early_doublingTable :
    (∀ e ∈ doublingTable.entries, WellDelimited e.2.toList) ∧ Doubles doublingTable ['A'] ∧
      WellDelimited "see @A@".toList ∧ .token ['A'] ∈ pieces "see @A@".toList ∧
      ∃ passes ≤ 19,
        expand doublingTable "see @A@" = .error (.expansionLimit "see @A@" passes) := by
  have hvalues : ∀ e ∈ doublingTable.entries, WellDelimited e.2.toList := by decide +kernel
  have hdoubles : Doubles doublingTable ['A'] := ⟨"@A@/@B@/@A@", by decide, by decide +kernel⟩
  have htemplate : WellDelimited "see @A@".toList := by decide +kernel
  have hmem : .token ['A'] ∈ pieces "see @A@".toList := by decide +kernel
  have hclosed : ∀ e ∈ doublingTable.entries, Registered doublingTable e.2.toList := by
    decide +kernel
  have hall := registeredBelow_of_closed hclosed
    (by decide +kernel : Registered doublingTable "see @A@".toList)
  obtain ⟨⟨e, hfails⟩, hearly⟩ :=
    doubling_stops_early doublingTable "see @A@" ['A'] hvalues hdoubles htemplate hmem
  obtain ⟨passes, hlimit⟩ := limit_of_registeredBelow hvalues htemplate hall
    (fun s hok => by rw [hfails] at hok; cases hok)
  exact ⟨hvalues, hdoubles, htemplate, hmem, passes, hearly _ _ hlimit, hlimit⟩

end ModBuild.Proofs.Template
