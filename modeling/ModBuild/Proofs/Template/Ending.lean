import ModBuild.Proofs.Template.Segments

/-!
# `ModBuild.Proofs.Template.Ending`: how an expansion ends

An expansion makes passes while there are tokens, and ends in one of four ways: no token is left, a
token has no value, a pass writes too much, or all passes are used up. The theorems:

* `Passes.settle`: passes that go through are no more than a way to another text, with fewer passes
  left.
* `exists_passes`: how far passes get, by induction on the passes that are left.
* `expand_eq_iff`: the result of an expansion is the one that its ending says. What is to be known
  about a result is read off the constructor, and a result is found by naming one.
-/

set_option autoImplicit false

namespace ModBuild.Proofs.Template

open ModBuild ModBuild.Template

variable {table : Table} {template : String} {k left : Nat} {s t : List Char}

/-! ### Passes that go through -/

/-- A number of passes that go through, each over a text with tokens, take one text to another. -/
inductive Passes (table : Table) : Nat → List Char → List Char → Prop where
  | none {s : List Char} : Passes table 0 s s
  | more {k : Nat} {s next t : List Char} (htoken : hasToken s = true)
      (hpass : substitute table s = .ok next) (hrest : Passes table k next t) :
      Passes table (k + 1) s t

/-- Behind passes that go through, the others do what they do to the new text. -/
theorem Passes.settle (h : Passes table k s t) (template : String) (left : Nat) :
    settle table template (left + k) s = settle table template left t := by
  induction h with
  | none => rfl
  | @more k s next t htoken hpass _ ih =>
    rw [← ih, ← Nat.add_assoc]
    exact settle_succ_of_ok template (left + k) htoken hpass

/-- The last of some passes that go through. -/
theorem Passes.last (h : Passes table (k + 1) s t) :
    ∃ before, Passes table k s before ∧ substitute table before = .ok t := by
  induction k generalizing s with
  | zero =>
    cases h with
    | more htoken hpass hrest =>
      cases hrest
      exact ⟨s, .none, hpass⟩
  | succ k ih =>
    cases h with
    | more htoken hpass hrest =>
      obtain ⟨before, hbefore, hlast⟩ := ih hrest
      exact ⟨before, .more htoken hpass hbefore, hlast⟩

/-- Where passes get to: a text without tokens, one on which the next pass stops, or, with no pass
left, any other. -/
theorem exists_passes (table : Table) (left : Nat) (s : List Char) :
    ∃ k t, Passes table k s t ∧
      (k ≤ left ∧ hasToken t = false ∨ k = left ∧ hasToken t = true ∨
        k < left ∧ ∃ stop, substitute table t = .error stop) := by
  induction left generalizing s with
  | zero =>
    refine ⟨0, s, .none, ?_⟩
    cases htoken : hasToken s with
    | false => exact .inl ⟨Nat.le_refl 0, rfl⟩
    | true => exact .inr (.inl ⟨rfl, rfl⟩)
  | succ left ih =>
    cases htoken : hasToken s with
    | false => exact ⟨0, s, .none, .inl ⟨Nat.zero_le _, htoken⟩⟩
    | true =>
      cases hpass : substitute table s with
      | error stop => exact ⟨0, s, .none, .inr (.inr ⟨Nat.succ_pos left, stop, hpass⟩)⟩
      | ok next =>
        -- The passes from the next text on are one less, and get to the same end.
        obtain ⟨k, t, hpasses, hend⟩ := ih next
        refine ⟨k + 1, t, .more htoken hpass hpasses, ?_⟩
        rcases hend with ⟨hk, hfree⟩ | ⟨hk, htoken'⟩ | ⟨hk, hstop⟩
        · exact .inl ⟨Nat.succ_le_succ hk, hfree⟩
        · exact .inr (.inl ⟨congrArg (· + 1) hk, htoken'⟩)
        · exact .inr (.inr ⟨Nat.succ_lt_succ hk, hstop⟩)

/-! ### Endings -/

/-- How the expansion of a template ends, with the result that it gives there. -/
inductive Ends (table : Table) (template : String) : Except BuildError String → Prop where
  /-- No token is left. -/
  | settled {k : Nat} {s : String} (hk : k ≤ maxPasses)
      (hpasses : Passes table k template.toList s.toList) (hfree : hasToken s.toList = false) :
      Ends table template (.ok s)
  /-- A pass finds no value for a token. -/
  | unregistered {k : Nat} {t : List Char} {token : String} (hk : k < maxPasses)
      (hpasses : Passes table k template.toList t)
      (hstop : substitute table t = .error (.unregistered token)) :
      Ends table template (.error (unresolved table token))
  /-- A pass writes too much. It is counted in the error. -/
  | tooLong {k : Nat} {t : List Char} (hk : k < maxPasses)
      (hpasses : Passes table k template.toList t)
      (hstop : substitute table t = .error .tooLong) :
      Ends table template (.error (.expansionLimit template (k + 1)))
  /-- Tokens are left behind the last pass. -/
  | exhausted {t : List Char} (hpasses : Passes table maxPasses template.toList t)
      (htoken : hasToken t = true) :
      Ends table template (.error (.expansionLimit template maxPasses))

/-- An expansion ends in one of the four ways. -/
theorem ends_of_expand (table : Table) (template : String) :
    ∃ result, Ends table template result := by
  obtain ⟨k, t, hpasses, hend⟩ := exists_passes table maxPasses template.toList
  rcases hend with ⟨hk, hfree⟩ | ⟨rfl, htoken⟩ | ⟨hk, stop, hstop⟩
  · rw [← String.toList_ofList (l := t)] at hpasses hfree
    exact ⟨_, .settled hk hpasses hfree⟩
  · exact ⟨_, .exhausted hpasses htoken⟩
  · cases stop with
    | unregistered token => exact ⟨_, .unregistered hk hpasses hstop⟩
    | tooLong => exact ⟨_, .tooLong hk hpasses hstop⟩

/-- The passes that are left behind some that went through, and the one that comes next. -/
theorem settle_behind_passes (hk : k < maxPasses) (h : Passes table k template.toList t) :
    settle table template maxPasses template.toList =
      settle table template (maxPasses - (k + 1) + 1) t := by
  have hsplit : maxPasses - (k + 1) + 1 + k = maxPasses := by omega
  rw [← h.settle template (maxPasses - (k + 1) + 1), hsplit]

/-- An ending says the result. -/
theorem Ends.expand_eq {result : Except BuildError String} (h : Ends table template result) :
    expand table template = result := by
  cases h with
  | @settled k s hk hpasses hfree =>
    have hsplit : maxPasses - k + k = maxPasses := Nat.sub_add_cancel hk
    rw [expand_eq_ok_iff, ← hsplit, hpasses.settle]
    exact settle_of_hasToken_eq_false table template _ hfree
  | @unregistered k t token hk hpasses hstop =>
    rw [expand_eq_error_iff, settle_behind_passes hk hpasses]
    exact settle_succ_of_unregistered template _ (hasToken_of_substitute_error hstop) hstop
  | @tooLong k t hk hpasses hstop =>
    have hcount : maxPasses - (maxPasses - (k + 1)) = k + 1 := Nat.sub_sub_self hk
    rw [expand_eq_error_iff, settle_behind_passes hk hpasses,
      settle_succ_of_tooLong template _ (hasToken_of_substitute_error hstop) hstop, hcount]
  | exhausted hpasses htoken =>
    have hlast := hpasses.settle template 0
    rw [Nat.zero_add] at hlast
    rw [expand_eq_error_iff, hlast]
    exact settle_zero_of_hasToken table template htoken

/-- A template expands to a result exactly if it ends with that result. -/
theorem expand_eq_iff {result : Except BuildError String} :
    expand table template = result ↔ Ends table template result := by
  constructor
  · -- There is an ending, and it has the result of the expansion.
    rintro rfl
    obtain ⟨result, hend⟩ := ends_of_expand table template
    rwa [hend.expand_eq]
  · exact Ends.expand_eq

end ModBuild.Proofs.Template
