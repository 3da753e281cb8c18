import ModBuild.Proofs.Template.Chains

/-!
# `ModBuild.Proofs.Template.Sides`: the two sides of a separator expand apart

A path such as `@CACHE_DIR@/version_manifest.json` is put together at slashes, and no token reaches
over one, also where values hold stray `@`. So a pass over the whole is a pass over each side, and
the sides expand on their own. What they share is the limit of length, since a pass counts what it
wrote on both. The theorems:

* `passed_append_separator` and `registered_append_separator`: one pass over the whole, by its
  sides.
* `settle_sides`: passes that settle on both sides settle on the whole, unless they overflow there.
  The side that is done earlier waits: passes do nothing to it.
* `expand_sides`: both directions for expansions.
-/

set_option autoImplicit false

namespace ModBuild.Proofs.Template

open ModBuild ModBuild.Template

variable {c : Char} {table : Table} {template : String} {left : Nat} {s t a b x y : List Char}

/-! ### One pass -/

/-- Tokens of the whole have values where the tokens of both sides have. -/
theorem registered_append_separator (hc : IsSeparator c) (ha : Registered table a)
    (hb : Registered table b) : Registered table (a ++ c :: b) := by
  intro letters hmem
  rw [pieces_append_separator hc, List.mem_append, List.mem_cons] at hmem
  rcases hmem with hfront | hsep | hbehind
  · exact ha letters hfront
  · cases hsep
  · exact hb letters hbehind

/-- A pass writes the whole side by side. -/
theorem passed_append_separator (hc : IsSeparator c) (table : Table) (a b : List Char) :
    passed table (a ++ c :: b) = passed table a ++ c :: passed table b := by
  rw [passed, pieces_append_separator hc, List.flatMap_append, List.flatMap_cons]
  rfl

/-- Passes that settle may begin with one, whether it has something to replace or not. -/
theorem exists_substitute_of_settle (h : settle table template (left + 1) s = .ok t) :
    Registered table s ∧ settle table template left (passed table s) = .ok t := by
  cases htoken : hasToken s with
  | true =>
    obtain ⟨next, hpass, hrest⟩ := substitute_of_settle h htoken
    obtain ⟨hall, rfl⟩ := substitute_ok hpass
    exact ⟨hall, hrest⟩
  | false =>
    have hfree : TokenFree s := tokenFree_iff_hasToken.mpr htoken
    obtain ⟨hall, hpassed⟩ := substitute_ok (substitute_tokenFree table hfree)
    have hsame : passed table s = s := hpassed.symm
    rw [settle_of_tokenFree table template (left + 1) hfree] at h
    rw [hsame, settle_of_tokenFree table template left hfree, h]
    exact ⟨hall, rfl⟩

/-! ### All passes -/

/-- Passes that settle on both sides of a separator settle on the whole, or one of them writes too
much there. There are always enough of them, as the whole takes no more than the longer side. -/
theorem settle_sides (hc : IsSeparator c) (ha : settle table template left a = .ok x)
    (hb : settle table template left b = .ok y) :
    settle table template left (a ++ c :: b) = .ok (x ++ c :: y) ∨
      Overflows table left (a ++ c :: b) ∧
        ∃ passes, settle table template left (a ++ c :: b) =
          .error (.expansionLimit template passes) := by
  induction left generalizing a b with
  | zero =>
    -- With no pass left neither side has a token.
    obtain ⟨hnoneA, rfl⟩ := settle_zero_eq_ok_iff.mp ha
    obtain ⟨hnoneB, rfl⟩ := settle_zero_eq_ok_iff.mp hb
    have hnone : hasToken (x ++ c :: y) = false := by
      rw [hasToken_append_separator hc, hnoneA, hnoneB, Bool.or_false]
    exact .inl (settle_of_hasToken_eq_false table template 0 hnone)
  | succ left ih =>
    cases htoken : hasToken (a ++ c :: b) with
    | false =>
      have hfree : TokenFree (a ++ c :: b) := tokenFree_iff_hasToken.mpr htoken
      obtain ⟨hfreeA, hfreeB⟩ := (tokenFree_append_separator_iff hc).mp hfree
      rw [eq_of_settle_of_tokenFree hfreeA ha, eq_of_settle_of_tokenFree hfreeB hb]
      exact .inl (settle_of_tokenFree _ _ _ hfree)
    | true =>
      -- A token is on one side at least, and the other side may be done.
      obtain ⟨hallA, hrestA⟩ := exists_substitute_of_settle ha
      obtain ⟨hallB, hrestB⟩ := exists_substitute_of_settle hb
      have hall := registered_append_separator hc hallA hallB
      by_cases hlong : TooLongIn table 0 (pieces (a ++ c :: b))
      · have hstop : substitute table (a ++ c :: b) = .error .tooLong :=
          substituteOnto_tooLong_iff.mpr hlong
        refine .inr ⟨overflows_succ_iff.mpr (.inl hlong), maxPasses - left, ?_⟩
        exact settle_succ_of_tooLong template left htoken hstop
      · have hpass := substitute_of_registered hall hlong
        rw [settle_succ_of_ok template left htoken hpass, overflows_succ_iff,
          passed_append_separator hc]
        rcases ih hrestA hrestB with hok | ⟨hlater, hlimit⟩
        · exact .inl hok
        · exact .inr ⟨.inr ⟨hall, hlater⟩, hlimit⟩

/-! ### Result -/

/-- A character that no token has, such as a slash, parts a template in two that expand on their
own, whatever the values are. Where the whole expands, so do both sides, and its expansion is theirs
side by side. Where both sides expand, so does the whole, unless a pass over the whole writes too
much. The error is then that of the limit. -/
theorem expand_sides (table : Table) (front behind : String) (c : Char) (hat : c ≠ '@')
    (hline : c ≠ '_') (hletter : ¬ ('A' ≤ c ∧ c ≤ 'Z')) :
    (∀ z, expand table (front ++ String.ofList [c] ++ behind) = .ok z →
      ∃ x y, expand table front = .ok x ∧ expand table behind = .ok y ∧
        z = x ++ String.ofList [c] ++ y) ∧
    ∀ x y, expand table front = .ok x → expand table behind = .ok y →
      expand table (front ++ String.ofList [c] ++ behind) = .ok (x ++ String.ofList [c] ++ y) ∨
        Overflows table maxPasses (front ++ String.ofList [c] ++ behind).toList ∧
          ∃ passes, expand table (front ++ String.ofList [c] ++ behind) =
            .error (.expansionLimit (front ++ String.ofList [c] ++ behind) passes) := by
  have hc : IsSeparator c := by
    refine ⟨hat, ?_⟩
    simp only [isNameLetter, Bool.or_eq_false_iff, decide_eq_false_iff_not]
    exact ⟨hline, by simpa using hletter⟩
  refine ⟨fun z h => expand_append_separator hc h, fun x y hx hy => ?_⟩
  -- The passes on the sides name other templates in errors, so the whole one is kept apart.
  generalize hwhole : front ++ String.ofList [c] ++ behind = whole
  have htext : whole.toList = front.toList ++ c :: behind.toList := by
    rw [← hwhole]
    simp [String.toList_append]
  have hsideX := (settle_eq_ok_iff _ _ whole _ _ _).mp (expand_eq_ok_iff.mp hx)
  have hsideY := (settle_eq_ok_iff _ _ whole _ _ _).mp (expand_eq_ok_iff.mp hy)
  rw [expand_eq_ok_iff, htext]
  rcases settle_sides hc hsideX hsideY with hok | ⟨hlong, passes, hlimit⟩
  · refine .inl ?_
    rw [hok]
    simp [String.toList_append]
  · refine .inr ⟨hlong, passes, ?_⟩
    rw [expand_eq_error_iff, htext]
    exact hlimit

/-- A folder with a stray `@` in its name, and a mark that is one. -/
def strayFolder : Table :=
  ⟨[("@DIR@", "me@WORK"), ("@MARK@", "@")], by decide, by decide⟩

/-- A slash keeps the two apart, which would make a token without it. -/
theorem expand_sides_strayFolder :
    expand strayFolder ("@DIR@" ++ String.ofList ['/'] ++ "@MARK@") = .ok "me@WORK/@" ∧
      expand strayFolder "@DIR@" = .ok "me@WORK" ∧ expand strayFolder "@MARK@" = .ok "@" ∧
      (∃ x y, expand strayFolder "@DIR@" = .ok x ∧ expand strayFolder "@MARK@" = .ok y ∧
        "me@WORK/@" = x ++ String.ofList ['/'] ++ y) ∧
      (expand strayFolder ("@DIR@" ++ String.ofList ['/'] ++ "@MARK@") =
          .ok ("me@WORK" ++ String.ofList ['/'] ++ "@") ∨
        Overflows strayFolder maxPasses ("@DIR@" ++ String.ofList ['/'] ++ "@MARK@").toList ∧
          ∃ passes, expand strayFolder ("@DIR@" ++ String.ofList ['/'] ++ "@MARK@") =
            .error (.expansionLimit ("@DIR@" ++ String.ofList ['/'] ++ "@MARK@") passes)) := by
  have hwhole : expand strayFolder ("@DIR@" ++ String.ofList ['/'] ++ "@MARK@") =
      .ok "me@WORK/@" := by decide +kernel
  have hfront : expand strayFolder "@DIR@" = .ok "me@WORK" := by decide +kernel
  have hbehind : expand strayFolder "@MARK@" = .ok "@" := by decide +kernel
  obtain ⟨hparts, hjoins⟩ :=
    expand_sides strayFolder "@DIR@" "@MARK@" '/' (by decide) (by decide) (by decide)
  exact ⟨hwhole, hfront, hbehind, hparts _ hwhole, hjoins _ _ hfront hbehind⟩

end ModBuild.Proofs.Template
