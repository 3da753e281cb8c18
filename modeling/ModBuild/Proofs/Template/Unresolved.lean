import ModBuild.Proofs.Template.Ending
import ModBuild.Proofs.Template.Similar
import ModBuild.Proofs.Template.Writes

/-!
# `ModBuild.Proofs.Template.Unresolved`: which token an error names

A token without a value may stand in the template, in a value at any depth, or come about where a
value and the text around it meet. In each case it is met by a pass, behind others that go through.
The theorems:

* `suggests_similarNames`: what is known of the names that are suggested for a token.
* `firstMissing_of_expand`: the token that is named is the leftmost one without a value, in the text
  that the passes before have made.
* `expand_names_first_missing`: the two together, and that no template with such a token expands.
-/

set_option autoImplicit false

namespace ModBuild.Proofs.Template

open ModBuild ModBuild.Template

variable {table : Table} {template token : String} {letters : List Char}

/-! ### Suggestions from a table -/

/-- A table contains its names. -/
theorem contains_of_mem_names {name : String} (h : name ∈ table.names) :
    table.contains name = true := by
  obtain ⟨e, he, rfl⟩ := List.mem_map.mp h
  rw [Table.contains, find?_eq_some_iff_mem.mpr he]
  rfl

/-- What may be suggested for a token: a few other names, each registered and listed once, the
closest first. -/
structure Suggests (table : Table) (token : String) (names : List String) : Prop where
  atMostThree : names.length ≤ 3
  distinct : names.Nodup
  registered : ∀ name ∈ names, table.contains name = true
  other : token ∉ names
  closestFirst : names.Pairwise fun a b =>
    leastEdits token.toList a.toList ≤ leastEdits token.toList b.toList

/-- Names that are close to one that is not registered can be suggested for it. -/
theorem suggests_similarNames (h : table.contains token = false) :
    Suggests table token (similarNames token table.names) := by
  have hregistered : ∀ name ∈ similarNames token table.names, table.contains name = true :=
    fun name hname => contains_of_mem_names (similarNames_subset token table.names hname)
  have hdistinct : table.names.Nodup := nodup_names_of_ascending table.ascending
  refine ⟨length_similarNames_le token table.names, nodup_similarNames token hdistinct,
    hregistered, fun hmem => ?_, pairwise_similarNames token table.names⟩
  have hcontains := hregistered token hmem
  rw [h] at hcontains
  cases hcontains

/-! ### The token -/

/-- An expansion that misses a name ends in the pass that misses it. -/
theorem firstMissing_of_expand {suggestions : List String}
    (h : expand table template = .error (.unresolvedToken token suggestions)) :
    (∃ k < maxPasses, ∃ s letters, Passes table k template.toList s ∧
      FirstMissing table (pieces s) letters ∧ token = String.ofList (tokenText letters)) ∧
    suggestions = similarNames token table.names := by
  generalize hresult : Except.error (BuildError.unresolvedToken token suggestions) = result at h
  cases expand_eq_iff.mp h with
  | settled => cases hresult
  | @unregistered k s token' hk hpasses hstop =>
    cases hresult
    obtain ⟨letters, hfirst, htoken⟩ := substitute_firstMissing hstop
    exact ⟨⟨k, hk, s, letters, hpasses, hfirst, htoken⟩, rfl⟩
  | tooLong => cases hresult
  | exhausted => cases hresult

/-- The value of a token is missing where its text is not registered. -/
theorem FirstMissing.contains_eq_false {ps : List Piece} (h : FirstMissing table ps letters) :
    table.contains (String.ofList (tokenText letters)) = false := by
  obtain ⟨-, -, -, -, hnone⟩ := h
  have hfind : table.find? (String.ofList (tokenText letters)) = none := hnone
  rw [Table.contains, hfind]
  rfl

/-! ### Result -/

/-- An expansion that misses a name has made up to 31 passes that went through, and names the
leftmost token without a value in the text that these have made. Names that are registered are
suggested for it, at most three, the closest first. A token of the template without a value is
always missed, or the length is exceeded before it: the template does not expand. -/
theorem expand_names_first_missing (table : Table) (template : String) :
    (∀ token suggestions, expand table template = .error (.unresolvedToken token suggestions) →
      (∃ k ≤ 31, ∃ s letters, Passes table k template.toList s ∧
        FirstMissing table (pieces s) letters ∧ token = String.ofList (tokenText letters)) ∧
      table.contains token = false ∧ Suggests table token suggestions) ∧
    ∀ letters, .token letters ∈ pieces template.toList → valueOf? table letters = none →
      ∀ s, expand table template ≠ .ok s := by
  refine ⟨fun token suggestions h => ?_, fun letters hmem hnone s hok => ?_⟩
  · obtain ⟨⟨k, hk, s, letters, hpasses, hfirst, rfl⟩, rfl⟩ := firstMissing_of_expand h
    have hmissing := hfirst.contains_eq_false
    exact ⟨⟨k, Nat.le_of_lt_succ hk, s, letters, hpasses, hfirst, rfl⟩, hmissing,
      suggests_similarNames hmissing⟩
  · obtain ⟨e, hfails⟩ := expand_of_unregistered hmem hnone
    rw [hok] at hfails
    cases hfails

/-- A token is made by a value and the text behind it, two levels below the template. -/
def deepToken : Table :=
  ⟨[("@AC@", "1"), ("@P@", "x@A"), ("@Q@", "@P@B@"), ("@VERSION@", "2")], by decide, by decide⟩

/-- Two passes go through before the token is missed. All names but the last are close to it, and
one of them is closer than the others. -/
theorem expand_deepToken :
    expand deepToken "@Q@" = .error (.unresolvedToken "@AB@" ["@AC@", "@P@", "@Q@"]) ∧
      (∃ k ≤ 31, ∃ s letters, Passes deepToken k "@Q@".toList s ∧
        FirstMissing deepToken (pieces s) letters ∧
        "@AB@" = String.ofList (tokenText letters)) ∧
      deepToken.contains "@AB@" = false ∧ Suggests deepToken "@AB@" ["@AC@", "@P@", "@Q@"] ∧
      ∀ s, expand deepToken "@VERSION@/@A@" ≠ .ok s := by
  have hpasses : Passes deepToken 2 "@Q@".toList "x@AB@".toList :=
    .more (by decide +kernel) (by decide +kernel : substitute deepToken _ = .ok "@P@B@".toList)
      (.more (by decide +kernel) (by decide +kernel) .none)
  have hstop : substitute deepToken "x@AB@".toList = .error (.unregistered "@AB@") := by
    decide +kernel
  have hclose : deepToken.names.filter (isClose "@AB@") = ["@AC@", "@P@", "@Q@"] := by
    decide +kernel
  have hsorted : ["@AC@", "@P@", "@Q@"].Pairwise (fun a b => isCloser "@AB@" a b = true) := by
    decide +kernel
  -- The close names are in order of their distance already, so sorting leaves them.
  have hsuggested : similarNames "@AB@" deepToken.names = ["@AC@", "@P@", "@Q@"] := by
    rw [similarNames_eq, hclose, List.mergeSort_of_pairwise hsorted]
    rfl
  have hfails : expand deepToken "@Q@" =
      .error (.unresolvedToken "@AB@" ["@AC@", "@P@", "@Q@"]) := by
    rw [← hsuggested]
    exact Ends.expand_eq (.unregistered (by decide) hpasses hstop)
  have hmem : .token ['A'] ∈ pieces "@VERSION@/@A@".toList := by decide +kernel
  obtain ⟨hfirst, hmissing, hsuggests⟩ :=
    (expand_names_first_missing deepToken "@Q@").1 _ _ hfails
  exact ⟨hfails, hfirst, hmissing, hsuggests,
    (expand_names_first_missing deepToken "@VERSION@/@A@").2 ['A'] hmem (by decide)⟩

end ModBuild.Proofs.Template
