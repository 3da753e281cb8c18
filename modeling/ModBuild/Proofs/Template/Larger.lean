import ModBuild.Proofs.Template.Ending
import ModBuild.Proofs.Template.Writes

/-!
# `ModBuild.Proofs.Template.Larger`: more names do not change a result

An expansion looks up the tokens that it meets, and stops at the first one without a value. One that
ends in another way has found them all, so it goes the same way with a table that has more names.
The theorems:

* `substituteOnto_of_subset`: one pass that does not stop at a name is the same with more names,
  also where it stops at the length in the middle of a text.
* `Passes.of_subset`: the passes before it.
* `subset_of_new_names`: to register new names makes a table larger.
* `expand_of_subset`: whole expansions, by the four ways in which they end.
-/

set_option autoImplicit false

namespace ModBuild.Proofs.Template

open ModBuild ModBuild.Template

variable {table larger : Table} {template : String} {k : Nat} {s t : List Char}

/-! ### Tables with more entries -/

/-- A value that is found is found in a larger table. -/
theorem find?_of_subset (h : table.entries ⊆ larger.entries) {name value : String}
    (hfind : table.find? name = some value) : larger.find? name = some value :=
  find?_eq_some_iff_mem.mpr (h (find?_eq_some_iff_mem.mp hfind))

/-- Values under names that were not registered come on top of those that were. -/
theorem subset_of_new_names {write : Write}
    (hnew : ∀ e ∈ write.pairs, table.contains e.1 = false)
    (h : write.apply table = .ok larger) : table.entries ⊆ larger.entries := by
  rintro ⟨name, value⟩ hmem
  have hfind : table.find? name = some value := find?_eq_some_iff_mem.mpr hmem
  -- The name is none of those that are written.
  have hother : write.pairs.reverse.lookup name = none := by
    rw [List.lookup_eq_none_iff]
    rintro e he
    have hfree := hnew e (List.mem_reverse.mp he)
    refine bne_iff_ne.mpr ?_
    rintro rfl
    simp [Table.contains, hfind] at hfree
  have hnamed : write.WellNamed := by
    by_contra hbad
    obtain ⟨bad, -, hfail⟩ := apply_of_not_wellNamed hbad table
    rw [h] at hfail
    cases hfail
  obtain ⟨table', hok, hafter⟩ := apply_of_wellNamed hnamed table
  rw [h] at hok
  cases hok
  have hlarger : larger.find? name = some value := by
    rw [hafter, hother, Option.none_or, hfind]
  exact find?_eq_some_iff_mem.mp hlarger

/-! ### Passes with more entries -/

/-- A pass that does not stop at a name has found every token up to its end, so it ends there with
more names, too. -/
theorem substituteOnto_of_subset (h : table.entries ⊆ larger.entries) {ps : List Piece}
    {written : List Char} {size : Nat}
    (hfound : ∀ token, substituteOnto table written size ps ≠ .error (.unregistered token)) :
    substituteOnto larger written size ps = substituteOnto table written size ps := by
  induction ps generalizing written size with
  | nil => rfl
  | cons p rest ih =>
    cases p with
    | char c => exact ih hfound
    | token letters =>
      cases hvalue : table.find? (String.ofList (tokenText letters)) with
      | none =>
        refine absurd ?_ (hfound (String.ofList (tokenText letters)))
        simp only [substituteOnto, hvalue]
      | some value =>
        -- Both tables give the same value here, so the lengths behind it are the same as well.
        simp only [substituteOnto, hvalue, find?_of_subset h hvalue] at hfound ⊢
        by_cases hlong : size + value.utf8ByteSize > maxLength
        · simp only [if_pos hlong]
        · simp only [if_neg hlong] at hfound ⊢
          exact ih hfound

/-- A pass that succeeds does so with more names in the table. -/
theorem substitute_ok_of_subset (h : table.entries ⊆ larger.entries)
    (hpass : substitute table s = .ok t) : substitute larger s = .ok t := by
  rw [← hpass]
  refine substituteOnto_of_subset h fun token hstop => ?_
  rw [substitute, hstop] at hpass
  cases hpass

/-- A pass that gets too long does so with more names in the table. -/
theorem substitute_tooLong_of_subset (h : table.entries ⊆ larger.entries)
    (hstop : substitute table s = .error .tooLong) : substitute larger s = .error .tooLong := by
  rw [← hstop]
  refine substituteOnto_of_subset h fun token hother => ?_
  rw [substitute, hother] at hstop
  cases hstop

/-- Passes that go through go through with more names, to the same text. -/
theorem Passes.of_subset (h : table.entries ⊆ larger.entries) (hpasses : Passes table k s t) :
    Passes larger k s t := by
  induction hpasses with
  | none => exact .none
  | more htoken hpass _ ih => exact .more htoken (substitute_ok_of_subset h hpass) ih

/-! ### Results -/

/-- An expansion that does not stop at a name ends in the same way in a larger table. -/
theorem expand_of_subset (h : table.entries ⊆ larger.entries)
    (hfound : ∀ token suggestions,
      expand table template ≠ .error (.unresolvedToken token suggestions)) :
    expand larger template = expand table template := by
  obtain ⟨result, hend⟩ := ends_of_expand table template
  rw [hend.expand_eq] at hfound ⊢
  refine Ends.expand_eq ?_
  cases hend with
  | settled hk hpasses hfree => exact .settled hk (hpasses.of_subset h) hfree
  | unregistered hk hpasses hstop => exact absurd rfl (hfound _ _)
  | tooLong hk hpasses hstop =>
    exact .tooLong hk (hpasses.of_subset h) (substitute_tooLong_of_subset h hstop)
  | exhausted hpasses htoken => exact .exhausted (hpasses.of_subset h) htoken

/-- An expansion that did not miss a name gives a text or meets a limit. It gives the same text, or
meets the same limit in the same pass, with every table that holds all entries of the first and any
others. So nothing changes about it when values are registered under new names. -/
theorem expand_with_more_names (table : Table) (template : String)
    (h : ∀ token suggestions,
      expand table template ≠ .error (.unresolvedToken token suggestions)) :
    ((∃ s, expand table template = .ok s) ∨
      ∃ passes, expand table template = .error (.expansionLimit template passes)) ∧
    (∀ larger : Table, table.entries ⊆ larger.entries →
      expand larger template = expand table template) ∧
    ∀ (write : Write) (larger : Table), (∀ e ∈ write.pairs, table.contains e.1 = false) →
      write.apply table = .ok larger → expand larger template = expand table template := by
  refine ⟨?_, fun larger hsubset => expand_of_subset hsubset h, fun write larger hnew hok => ?_⟩
  · obtain ⟨result, hend⟩ := ends_of_expand table template
    rw [hend.expand_eq] at h ⊢
    cases hend with
    | settled => exact .inl ⟨_, rfl⟩
    | unregistered => exact absurd rfl (h _ _)
    | tooLong => exact .inr ⟨_, rfl⟩
    | exhausted => exact .inr ⟨_, rfl⟩
  · exact expand_of_subset (subset_of_new_names hnew hok) h

/-- A value that makes a token with the letters behind it, and one that refers back to itself. -/
def madeToken : Table :=
  ⟨[("@AB@", "done"), ("@LOOP@", "@LOOP@@P@B@"), ("@P@", "x@A")], by decide, by decide⟩

/-- A name that is spelled across two tokens is not looked up when it is registered, neither where
the expansion comes to an end nor where it runs into the limit of passes. -/
theorem expand_with_more_names_madeToken :
    ∃ larger, (Write.one "@B@" "other").apply madeToken = .ok larger ∧
      expand larger "@P@B@" = .ok "xdone" ∧
      expand larger "@LOOP@" = .error (.expansionLimit "@LOOP@" maxPasses) := by
  have hsettles : expand madeToken "@P@B@" = .ok "xdone" := by decide +kernel
  have hloops : expand madeToken "@LOOP@" = .error (.expansionLimit "@LOOP@" maxPasses) := by
    decide +kernel
  have hnew : ∀ e ∈ (Write.one "@B@" "other").pairs, madeToken.contains e.1 = false := by decide
  obtain ⟨larger, hwrite, -⟩ :=
    apply_of_wellNamed (by decide +kernel : (Write.one "@B@" "other").WellNamed) madeToken
  refine ⟨larger, hwrite, ?_, ?_⟩
  · rw [← hsettles]
    exact (expand_with_more_names madeToken "@P@B@" (by simp [hsettles])).2.2 _ _ hnew hwrite
  · rw [← hloops]
    exact (expand_with_more_names madeToken "@LOOP@" (by simp [hloops])).2.2 _ _ hnew hwrite

end ModBuild.Proofs.Template
