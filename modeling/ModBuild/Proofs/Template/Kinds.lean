import Mathlib.Data.List.Forall2
import ModBuild.Proofs.Template.Grammar

/-!
# `ModBuild.Proofs.Template.Kinds`: what a result depends on in its arguments

Arguments are copied to the result and never read again. Whether there is a result depends on the
kinds of the arguments alone, and the result on those that the format refers to. The theorems:

* `argumentsFit_of_sameKind`: where arguments fit, others of the same kinds fit.
* `filled_of_referred`: only the arguments that directives refer to make a difference.
* `render_outcome_of_kinds`: both of them for `render`.
-/

set_option autoImplicit false

namespace ModBuild.Proofs.Template

open ModBuild ModBuild.Template

/-! ### Arguments of the same kinds -/

/-- Both arguments are texts, both are numbers, or both are truth values. -/
inductive SameKind : Argument → Argument → Prop where
  | text (a b : String) : SameKind (.text a) (.text b)
  | int (a b : Int64) : SameKind (.int a) (.int b)
  | bool (a b : Bool) : SameKind (.bool a) (.bool b)

/-- If one argument is of the kind of another, then so the other way round. -/
theorem SameKind.symm {a b : Argument} (h : SameKind a b) : SameKind b a := by
  cases h with
  | text a b => exact .text b a
  | int a b => exact .int b a
  | bool a b => exact .bool b a

/-- A number is a number in both. -/
theorem SameKind.exists_int {a b : Argument} (h : SameKind a b) (ha : ∃ value, a = .int value) :
    ∃ value, b = .int value := by
  obtain ⟨value, rfl⟩ := ha
  cases h with
  | int _ other => exact ⟨other, rfl⟩

section

variable {as bs : List Argument} {directives : List Directive}

/-- The arguments are as many, and of the same kind position by position. -/
def SameKinds (as bs : List Argument) : Prop :=
  List.Forall₂ SameKind as bs

/-- If arguments are of the kinds of others, then so the other way round. -/
theorem SameKinds.symm (h : SameKinds as bs) : SameKinds bs as :=
  List.Forall₂.flip (List.Forall₂.imp (fun _ _ => SameKind.symm) h)

/-- To an argument at a position there is one of its kind at this position among the others. -/
theorem SameKinds.exists_getElem? (h : SameKinds as bs) {i : Nat} {a : Argument}
    (ha : as[i]? = some a) : ∃ b, bs[i]? = some b ∧ SameKind a b := by
  induction h generalizing i with
  | nil => simp at ha
  | @cons a' b' as bs hab _ ih =>
    cases i with
    | zero =>
      obtain rfl : a' = a := by simpa using ha
      exact ⟨b', rfl, hab⟩
    | succ i =>
      obtain ⟨b, hb, hkind⟩ := ih (i := i) (by simpa using ha)
      exact ⟨b, by simpa using hb, hkind⟩

/-- Conversions ask for an argument, and for a number where they write one. That is a matter of
kinds. -/
theorem argumentsFit_of_sameKind (h : SameKinds as bs) (hfit : ArgumentsFit as directives) :
    ArgumentsFit bs directives := by
  intro before number conversion after heq
  obtain ⟨a, ha, hnumber⟩ := hfit before number conversion after heq
  obtain ⟨b, hb, hkind⟩ := h.exists_getElem? ha
  exact ⟨b, hb, fun hconversion => hkind.exists_int (hnumber hconversion)⟩

/-! ### Arguments that directives refer to -/

/-- A conversion among the directives takes the argument at this position, counted from 0. -/
def RefersTo (directives : List Directive) (i : Nat) : Prop :=
  ∃ before number conversion after, directives = before ++ .convert number conversion :: after ∧
    argumentNumber before number - 1 = i

/-- What directives refer to they do with more of them behind. -/
theorem RefersTo.append {i : Nat} (h : RefersTo directives i) (more : List Directive) :
    RefersTo (directives ++ more) i := by
  obtain ⟨before, number, conversion, after, rfl, hi⟩ := h
  exact ⟨before, number, conversion, after ++ more, by simp, hi⟩

/-- Directives come to the same with other arguments, if those that they refer to are the same. -/
theorem filled_of_referred {out : List Char} (h : Filled as directives out)
    (hsame : ∀ i a, RefersTo directives i → as[i]? = some a → bs[i]? = some a) :
    Filled bs directives out := by
  induction h with
  | nil => exact .nil
  | literal c _ ih => exact .literal c (ih fun i a hi => hsame i a (hi.append _))
  | @convert before out number conversion arg text _ harg htext ih =>
    have hrefers : RefersTo (before ++ [.convert number conversion])
        (argumentNumber before number - 1) := ⟨before, number, conversion, [], rfl, rfl⟩
    exact .convert (ih fun i a hi => hsame i a (hi.append _)) (hsame _ arg hrefers harg) htext

/-! ### Formats -/

/-- The errors are the same, but for the reason why a format cannot be used, which may show an
argument. -/
inductive SameVariant : BuildError → BuildError → Prop where
  | same (e : BuildError) : SameVariant e e
  | invalidFormat (template reason reason' : String) :
    SameVariant (.invalidFormat template reason) (.invalidFormat template reason')

/-- A format has a result with both arguments, or with none of them. -/
theorem exists_format_of_sameKind (template : String) (h : SameKinds as bs)
    (has : ∃ out, format template as = .ok out) : ∃ out, format template bs = .ok out := by
  obtain ⟨out, hout⟩ := has
  obtain ⟨directives, hsplits, hfilled⟩ := format_eq_ok_iff.mp hout
  -- The format splits as it did, whatever the arguments are.
  have hfit : ArgumentsFit as directives := exists_filled_iff.mp ⟨_, hfilled⟩
  obtain ⟨out', hfilled'⟩ := exists_filled_iff.mpr (argumentsFit_of_sameKind h hfit)
  refine ⟨String.ofList out', format_eq_ok_iff.mpr ⟨directives, hsplits, ?_⟩⟩
  rw [String.toList_ofList]
  exact hfilled'

/-- The result of a format stays the result with other arguments, if those that its conversions
refer to are the same. -/
theorem format_of_referred {template out : String} (h : format template as = .ok out)
    (hsame : ∀ directives, Splits template.toList directives →
      ∀ i a, RefersTo directives i → as[i]? = some a → bs[i]? = some a) :
    format template bs = .ok out := by
  obtain ⟨directives, hsplits, hfilled⟩ := format_eq_ok_iff.mp h
  exact format_eq_ok_iff.mpr ⟨directives, hsplits,
    filled_of_referred hfilled (hsame directives hsplits)⟩

end

/-! ### Templates -/

section

variable {table : Table} {template out : String} {as bs args : List Argument} {e e' : BuildError}

/-- What a template renders to is what its expansion formats to. The arguments come in only then. -/
theorem render_eq_ok_iff :
    render table template args = .ok out ↔
      ∃ expanded, expand table template = .ok expanded ∧ format expanded args = .ok out := by
  unfold render
  cases expand table template with
  | ok expanded => simp
  | error e => simp

/-- A template that does not render does not expand, or expands to a text that is no format for the
arguments. -/
theorem render_error_cases (h : render table template args = .error e) :
    expand table template = .error e ∨
      ∃ expanded reason, expand table template = .ok expanded ∧
        e = .invalidFormat expanded reason := by
  unfold render at h
  cases hexpand : expand table template with
  | error stop =>
    rw [hexpand] at h
    cases h
    exact .inl rfl
  | ok expanded =>
    rw [hexpand] at h
    have hformat : format expanded args = .error e := h
    rcases format_cases expanded args with ⟨out, hout⟩ | ⟨reason, hreason⟩
    · rw [hformat] at hout
      cases hout
    · rw [hformat] at hreason
      cases hreason
      exact .inr ⟨expanded, reason, rfl, rfl⟩

/-- Arguments of the same kinds are rendered as well. -/
theorem exists_render_of_sameKind (h : SameKinds as bs)
    (has : ∃ out, render table template as = .ok out) :
    ∃ out, render table template bs = .ok out := by
  obtain ⟨out, hout⟩ := has
  obtain ⟨expanded, hexpand, hformat⟩ := render_eq_ok_iff.mp hout
  obtain ⟨out', hformat'⟩ := exists_format_of_sameKind expanded h ⟨out, hformat⟩
  exact ⟨out', render_eq_ok_iff.mpr ⟨expanded, hexpand, hformat'⟩⟩

/-- A template is rendered to the same text if the arguments that it refers to stay. -/
theorem render_of_referred (h : render table template as = .ok out)
    (hsame : ∀ expanded directives, expand table template = .ok expanded →
      Splits expanded.toList directives →
        ∀ i a, RefersTo directives i → as[i]? = some a → bs[i]? = some a) :
    render table template bs = .ok out := by
  obtain ⟨expanded, hexpand, hformat⟩ := render_eq_ok_iff.mp h
  refine render_eq_ok_iff.mpr ⟨expanded, hexpand, format_of_referred hformat ?_⟩
  exact fun directives hsplits => hsame expanded directives hexpand hsplits

/-- Whatever the arguments are, the errors differ in the reason why a format cannot be used at
most. -/
theorem sameVariant_of_render (h : render table template as = .error e)
    (h' : render table template bs = .error e') : SameVariant e e' := by
  -- The template expands in both cases or in none, so the errors come from the same place.
  rcases render_error_cases h with hexpand | ⟨expanded, reason, hexpand, rfl⟩
  · rcases render_error_cases h' with hexpand' | ⟨expanded', reason', hexpand', -⟩
    · rw [hexpand] at hexpand'
      cases hexpand'
      exact .same e
    · rw [hexpand] at hexpand'
      cases hexpand'
  · rcases render_error_cases h' with hexpand' | ⟨expanded', reason', hexpand', rfl⟩
    · rw [hexpand] at hexpand'
      cases hexpand'
    · rw [hexpand] at hexpand'
      cases hexpand'
      exact .invalidFormat expanded reason reason'

end

/-- Two lists of arguments that are of the same kinds, position by position, make no difference to
whether there is a result, nor to the kind of the error if there is none. The result is the same if
they agree at the positions that the expanded template refers to, and it stays the same with further
arguments behind. So nothing in an argument is taken for a token or a directive. -/
theorem render_outcome_of_kinds (table : Table) (template : String) {as bs : List Argument}
    (h : SameKinds as bs) :
    ((∃ out, render table template as = .ok out) ↔ ∃ out, render table template bs = .ok out) ∧
    (∀ e e', render table template as = .error e → render table template bs = .error e' →
      SameVariant e e') ∧
    ((∀ expanded directives, expand table template = .ok expanded →
        Splits expanded.toList directives → ∀ i, RefersTo directives i → as[i]? = bs[i]?) →
      ∀ out, render table template as = .ok out ↔ render table template bs = .ok out) ∧
    ∀ more out, render table template as = .ok out →
      render table template (as ++ more) = .ok out := by
  refine ⟨⟨exists_render_of_sameKind h, exists_render_of_sameKind h.symm⟩,
    fun e e' => sameVariant_of_render, fun hagree out => ⟨fun hout => ?_, fun hout => ?_⟩,
    fun more out hout => ?_⟩
  · -- What decides is what the directives refer to, and there the arguments agree.
    refine render_of_referred hout fun expanded directives hexpand hsplits i a hi ha => ?_
    rw [← hagree expanded directives hexpand hsplits i hi, ha]
  · refine render_of_referred hout fun expanded directives hexpand hsplits i b hi hb => ?_
    rw [hagree expanded directives hexpand hsplits i hi, hb]
  · refine render_of_referred hout fun expanded directives _ _ i a _ ha => ?_
    obtain ⟨hlt, -⟩ := List.getElem?_eq_some_iff.mp ha
    rw [List.getElem?_append_left hlt, ha]

/-- A value that refers to two arguments. -/
def countedTable : Table :=
  Table.empty.put "@OUT@" "%2$d/%s" (by decide +kernel)

/-- The template has a conversion with a number and one without. -/
theorem splits_countedTable : Splits "%2$d/%s".toList
    [.convert (some 2) .decimal, .literal '/', .convert none .text] :=
  scanFormat_eq_iff.mp (by decide +kernel)

/-- An argument that nothing refers to makes no difference, and one that looks like a token and a
directive is a text like any other. -/
theorem render_outcome_countedTable :
    render countedTable "@OUT@" [.text "main", .int 7, .text "@OUT@%d"] = .ok "7/main" ∧
    render countedTable "@OUT@" [.text "main", .int 7, .text "x", .bool true] = .ok "7/main" ∧
    ∃ out, render countedTable "@OUT@" [.text "@OUT@%d", .int 7, .text ""] = .ok out := by
  have hexpand : expand countedTable "@OUT@" = .ok "%2$d/%s" := by decide +kernel
  have hrender : render countedTable "@OUT@" [.text "main", .int 7, .text "x"] = .ok "7/main" := by
    decide +kernel
  have hkinds (a b : String) : SameKinds [.text "main", .int 7, .text "x"]
      [.text a, .int 7, .text b] :=
    .cons (.text _ _) (.cons (.int _ _) (.cons (.text _ _) .nil))
  obtain ⟨-, -, hsame, hmore⟩ :=
    render_outcome_of_kinds countedTable "@OUT@" (hkinds "main" "@OUT@%d")
  obtain ⟨hexists, -, -, -⟩ := render_outcome_of_kinds countedTable "@OUT@" (hkinds "@OUT@%d" "")
  refine ⟨(hsame ?_ _).mp hrender, hmore [.bool true] _ hrender, hexists.mp ⟨_, hrender⟩⟩
  intro expanded directives hexpand' hsplits i hi
  rw [hexpand] at hexpand'
  cases hexpand'
  rw [hsplits.unique splits_countedTable] at hi
  -- The only conversions are the first and the last directive.
  obtain ⟨before, number, conversion, after, heq, rfl⟩ := hi
  rcases before with _ | ⟨_, _ | ⟨_, _ | ⟨_, rest⟩⟩⟩ <;> simp at heq
  · obtain ⟨⟨rfl, rfl⟩, rfl⟩ := heq
    rfl
  · obtain ⟨rfl, rfl, ⟨rfl, rfl⟩, rfl⟩ := heq
    rfl

end ModBuild.Proofs.Template
