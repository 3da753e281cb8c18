import ModBuild.Proofs.Template.Grammar

/-!
# `ModBuild.Proofs.Template.Joined`: two formats, one behind the other

A format ends where a directive ends, so a text behind it is read as if it stood alone. All that the
first text leaves to the second is the count of its conversions without a number: that many
arguments are taken. The theorems:

* `splits_append_iff`: behind a text of the grammar, what follows splits by itself.
* `filled_append_iff`: directives without numbers are filled behind others as they are filled alone
  with the arguments that are left.
* `format_append`: both of them for `format`.
-/

set_option autoImplicit false

namespace ModBuild.Proofs.Template

open ModBuild ModBuild.Template

/-! ### Reading -/

/-- Two texts one behind the other split into the directives of both. -/
theorem Splits.append {s t : List Char} {front behind : List Directive} (hs : Splits s front)
    (ht : Splits t behind) : Splits (s ++ t) (front ++ behind) := by
  induction hs with
  | nil => exact ht
  | @cons text rest d directives hd _ ih =>
    rw [List.append_assoc, List.cons_append]
    exact .cons hd ih

/-- The directives of the first text end where the text ends. None goes on into the second. -/
theorem splits_append_iff {s t : List Char} {front directives : List Directive}
    (hs : Splits s front) :
    Splits (s ++ t) directives ↔ ∃ behind, directives = front ++ behind ∧ Splits t behind := by
  constructor
  · intro h
    have hscan : scanOnto [] (s ++ t) = ⟨directives, none⟩ := scanFormat_eq_iff.mpr h
    -- The scan is through with the first text, and goes on at the start of the second.
    rw [scanOnto_splits_append hs, List.append_nil] at hscan
    simpa using splits_of_scanOnto hscan
  · rintro ⟨behind, rfl, ht⟩
    exact hs.append ht

/-! ### Filling -/

/-- No conversion has a number of its own. -/
def Unnumbered (directives : List Directive) : Prop :=
  ∀ number conversion, .convert (some number) conversion ∉ directives

/-- Among directives without numbers, those in front have none. -/
theorem Unnumbered.front {before after : List Directive} (h : Unnumbered (before ++ after)) :
    Unnumbered before :=
  fun number conversion hmem => h number conversion (List.mem_append_left after hmem)

/-- The conversions in front have taken their arguments away from those behind. -/
theorem argument?_append (args : List Argument) (front before : List Directive) :
    argument? args (front ++ before) none =
      argument? (args.drop (front.countP isCounting)) before none := by
  have hindex : argumentNumber (front ++ before) none - 1 =
      front.countP isCounting + (argumentNumber before none - 1) := by
    rw [argumentNumber, List.countP_append]
    rfl
  unfold argument?
  rw [List.getElem?_drop, hindex]

/-- Directives without numbers come to the same behind others as alone, with the arguments that the
others leave. -/
theorem filled_append_iff {args : List Argument} {front behind : List Directive}
    {written out : List Char} (hfront : Filled args front written) (h : Unnumbered behind) :
    Filled args (front ++ behind) out ↔
      ∃ rest, out = written ++ rest ∧
        Filled (args.drop (front.countP isCounting)) behind rest := by
  -- A conversion counts those in front of it, so directives come off at the end.
  induction behind using List.reverseRecOn generalizing out with
  | nil =>
    rw [List.append_nil]
    constructor
    · intro hout
      exact ⟨[], by rw [hout.unique hfront, List.append_nil], .nil⟩
    · rintro ⟨rest, rfl, hrest⟩
      rw [hrest.unique .nil, List.append_nil]
      exact hfront
  | append_singleton behind d ih =>
    rw [← List.append_assoc]
    cases d with
    | literal c =>
      simp only [Filled.literal_iff, ih h.front]
      constructor
      · rintro ⟨_, rfl, rest, rfl, hrest⟩
        exact ⟨rest ++ [c], List.append_assoc _ _ _, rest, rfl, hrest⟩
      · rintro ⟨_, rfl, rest, rfl, hrest⟩
        exact ⟨written ++ rest, (List.append_assoc _ _ _).symm, rest, rfl, hrest⟩
    | convert number conversion =>
      cases number with
      | some number => exact absurd (by simp) (h number conversion)
      | none =>
        simp only [Filled.convert_iff, ih h.front, argument?_append]
        constructor
        · rintro ⟨_, arg, text, rfl, ⟨rest, rfl, hrest⟩, harg, htext⟩
          exact ⟨rest ++ text.toList, List.append_assoc _ _ _, rest, arg, text, rfl, hrest, harg,
            htext⟩
        · rintro ⟨_, rfl, rest, arg, text, rfl, hrest, harg, htext⟩
          exact ⟨written ++ rest, arg, text, (List.append_assoc _ _ _).symm, ⟨rest, rfl, hrest⟩,
            harg, htext⟩

/-! ### Formats -/

/-- A format with another text behind it. The result is the two results joined, where the second
text has the arguments behind those that the conversions without a number in the first have taken,
and there is none where the second text has none by itself. Numbers in the first text take nothing
away. The second text has none, as it would not count its arguments from the same one then. -/
theorem format_append {front behind written : String} {args : List Argument}
    {directives : List Directive} {taken : Nat} (hfront : format front args = .ok written)
    (hsplits : Splits front.toList directives) (htaken : directives.countP isCounting = taken)
    (hbehind : ∀ others, Splits behind.toList others → Unnumbered others) (out : String) :
    format (front ++ behind) args = .ok out ↔
      ∃ rest, format behind (args.drop taken) = .ok rest ∧ out = written ++ rest := by
  subst htaken
  obtain ⟨found, hfound, hfilled⟩ := format_eq_ok_iff.mp hfront
  -- The front splits in one way, so the directives are those that are counted.
  obtain rfl : found = directives := hfound.unique hsplits
  simp only [format_eq_ok_iff, String.toList_append]
  constructor
  · rintro ⟨_, hall, hout⟩
    obtain ⟨others, rfl, hothers⟩ := (splits_append_iff hsplits).mp hall
    obtain ⟨rest, hrest, hfill⟩ := (filled_append_iff hfilled (hbehind _ hothers)).mp hout
    refine ⟨String.ofList rest, ⟨others, hothers, ?_⟩, ?_⟩
    · rw [String.toList_ofList]
      exact hfill
    · rw [← String.toList_inj, String.toList_append, String.toList_ofList]
      exact hrest
  · rintro ⟨rest, ⟨others, hothers, hfill⟩, rfl⟩
    refine ⟨found ++ others, hsplits.append hothers, ?_⟩
    rw [String.toList_append]
    exact (filled_append_iff hfilled (hbehind _ hothers)).mpr ⟨_, rfl, hfill⟩

/-- A number in front of a conversion that counts. The text behind them has the second argument, as
the first is the only one that was taken. -/
theorem format_append_behind_number :
    format "%2$s %s" [.text "a", .int 7] = .ok "7 a" ∧
    format "-%d%%" [.int 7] = .ok "-7%" ∧
    format ("%2$s %s" ++ "-%d%%") [.text "a", .int 7] = .ok "7 a-7%" := by
  have hfront : format "%2$s %s" [.text "a", .int 7] = .ok "7 a" := by decide +kernel
  have hbehind : format "-%d%%" [.int 7] = .ok "-7%" := by decide +kernel
  have hsplits : Splits "%2$s %s".toList
      [.convert (some 2) .text, .literal ' ', .convert none .text] :=
    scanFormat_eq_iff.mp (by decide +kernel)
  have hothers : Splits "-%d%%".toList [.literal '-', .convert none .decimal, .literal '%'] :=
    scanFormat_eq_iff.mp (by decide +kernel)
  have hunnumbered : ∀ others, Splits "-%d%%".toList others → Unnumbered others := by
    intro others h number conversion hmem
    rw [h.unique hothers] at hmem
    simp at hmem
  have hjoined := format_append hfront hsplits rfl hunnumbered "7 a-7%"
  exact ⟨hfront, hbehind, hjoined.mpr ⟨"-7%", hbehind, rfl⟩⟩

end ModBuild.Proofs.Template
