import ModBuild.Proofs.Files.Path
import ModBuild.Proofs.Text.Signed
import ModBuild.Version.Features

/-!
# `ModBuild.Proofs.Version.Features`: the minor number decides

What a version brings depends on the text between its first dot and the next one. This text has to
spell a number of 32 bits, where a plus sign and zeros in front do no harm. The theorems:

* `IsMinorPart.minorPart?_eq` and `minorPart?_of_not_mem`: which text of a version that is.
* `ofVersion_eq_ok_iff` and `ofVersion_eq_error_iff`: when there is an answer, and which.
* `ofVersion_by_minor`: hence the answer depends on nothing else of the version, and a greater
  number never brings less.
-/

set_option autoImplicit false

namespace ModBuild.Proofs.Version

open ModBuild ModBuild.VersionFeatures ModBuild.Proofs.Files ModBuild.Proofs.Text

variable {s part : List Char} {version : String}

/-! ### The minor part -/

/-- The part stands between the first dot of a text and the next dot, or the end. -/
inductive IsMinorPart (part : List Char) : List Char → Prop where
  | last (front : List Char) (hfront : '.' ∉ front) (hpart : '.' ∉ part) :
      IsMinorPart part (front ++ '.' :: part)
  | inner (front behind : List Char) (hfront : '.' ∉ front) (hpart : '.' ∉ part) :
      IsMinorPart part (front ++ '.' :: (part ++ '.' :: behind))

/-- A text with a dot has such a part. -/
theorem exists_isMinorPart (h : '.' ∈ s) : ∃ part, IsMinorPart part s := by
  obtain ⟨front, rest, rfl, hfront⟩ := List.eq_append_cons_of_mem h
  by_cases hrest : '.' ∈ rest
  · obtain ⟨part, behind, rfl, hpart⟩ := List.eq_append_cons_of_mem hrest
    exact ⟨part, .inner front behind hfront hpart⟩
  · exact ⟨rest, .last front hfront hrest⟩

/-- Without a dot, a text is one part. -/
theorem cutAt_dot_of_not_mem (h : '.' ∉ s) : Text.cutAt (· = '.') s = [s] := by
  refine cutAt_of_uncut fun c hc => ?_
  have hne : c ≠ '.' := ne_of_mem_of_not_mem hc h
  simpa using hne

/-- Without a dot, there is no second part. -/
theorem minorPart?_of_not_mem (h : '.' ∉ s) : minorPart? s = none := by
  rw [minorPart?, cutAt_dot_of_not_mem h]
  rfl

/-- The part is the second of the pieces between dots. -/
theorem IsMinorPart.minorPart?_eq (h : IsMinorPart part s) : minorPart? s = some part := by
  have hdot : decide ('.' = '.') = true := rfl
  cases h with
  | last front hfront hpart =>
    rw [minorPart?, @cutAt_append (· = '.') '.' hdot, cutAt_dot_of_not_mem hfront,
      cutAt_dot_of_not_mem hpart]
    rfl
  | inner front behind hfront hpart =>
    rw [minorPart?, @cutAt_append (· = '.') '.' hdot, @cutAt_append (· = '.') '.' hdot,
      cutAt_dot_of_not_mem hfront, cutAt_dot_of_not_mem hpart]
    rfl

/-! ### Features -/

/-- A version without a dot has none of the features. -/
theorem ofVersion_of_not_mem (h : '.' ∉ version.toList) :
    ofVersion version = .ok ⟨false, false⟩ := by
  unfold ofVersion
  rw [minorPart?_of_not_mem h]

/-- A second part that is a number decides both features. -/
theorem ofVersion_of_unsigned {n : Nat} (hpart : IsMinorPart part version.toList)
    (hn : Unsigned part n) (hlt : n < Nat.pow 2 32) :
    ofVersion version = .ok ⟨decide (11 < n), decide (12 < n)⟩ := by
  have hread : Text.signedNatural? (Nat.pow 2 32) part = some n :=
    (signedNatural?_eq_some_iff (by decide)).mpr ⟨hn, hlt⟩
  simp only [ofVersion, hpart.minorPart?_eq, hread]
  rfl

/-- A version is invalid if its second part is no number. -/
theorem ofVersion_of_not_unsigned (hpart : IsMinorPart part version.toList)
    (h : ¬ ∃ n, Unsigned part n ∧ n < Nat.pow 2 32) :
    ofVersion version = .error (.invalidVersion version) := by
  have hread : Text.signedNatural? (Nat.pow 2 32) part = none := by
    rw [Option.eq_none_iff_forall_ne_some]
    intro n hn
    exact h ⟨n, (signedNatural?_eq_some_iff (by decide)).mp hn⟩
  simp only [ofVersion, hpart.minorPart?_eq, hread]

/-- There is an answer exactly if the minor part spells a number of 32 bits. -/
theorem ofVersion_eq_ok_iff (hpart : IsMinorPart part version.toList)
    {features : VersionFeatures} :
    ofVersion version = .ok features ↔
      ∃ n, Unsigned part n ∧ n < Nat.pow 2 32 ∧ features = ⟨decide (11 < n), decide (12 < n)⟩ := by
  constructor
  · intro h
    by_cases hspelled : ∃ n, Unsigned part n ∧ n < Nat.pow 2 32
    · obtain ⟨n, hn, hlt⟩ := hspelled
      rw [ofVersion_of_unsigned hpart hn hlt] at h
      cases h
      exact ⟨n, hn, hlt, rfl⟩
    · rw [ofVersion_of_not_unsigned hpart hspelled] at h
      cases h
  · rintro ⟨n, hn, hlt, rfl⟩
    exact ofVersion_of_unsigned hpart hn hlt

/-- Whatever else the minor part is, the error names the whole version. -/
theorem ofVersion_eq_error_iff (hpart : IsMinorPart part version.toList) {error : BuildError} :
    ofVersion version = .error error ↔
      (¬ ∃ n, Unsigned part n ∧ n < Nat.pow 2 32) ∧ error = .invalidVersion version := by
  constructor
  · intro h
    by_cases hspelled : ∃ n, Unsigned part n ∧ n < Nat.pow 2 32
    · obtain ⟨n, hn, hlt⟩ := hspelled
      rw [ofVersion_of_unsigned hpart hn hlt] at h
      cases h
    · rw [ofVersion_of_not_unsigned hpart hspelled] at h
      cases h
      exact ⟨hspelled, rfl⟩
  · rintro ⟨hspelled, rfl⟩
    exact ofVersion_of_not_unsigned hpart hspelled

/-- The first brings nothing that the second does not bring. -/
def AtMost (features features' : VersionFeatures) : Prop :=
  (features.newDecompiler = true → features'.newDecompiler = true) ∧
    (features.newConfig = true → features'.newConfig = true)

/-- A higher number decides for at least the features of a lower one. -/
theorem atMost_of_le {n n' : Nat} (h : n ≤ n') :
    AtMost ⟨decide (11 < n), decide (12 < n)⟩ ⟨decide (11 < n'), decide (12 < n')⟩ := by
  unfold AtMost
  simp only [decide_eq_true_eq]
  omega

/-- A version with the new settings has the new decompiler. -/
theorem newDecompiler_of_newConfig {features : VersionFeatures}
    (h : ofVersion version = .ok features) (hconfig : features.newConfig = true) :
    features.newDecompiler = true := by
  by_cases hdot : '.' ∈ version.toList
  · obtain ⟨part, hpart⟩ := exists_isMinorPart hdot
    obtain ⟨n, -, -, rfl⟩ := (ofVersion_eq_ok_iff hpart).mp h
    simp only [decide_eq_true_eq] at hconfig ⊢
    omega
  · rw [ofVersion_of_not_mem hdot] at h
    cases h
    cases hconfig

/-- A version without a dot brings nothing new. Any other has a minor part, and brings what goes
with the number of 32 bits that this part spells; if it spells none, the version is refused as a
whole. So versions with the same minor part bring the same, a greater number never brings less, and
no version brings the second novelty without the first. -/
theorem ofVersion_by_minor (version : String) :
    ('.' ∉ version.toList → ofVersion version = .ok ⟨false, false⟩) ∧
    ('.' ∈ version.toList → ∃ part, IsMinorPart part version.toList) ∧
    (∀ part, IsMinorPart part version.toList →
      (∀ features, ofVersion version = .ok features ↔
        ∃ n, Unsigned part n ∧ n < Nat.pow 2 32 ∧ features = ⟨decide (11 < n), decide (12 < n)⟩) ∧
      (∀ error, ofVersion version = .error error ↔
        (¬ ∃ n, Unsigned part n ∧ n < Nat.pow 2 32) ∧ error = .invalidVersion version) ∧
      (∀ other : String, IsMinorPart part other.toList →
        (ofVersion other).toOption = (ofVersion version).toOption) ∧
      ∀ (other : String) part' n n' features features', IsMinorPart part' other.toList →
        Unsigned part n → Unsigned part' n' → n ≤ n' →
        ofVersion version = .ok features → ofVersion other = .ok features' →
          AtMost features features') ∧
    ∀ features, ofVersion version = .ok features → features.newConfig = true →
      features.newDecompiler = true := by
  refine ⟨ofVersion_of_not_mem, exists_isMinorPart, fun part hpart => ?_,
    fun features => newDecompiler_of_newConfig⟩
  refine ⟨fun features => ofVersion_eq_ok_iff hpart, fun error => ofVersion_eq_error_iff hpart,
    fun other hother => ?_, ?_⟩
  · -- Both versions have the one number, or neither has any.
    by_cases hspelled : ∃ n, Unsigned part n ∧ n < Nat.pow 2 32
    · obtain ⟨n, hn, hlt⟩ := hspelled
      rw [ofVersion_of_unsigned hpart hn hlt, ofVersion_of_unsigned hother hn hlt]
    · rw [ofVersion_of_not_unsigned hpart hspelled, ofVersion_of_not_unsigned hother hspelled]
      rfl
  · -- A text spells one number, so the two that are given are those that were read.
    intro other part' n n' features features' hother hn hn' hle hversion hversion'
    obtain ⟨m, hm, -, rfl⟩ := (ofVersion_eq_ok_iff hpart).mp hversion
    obtain ⟨m', hm', -, rfl⟩ := (ofVersion_eq_ok_iff hother).mp hversion'
    rw [hm.unique hn, hm'.unique hn']
    exact atMost_of_le hle

/-- A plus sign and zeros in front of the minor number do not count, nor does what is behind it. The
first number of more than 32 bits is refused. -/
theorem ofVersion_paddedMinor :
    ofVersion "1.+0012.x" = .ok ⟨true, false⟩ ∧
      ofVersion "1.4294967296.0" = .error (.invalidVersion "1.4294967296.0") ∧
      ∀ features, ofVersion "2.13" = .ok features → AtMost ⟨true, false⟩ features := by
  have hpadded : IsMinorPart ['+', '0', '0', '1', '2'] "1.+0012.x".toList :=
    .inner ['1'] ['x'] (by decide) (by decide)
  have hlarge : IsMinorPart "4294967296".toList "1.4294967296.0".toList :=
    .inner ['1'] ['0'] (by decide) (by decide)
  have hplain : IsMinorPart ['1', '3'] "2.13".toList :=
    .last ['2'] (by decide) (by decide)
  have htwelve : Unsigned ['+', '0', '0', '1', '2'] 12 :=
    .plus ⟨by decide, List.all_eq_true.mp (by decide), by decide⟩
  have hthirteen : Unsigned ['1', '3'] 13 :=
    .plain ⟨by decide, List.all_eq_true.mp (by decide), by decide⟩
  have hbound : Unsigned "4294967296".toList (Nat.pow 2 32) :=
    .plain ⟨by decide, List.all_eq_true.mp (by decide), by decide⟩
  -- The first version is as if it were 1.12, and the third is 1.13.
  obtain ⟨-, -, hby, -⟩ := ofVersion_by_minor "1.+0012.x"
  obtain ⟨hok, -, -, hgrows⟩ := hby _ hpadded
  have hversion : ofVersion "1.+0012.x" = .ok ⟨true, false⟩ :=
    (hok _).mpr ⟨12, htwelve, by decide, rfl⟩
  obtain ⟨-, herror, -⟩ := (ofVersion_by_minor "1.4294967296.0").2.2.1 _ hlarge
  refine ⟨hversion, (herror _).mpr ⟨?_, rfl⟩, fun features hfeatures => ?_⟩
  · rintro ⟨n, hn, hlt⟩
    rw [hn.unique hbound] at hlt
    exact absurd hlt (Nat.lt_irrefl _)
  · exact hgrows "2.13" _ 12 13 _ features hplain htwelve hthirteen (by decide) hversion hfeatures

end ModBuild.Proofs.Version
