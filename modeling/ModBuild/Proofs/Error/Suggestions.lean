import ModBuild.Proofs.Template.Ranking
import ModBuild.Proofs.Template.Unresolved
import ModBuild.Version.Manifest

/-!
# `ModBuild.Proofs.Error.Suggestions`: what errors suggest

A token without a value and a version that is not listed are reported with names that are close to
them. Both errors take the names from the same function, of the names of a table or of the ids of a
manifest. A table has each name once. A manifest may list an id more than once, and every entry of
it counts on its own. The theorems:

* `suggestions_by_rank`: what is suggested, in terms of the ranking.
* `require_of_unlisted`: the error for an id that no descriptor has.
* `SuggestsIds`: what a person may expect of the ids that are suggested.
* `suggestions_of_manifest`: that much holds if no close id is listed twice. In any case an id is
  left out only for three entries that are as close, and none is suggested more often than it is
  listed.
* `not_suggestsIds`: entries that repeat an id take the places of others.
-/

set_option autoImplicit false

namespace ModBuild.Proofs.Error

open ModBuild ModBuild.Template ModBuild.Proofs.Template

/-! ### Names and ids -/

/-- An id that no descriptor has is an error that suggests ids, in the order of the manifest. -/
theorem require_of_unlisted {manifest : VersionManifest} {id : String}
    (h : ∀ d ∈ manifest.versions, d.id ≠ id) :
    manifest.require id = .error (.unknownVersion id (similarNames id manifest.ids)) := by
  have hnone : manifest.find? id = none := by
    refine List.find?_eq_none.mpr fun d hd => ?_
    rw [decide_eq_true_iff]
    exact h d hd
  unfold VersionManifest.require
  rw [hnone]

/-- An id that no descriptor has is not among the ids. -/
theorem not_mem_ids {manifest : VersionManifest} {id : String}
    (h : ∀ d ∈ manifest.versions, d.id ≠ id) : id ∉ manifest.ids := by
  intro hmem
  obtain ⟨d, hd, heq⟩ := List.mem_map.mp hmem
  exact h d hd heq

/-- The suggestions are the first three of the close candidates, ranked by the least number of edits
and then by their position, or all of them if they are fewer. So nothing that is left out is closer
than what is suggested, and a candidate that is the target comes first. Tokens and versions are
suggested that way, from the names of the table and the ids of the manifest as they are listed. -/
theorem suggestions_by_rank :
    (∀ target candidates, ∃ order, IsRanking target candidates order ∧
      (∀ other, IsRanking target candidates other → other = order) ∧
      similarNames target candidates = (order.take 3).map Prod.fst ∧
      (similarNames target candidates).length = min 3 (candidates.countP
        fun name => leastEdits target.toList name.toList ≤ target.utf8ByteSize / 2) ∧
      (∀ name i, candidates[i]? = some name → (name, i) ∉ order.take 3 → ∀ e ∈ order.take 3,
        leastEdits target.toList e.1.toList ≤ leastEdits target.toList name.toList) ∧
      (target ∈ candidates → (similarNames target candidates).head? = some target)) ∧
    (∀ table template token suggestions,
      expand table template = .error (.unresolvedToken token suggestions) →
      suggestions = similarNames token table.names) ∧
    ∀ (manifest : VersionManifest) id, (∀ d ∈ manifest.versions, d.id ≠ id) →
      manifest.require id = .error (.unknownVersion id (similarNames id manifest.ids)) := by
  refine ⟨fun target candidates => ?_, fun table template token suggestions h =>
    (firstMissing_of_expand h).2, fun manifest id => require_of_unlisted⟩
  -- One ranking is known by sorting, and any other is equal to it.
  have hranking := isRanking_sorted target candidates
  have hnames := similarNames_of_isRanking hranking
  refine ⟨_, hranking, fun other hother => hother.unique hranking, hnames, ?_,
    fun name i hname hout e he => hranking.le_of_not_mem hname hout he, head?_similarNames⟩
  rw [hnames, List.length_map, List.length_take, hranking.length_eq]

/-- Releases that are close to each other, each listed once. -/
def pointReleases : VersionManifest :=
  ⟨none, ["1.12", "1.12.1", "1.12.2", "1.13", "1.13.1"].map fun id => ⟨id, "release", "u:" ++ id⟩⟩

/-- Two names that are spelled nearly alike, and one that is not. -/
def colours : Table :=
  ((Table.empty.put "@FLAVOUR@" "mint" (by decide +kernel)).put "@COLOUR@" "green"
    (by decide +kernel)).put "@COLOR@" "green" (by decide +kernel)

/-- Two releases are one edit away and three are two edits away. Of these the one that is listed
first is suggested, and another one is left out. Of the names of a table the close ones are
suggested, in the order of the table. -/
theorem suggestions_of_pointReleases :
    pointReleases.require "1.12.3" =
        .error (.unknownVersion "1.12.3" ["1.12.1", "1.12.2", "1.12"]) ∧
      (∀ s ∈ ["1.12.1", "1.12.2", "1.12"],
        leastEdits "1.12.3".toList s.toList ≤ leastEdits "1.12.3".toList "1.13".toList) ∧
      (similarNames "1.13" pointReleases.ids).head? = some "1.13" ∧
      colours.names = ["@COLOR@", "@COLOUR@", "@FLAVOUR@"] ∧
      expand colours "a @COLUR@" =
        .error (.unresolvedToken "@COLUR@" (similarNames "@COLUR@" colours.names)) ∧
      similarNames "@COLUR@" colours.names = ["@COLOR@", "@COLOUR@"] := by
  have hranking : IsRanking "1.12.3" pointReleases.ids
      [("1.12.1", 1), ("1.12.2", 2), ("1.12", 0), ("1.13", 3), ("1.13.1", 4)] :=
    isRanking_of_perm (by decide +kernel) (by decide +kernel)
  have hlisted : colours.names = ["@COLOR@", "@COLOUR@", "@FLAVOUR@"] := by decide +kernel
  have hcolours : IsRanking "@COLUR@" colours.names [("@COLOR@", 0), ("@COLOUR@", 1)] :=
    isRanking_of_perm (by decide +kernel) (by decide +kernel)
  have hstop : substitute colours "a @COLUR@".toList = .error (.unregistered "@COLUR@") := by
    decide +kernel
  have htoken : expand colours "a @COLUR@" =
      .error (.unresolvedToken "@COLUR@" ["@COLOR@", "@COLOUR@"]) := by
    have hsuggested : similarNames "@COLUR@" colours.names = ["@COLOR@", "@COLOUR@"] :=
      similarNames_of_isRanking hcolours
    rw [← hsuggested]
    exact Ends.expand_eq (.unregistered (by decide) .none hstop)
  -- The rankings were given by hand, and as rankings are unique they are the ones that count.
  obtain ⟨hranked, htokens, hversions⟩ := suggestions_by_rank
  obtain ⟨order, -, hunique, hnames, -, hcloser, -⟩ := hranked "1.12.3" pointReleases.ids
  obtain ⟨-, -, -, -, -, -, hfirst⟩ := hranked "1.13" pointReleases.ids
  obtain rfl := hunique _ hranking
  have herror := hversions pointReleases "1.12.3" (by decide)
  rw [hnames] at herror
  have hclose := htokens colours "a @COLUR@" _ _ htoken
  refine ⟨herror, fun s hs => ?_, hfirst (by decide), hlisted, hclose ▸ htoken, hclose.symm⟩
  obtain ⟨e, he, rfl⟩ : ∃ e ∈ [("1.12.1", 1), ("1.12.2", 2), ("1.12", 0)], e.1 = s :=
    List.mem_map.mp hs
  exact hcloser "1.13" 3 rfl (by decide) e he

/-! ### Ids that are listed more than once -/

/-- What a person may expect of suggestions for an id that is not listed: a few different ids of the
manifest, and of those that are close none left out but for three that are as close. -/
structure SuggestsIds (manifest : VersionManifest) (id : String) (suggestions : List String) :
    Prop where
  atMostThree : suggestions.length ≤ 3
  distinct : suggestions.Nodup
  listed : suggestions ⊆ manifest.ids
  other : id ∉ suggestions
  closest : ∀ left ∈ manifest.ids, leastEdits id.toList left.toList ≤ id.utf8ByteSize / 2 →
    left ∉ suggestions → ∃ closer ⊆ suggestions, closer.Nodup ∧ closer.length = 3 ∧
      ∀ s ∈ closer, leastEdits id.toList s.toList ≤ leastEdits id.toList left.toList

/-- An id that is not listed is an error that suggests ids of the manifest, at most three. Entries
are taken one by one, so an id is suggested at most as often as it is listed, and a close one is
left out only for three entries that are as close. If no close id is listed twice, the suggestions
are different ids, and three different ones take the place of what is left out. -/
theorem suggestions_of_manifest (manifest : VersionManifest) (id : String)
    (h : ∀ d ∈ manifest.versions, d.id ≠ id) :
    ∃ suggestions, manifest.require id = .error (.unknownVersion id suggestions) ∧
      suggestions.length ≤ 3 ∧ id ∉ suggestions ∧ suggestions.Subperm manifest.ids ∧
      (∀ left ∈ manifest.ids, leastEdits id.toList left.toList ≤ id.utf8ByteSize / 2 →
        left ∉ suggestions → suggestions.length = 3 ∧ ∀ s ∈ suggestions,
          leastEdits id.toList s.toList ≤ leastEdits id.toList left.toList) ∧
      ((∀ name, leastEdits id.toList name.toList ≤ id.utf8ByteSize / 2 →
        manifest.ids.count name ≤ 1) → SuggestsIds manifest id suggestions) := by
  have hlength := length_similarNames_le id manifest.ids
  have hlisted := similarNames_subset id manifest.ids
  have hother : id ∉ similarNames id manifest.ids := fun hmem => not_mem_ids h (hlisted hmem)
  refine ⟨_, require_of_unlisted h, hlength, hother, similarNames_subperm id manifest.ids,
    fun left => similarNames_of_left_out, fun honce => ?_⟩
  have hdistinct := nodup_similarNames_of_close honce
  refine ⟨hlength, hdistinct, hlisted, hother, fun left hleft hclose hout => ?_⟩
  obtain ⟨hthree, hcloser⟩ := similarNames_of_left_out hleft hclose hout
  exact ⟨_, List.Subset.refl _, hdistinct, hthree, hcloser⟩

/-- A snapshot that is listed twice, and two releases. -/
def twiceListed : VersionManifest :=
  ⟨none, [⟨"18w30a", "snapshot", "u:1"⟩, ⟨"1.13", "release", "u:2"⟩, ⟨"1.12", "release", "u:3"⟩,
    ⟨"18w30a", "snapshot", "u:4"⟩]⟩

/-- The snapshot is not close to a release, so it does no harm that it is listed twice. -/
theorem suggestions_of_twiceListed :
    twiceListed.require "1.14" = .error (.unknownVersion "1.14" ["1.13", "1.12"]) ∧
      SuggestsIds twiceListed "1.14" ["1.13", "1.12"] := by
  have hranking : IsRanking "1.14" twiceListed.ids [("1.13", 1), ("1.12", 2)] :=
    isRanking_of_perm (by decide +kernel) (by decide +kernel)
  have hsimilar : similarNames "1.14" twiceListed.ids = ["1.13", "1.12"] :=
    similarNames_of_isRanking hranking
  have hunlisted : ∀ d ∈ twiceListed.versions, d.id ≠ "1.14" := by decide
  -- Only the snapshot is listed twice, and it is too far off to matter.
  have honce : ∀ name, leastEdits "1.14".toList name.toList ≤ "1.14".utf8ByteSize / 2 →
      twiceListed.ids.count name ≤ 1 := by
    intro name hclose
    have hsnapshot : name ≠ "18w30a" := by
      rintro rfl
      exact absurd (isClose_iff.mpr hclose) (by decide +kernel)
    have hids : twiceListed.ids = ["18w30a", "1.13", "1.12", "18w30a"] := rfl
    rw [hids, List.count_cons_of_ne hsnapshot.symm]
    by_cases hrelease : name = "1.13"
    · rw [hrelease]
      decide
    · rw [List.count_cons_of_ne (Ne.symm hrelease), List.count_cons,
        List.count_cons_of_ne hsnapshot.symm, List.count_nil]
      split <;> decide
  obtain ⟨suggestions, herror, -, -, -, -, hsuggests⟩ :=
    suggestions_of_manifest twiceListed "1.14" hunlisted
  have hsame := require_of_unlisted hunlisted
  rw [hsimilar] at hsame
  rw [hsame] at herror
  cases herror
  exact ⟨hsame, hsuggests honce⟩

/-- A release that is listed three times, and another one. -/
def oftenListed : VersionManifest :=
  ⟨none, [⟨"1.12", "release", "u:1"⟩, ⟨"1.12", "release", "u:2"⟩, ⟨"1.12", "release", "u:3"⟩,
    ⟨"1.13", "release", "u:4"⟩]⟩

/-- The release is suggested three times, and the other one is left out. -/
theorem not_suggestsIds :
    ¬ ∀ (manifest : VersionManifest) (id : String), (∀ d ∈ manifest.versions, d.id ≠ id) →
      ∃ suggestions, manifest.require id = .error (.unknownVersion id suggestions) ∧
        SuggestsIds manifest id suggestions := by
  intro hall
  have hranking : IsRanking "1.14" oftenListed.ids
      [("1.12", 0), ("1.12", 1), ("1.12", 2), ("1.13", 3)] :=
    isRanking_of_perm (by decide +kernel) (by decide +kernel)
  have hsimilar : similarNames "1.14" oftenListed.ids = ["1.12", "1.12", "1.12"] :=
    similarNames_of_isRanking hranking
  have hunlisted : ∀ d ∈ oftenListed.versions, d.id ≠ "1.14" := by decide
  obtain ⟨suggestions, herror, hsuggests⟩ := hall oftenListed "1.14" hunlisted
  rw [require_of_unlisted hunlisted, hsimilar] at herror
  cases herror
  exact absurd hsuggests.distinct (by decide)

end ModBuild.Proofs.Error
