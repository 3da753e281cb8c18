import ModBuild.Proofs.Json.Parts
import ModBuild.Proofs.Version.ManifestText

/-!
# `ModBuild.Proofs.Version.Equality`: which manifests are equal

What a document lists can be told from its parts: the descriptors are the items under `versions`,
and the texts of each are under the names of its fields. Blanks, the order of members, members of
other names and the form of a record play no part in this. Manifests that are read from documents
are equal if the documents list the same descriptors in the same order, but only if they name the
same newest versions as well. The theorems:

* `record_texts`: a record of texts is read from its parts.
* `read_descriptorAt`, `nullable_newestAt` and `listOf_versionsAt`: so are the parts of a manifest.
* `ofText_listed`: a manifest has the descriptors that its document lists.
* `eq_iff_listed`: when two manifests are equal.
* `not_equalByList`: newest versions make a difference.
-/

set_option autoImplicit false

namespace ModBuild.Proofs.Version

open ModBuild ModBuild.Json ModBuild.Proofs.Json

/-! ### What a document lists -/

/-- The text of the part with a name. -/
def textAt (parts : Parts) (name : String) : Option String :=
  (parts.lookup name).bind fun s => (text s).toOption.map (·.1)

/-- The descriptor that a text starts with. -/
def descriptorAt (limit : Nat) (s : List Char) : Option VersionDescriptor := do
  let parts ← parts? ["id", "type", "url"] limit s
  return ⟨← textAt parts "id", ← textAt parts "type", ← textAt parts "url"⟩

/-- The newest versions that a text starts with, if it does not start with `null`. -/
def newestAt (limit : Nat) (s : List Char) : Option LatestVersions := do
  let parts ← parts? ["release", "snapshot"] limit s
  return ⟨← textAt parts "release", ← textAt parts "snapshot"⟩

/-- The list of descriptors that a text starts with. -/
def versionsAt (limit : Nat) (s : List Char) : Option (List VersionDescriptor) := do
  (← items? limit s).mapM (descriptorAt limit)

/-- The parts of a document as the parts of a manifest. -/
def manifestParts? (limit : Nat) (s : List Char) : Option Parts :=
  parts? ["latest", "versions"] limit s

/-- The descriptors that a document lists, in order. -/
def listed (document : String) : Option (List VersionDescriptor) := do
  let limit := document.toList.length + 1
  let parts ← manifestParts? limit document.toList
  versionsAt limit (← parts.lookup "versions")

/-- The newest versions that a document names. -/
def newest (document : String) : Option LatestVersions := do
  let limit := document.toList.length + 1
  let parts ← manifestParts? limit document.toList
  newestAt limit (← parts.lookup "latest")

/-! ### Records of texts -/

section Texts

variable {names : List String} {limit : Nat} {s rest : List Char}

/-- The texts of a draft are those of the parts. -/
def SameTexts (names : List String) (draft : TextDraft) (parts : Parts) : Prop :=
  ∀ name ∈ names, draft.lookup name = textAt parts name

/-- An entry of another name does not matter for a name. -/
theorem lookup_cons_ne {α : Type} {name other : String} (h : other ≠ name) (a : α)
    (entries : List (String × α)) :
    List.lookup other ((name, a) :: entries) = entries.lookup other := by
  rw [List.lookup_cons, beq_eq_false_iff_ne.mpr h]

/-- A part of another name does not matter for the text of a name. -/
theorem textAt_cons_ne {name other : String} (h : other ≠ name) (s : List Char) (parts : Parts) :
    textAt ((name, s) :: parts) other = textAt parts other := by
  unfold textAt
  rw [lookup_cons_ne h]

/-- To read a text keeps the draft and the parts equal in their texts. -/
theorem keepsField_text {name t : String} (h : text s = .ok (t, rest)) (draft : TextDraft) :
    KeepsField (names.map textField) (SameTexts names) (textField name) draft s
      ((name, t) :: draft) rest where
  taken := takesOff_of_text h
  tells := by
    intro parts hparts other hother
    -- Both the draft and the parts have what came last in front.
    by_cases heq : other = name
    · subst heq
      simp [textField, textAt, h, Except.toOption]
    · show _ = textAt ((name, s) :: parts) other
      rw [lookup_cons_ne heq, textAt_cons_ne heq]
      exact hparts other hother
  isSet := by
    show (List.lookup name ((name, t) :: draft)).isSome = true
    rw [List.lookup_cons_self]
    rfl
  stays := by
    intro field hfield hset
    obtain ⟨other, -, rfl⟩ := List.mem_map.mp hfield
    show (List.lookup other ((name, t) :: draft)).isSome = true
    by_cases heq : other = name
    · rw [heq, List.lookup_cons_self]
      rfl
    · rw [lookup_cons_ne heq]
      exact hset

/-- Records of texts are read like their parts are found. -/
theorem keepsParts_texts (names : List String) (limit : Nat) :
    KeepsParts (names.map textField) limit (SameTexts names) where
  field := by
    intro field hfield draft s draft' rest _ hread
    obtain ⟨name, -, rfl⟩ := List.mem_map.mp hfield
    obtain ⟨⟨t, left⟩, htext, hsame⟩ := map_eq_ok hread
    cases hsame
    exact keepsField_text htext draft
  other := by
    intro draft parts name s hname hparts other hother
    have hne : other ≠ name := by
      rintro rfl
      exact hname (List.mem_map.mpr ⟨textField other, List.mem_map_of_mem hother, rfl⟩)
    rw [textAt_cons_ne hne]
    exact hparts other hother

/-- A record of texts is read from its parts. -/
theorem record_texts (names : List String) {title : String} {draft : TextDraft}
    (h : record title (names.map textField) limit [] s = .ok (draft, rest))
    (hlimit : s.length < limit) :
    TakesOff (.atValue []) s rest ∧ ∃ parts, parts? names limit s = some parts ∧
      ∀ name ∈ names, textAt parts name = some (draft.get name) := by
  obtain ⟨htaken, parts, hparts, hsame, hset⟩ :=
    record_parts (keepsParts_texts names limit) h hlimit fun _ _ => rfl
  rw [map_textField] at hparts
  refine ⟨htaken, parts, hparts, fun name hname => ?_⟩
  have hisSome : (draft.lookup name).isSome = true :=
    hset (textField name) (List.mem_map_of_mem hname) rfl
  obtain ⟨t, ht⟩ := Option.isSome_iff_exists.mp hisSome
  rw [← hsame name hname, TextDraft.get, ht]
  rfl

end Texts

/-! ### Parts of a manifest -/

section Manifest

variable {limit : Nat} {s rest : List Char}

/-- A descriptor that is read is the one found at its place. -/
theorem read_descriptorAt {d : VersionDescriptor} (hlimit : s.length < limit)
    (h : VersionDescriptor.read limit s = .ok (d, rest)) :
    TakesOff (.atValue []) s rest ∧ descriptorAt limit s = some d := by
  obtain ⟨⟨draft, left⟩, hrecord, hsame⟩ := map_eq_ok h
  cases hsame
  obtain ⟨htaken, parts, hparts, htexts⟩ :=
    record_texts ["id", "type", "url"] hrecord hlimit
  refine ⟨htaken, ?_⟩
  unfold descriptorAt
  rw [hparts]
  simp [htexts]

/-- Newest versions that are read are the ones found at their place. -/
theorem read_newestAt {l : LatestVersions} (hlimit : s.length < limit)
    (h : LatestVersions.read limit s = .ok (l, rest)) :
    TakesOff (.atValue []) s rest ∧ newestAt limit s = some l := by
  obtain ⟨⟨draft, left⟩, hrecord, hsame⟩ := map_eq_ok h
  cases hsame
  obtain ⟨htaken, parts, hparts, htexts⟩ :=
    record_texts ["release", "snapshot"] hrecord hlimit
  refine ⟨htaken, ?_⟩
  unfold newestAt
  rw [hparts]
  simp [htexts]

/-- The newest versions may be `null`. -/
theorem nullable_newestAt {latest : Option LatestVersions} (hlimit : s.length < limit)
    (h : nullable (LatestVersions.read limit) s = .ok (latest, rest)) :
    TakesOff (.atValue []) s rest ∧ newestAt limit s = latest := by
  have hle := length_skipBlanks_le s
  unfold nullable at h
  split at h
  · rename_i behind heq
    obtain ⟨left, hword, hsame⟩ := map_eq_ok h
    cases hsame
    have hscalar : skippedScalar s = .ok (none, rest) := by
      unfold skippedScalar
      rw [heq]
      simp only [hword]
      rfl
    refine ⟨takesOff_scalar hscalar, ?_⟩
    unfold newestAt parts? members? items?
    rw [heq]
    rfl
  · obtain ⟨⟨l, left⟩, hread, hsame⟩ := map_eq_ok h
    cases hsame
    obtain ⟨htaken, hnewest⟩ := read_newestAt (by omega) hread
    refine ⟨htaken.of_skipBlanks, ?_⟩
    -- The parts are looked for behind the blanks, whether there are any or not.
    have hparts : ∀ names, parts? names limit (skipBlanks s) = parts? names limit s := by
      intro names
      unfold parts? members? items?
      rw [skipBlanks_skipBlanks]
    unfold newestAt at hnewest ⊢
    rw [← hparts]
    exact hnewest

/-- Descriptors that are read one by one are those found at their places. -/
theorem mapM_descriptorAt {versions : List VersionDescriptor} {starts : List (List Char)}
    (h : List.Forall₂ (fun d start => start.length < limit ∧
      ∃ left, VersionDescriptor.read limit start = .ok (d, left)) versions starts) :
    starts.mapM (descriptorAt limit) = some versions := by
  induction h with
  | nil => rfl
  | cons hd _ ih =>
    obtain ⟨hstart, left, hread⟩ := hd
    rw [List.mapM_cons, (read_descriptorAt hstart hread).2, ih]
    rfl

/-- Versions that are read are the ones found at their place. -/
theorem listOf_versionsAt {versions : List VersionDescriptor} (hlimit : s.length < limit)
    (h : listOf limit (VersionDescriptor.read limit) s = .ok (versions, rest)) :
    TakesOff (.atValue []) s rest ∧ versionsAt limit s = some versions := by
  obtain ⟨htaken, starts, hstarts, hall⟩ :=
    listOf_items (fun _ _ _ hstart hread => (read_descriptorAt hstart hread).1) h hlimit
  refine ⟨htaken, ?_⟩
  unfold versionsAt
  rw [hstarts]
  exact mapM_descriptorAt hall

/-- A draft of a manifest has what the parts say. -/
structure SameManifest (limit : Nat) (draft : VersionManifest.Draft) (parts : Parts) : Prop where
  latest : draft.latest = (parts.lookup "latest").map (newestAt limit)
  versions : draft.versions = (parts.lookup "versions").bind (versionsAt limit)

/-- A manifest is read like its parts are found. -/
theorem keepsParts_manifest (limit : Nat) :
    KeepsParts VersionManifest.fields limit (SameManifest limit) where
  field := by
    intro field hfield draft s draft' rest hlimit hread
    -- The newest versions are one field, and the list of versions is the other.
    rcases List.mem_cons.mp hfield with rfl | hfield
    · obtain ⟨⟨latest, left⟩, hlatest, hsame⟩ := map_eq_ok hread
      cases hsame
      obtain ⟨htaken, hnewest⟩ := nullable_newestAt hlimit hlatest
      -- Reading one field leaves the other unset, if it was.
      refine ⟨htaken, fun parts hparts => ⟨?_, hparts.versions⟩, rfl, ?_⟩
      · rw [List.lookup_cons_self, Option.map_some, hnewest]
      · intro other hother hset
        rcases List.mem_cons.mp hother with rfl | hother
        · rfl
        · rw [List.mem_singleton.mp hother] at hset ⊢
          exact hset
    · rw [List.mem_singleton.mp hfield] at hread ⊢
      obtain ⟨⟨versions, left⟩, hversions, hsame⟩ := map_eq_ok hread
      cases hsame
      obtain ⟨htaken, hlisted⟩ := listOf_versionsAt hlimit hversions
      refine ⟨htaken, fun parts hparts => ⟨hparts.latest, ?_⟩, rfl, ?_⟩
      · rw [List.lookup_cons_self, Option.bind_some, hlisted]
      · intro other hother hset
        rcases List.mem_cons.mp hother with rfl | hother
        · exact hset
        · rw [List.mem_singleton.mp hother]
          rfl
  other := by
    intro draft parts name s hname hparts
    have hne : "latest" ≠ name ∧ "versions" ≠ name := by
      constructor
      · rintro rfl
        exact hname (by decide)
      · rintro rfl
        exact hname (by decide)
    constructor
    · rw [lookup_cons_ne hne.1]
      exact hparts.latest
    · rw [lookup_cons_ne hne.2]
      exact hparts.versions

/-- A manifest that is read has the versions and the newest ones that its parts have. -/
theorem read_manifestParts {m : VersionManifest} (hlimit : s.length < limit)
    (h : VersionManifest.read limit s = .ok (m, rest)) :
    ∃ parts, manifestParts? limit s = some parts ∧
      (parts.lookup "versions").bind (versionsAt limit) = some m.versions ∧
      (parts.lookup "latest").bind (newestAt limit) = m.latest := by
  obtain ⟨⟨draft, left⟩, hrecord, hsame⟩ := map_eq_ok h
  cases hsame
  obtain ⟨-, parts, hparts, hdraft, hset⟩ :=
    record_parts (keepsParts_manifest limit) hrecord hlimit ⟨rfl, rfl⟩
  have hisSome : draft.versions.isSome = true := by
    exact hset _ (List.mem_cons_of_mem _ List.mem_cons_self) rfl
  obtain ⟨versions, hversions⟩ := Option.isSome_iff_exists.mp hisSome
  refine ⟨parts, hparts, ?_, ?_⟩
  · rw [← hdraft.versions, hversions]
    rfl
  · show _ = draft.latest.getD none
    rw [hdraft.latest]
    cases parts.lookup "latest" <;> rfl

end Manifest

/-! ### Equal manifests -/

/-- A text that reads from its start to its end is read by its reader. -/
theorem read_of_whole {α : Type} {reader : Nat → List Char → Except Fault (α × List Char)}
    {text : String} {a : α} (h : whole reader text = .ok a) :
    ∃ rest, reader (text.toList.length + 1) text.toList = .ok (a, rest) := by
  unfold whole at h
  simp only at h
  split at h
  · rename_i hrun
    obtain ⟨⟨b, rest⟩, hread, hrest⟩ := bind_eq_ok hrun
    simp only at hrest
    split at hrest
    · cases hrest
      cases h
      exact ⟨rest, hread⟩
    · cases hrest
  · cases h

/-- A manifest has the descriptors that its document lists, and the newest versions it names. -/
theorem ofText_listed {document : String} {m : VersionManifest}
    (h : VersionManifest.ofText document = .ok m) :
    listed document = some m.versions ∧ newest document = m.latest := by
  obtain ⟨rest, hread⟩ := read_of_whole h
  obtain ⟨parts, hparts, hversions, hlatest⟩ :=
    read_manifestParts (Nat.lt_succ_self document.toList.length) hread
  unfold listed newest
  simp only [hparts]
  exact ⟨hversions, hlatest⟩

/-- Two documents are read as the same manifest if they list the same descriptors in the same order
and name the same newest versions, whatever else they contain, and only then. So among documents
that name the same newest versions the descriptors decide. -/
theorem eq_iff_listed (document other : String) (m n : VersionManifest)
    (hm : VersionManifest.ofText document = .ok m) (hn : VersionManifest.ofText other = .ok n) :
    (listed document = some m.versions ∧ newest document = m.latest) ∧
    (m = n ↔ listed document = listed other ∧ newest document = newest other) ∧
    (newest document = newest other → (m = n ↔ listed document = listed other)) := by
  obtain ⟨hlisted, hnewest⟩ := ofText_listed hm
  obtain ⟨hlisted', hnewest'⟩ := ofText_listed hn
  have hiff : m = n ↔ listed document = listed other ∧ newest document = newest other := by
    rw [hlisted, hnewest, hlisted', hnewest', Option.some.injEq]
    constructor
    · rintro rfl
      exact ⟨rfl, rfl⟩
    · rintro ⟨hversions, hlatest⟩
      cases m
      cases n
      cases hversions
      cases hlatest
      rfl
  refine ⟨⟨hlisted, hnewest⟩, hiff, fun hsame => ?_⟩
  rw [hiff]
  exact and_iff_left hsame

/-- A document with lists for records. -/
def rowsDocument : String :=
  "[[\"1\",\"2\"],[[\"1\",\"release\",\"u\"]]]"

/-- A document with the same in other words, with its members in other orders and with others among
them. -/
def looseDocument : String :=
  "\x7b \"versions\" : [\x7b\"url\":\"u\", \"size\":[0, \x7b\x7d], \"type\":\"release\"," ++
    " \"id\":\"\\u0031\"\x7d], \"more\":null, \"latest\":[\"1\",\"2\"] \x7d"

/-- The two list the same. -/
theorem eq_iff_listed_looseDocument :
    VersionManifest.ofText rowsDocument = VersionManifest.ofText looseDocument ∧
      listed rowsDocument = some [⟨"1", "release", "u"⟩] ∧
      listed rowsDocument = listed looseDocument ∧ newest rowsDocument = newest looseDocument := by
  have hrows : VersionManifest.ofText rowsDocument =
      .ok ⟨some ⟨"1", "2"⟩, [⟨"1", "release", "u"⟩]⟩ := by
    decide +kernel
  have hloose : VersionManifest.ofText looseDocument =
      .ok ⟨some ⟨"1", "2"⟩, [⟨"1", "release", "u"⟩]⟩ := by
    decide +kernel
  obtain ⟨⟨hlisted, -⟩, hiff, -⟩ := eq_iff_listed rowsDocument looseDocument _ _ hrows hloose
  exact ⟨hrows.trans hloose.symm, hlisted, hiff.mp rfl⟩

/-- The descriptors alone do not decide: one of two documents without any names newest versions. -/
theorem not_equalByList :
    ¬ ∀ document other m n, VersionManifest.ofText document = .ok m →
      VersionManifest.ofText other = .ok n → (m = n ↔ listed document = listed other) := by
  intro hall
  have hnewest : VersionManifest.ofText
      "\x7b\"latest\":\x7b\"release\":\"1.12\",\"snapshot\":\"1.12\"\x7d,\"versions\":[]\x7d" =
        .ok ⟨some ⟨"1.12", "1.12"⟩, []⟩ := by
    decide +kernel
  have hnone : VersionManifest.ofText "\x7b\"versions\":[]\x7d" = .ok ⟨none, []⟩ := by
    decide +kernel
  have hsame := (hall _ _ _ _ hnewest hnone).mpr (by decide +kernel)
  cases hsame

end ModBuild.Proofs.Version
