import ModBuild.Proofs.Json.Record
import ModBuild.Version.Manifest.Text

/-!
# `ModBuild.Proofs.Version.ManifestText`: manifests that are written are read back

A manifest is a record, its newest versions are one inside it, and so is each descriptor of its
list. Each of these records may be written with its members in any order and with members that no
field is named for: `ManifestAs` relates a manifest to all such documents, and its own document is
one of them (`manifestAs_value`).

The theorems:

* `textRecord_widened`: what is read from a record of texts.
* `read_descriptorAs`, `read_latestAs`: descriptors and newest versions are read back.
* `readsMembers_manifest`: so the members of a manifest are.
* `ofText_manifestAs`: a manifest is read from each of its documents.
* `ofText_text`: hence from the text that is written for it, and from the text that lists the ids,
  kinds and addresses of versions.
-/

set_option autoImplicit false

namespace ModBuild.Proofs.Version

open ModBuild ModBuild.Json ModBuild.Proofs.Json

/-! ### Records of texts -/

section Texts

variable {names : List String} {texts : String → String}

/-- The members of a record of texts. -/
def textMembers (names : List String) (texts : String → String) : List (String × Value) :=
  names.map fun name => (name, .string (texts name))

/-- The draft that holds the texts of the given names. -/
def textsOf (texts : String → String) (seen : List String) : TextDraft :=
  seen.map fun name => (name, texts name)

/-- A text is stored for the names that were seen. -/
theorem lookup_textsOf (texts : String → String) (name : String) (seen : List String) :
    (textsOf texts seen).lookup name = if name ∈ seen then some (texts name) else none := by
  induction seen with
  | nil => rfl
  | cons next seen ih =>
    unfold textsOf at ih ⊢
    by_cases h : name = next
    · subst h
      simp
    · have hne : (name == next) = false := beq_eq_false_iff_ne.mpr h
      rw [List.map_cons, List.lookup_cons, hne, ih]
      simp [h]

/-- The members have the names that they are made for. -/
theorem map_textMembers (names : List String) (texts : String → String) :
    (textMembers names texts).map (·.1) = names := by
  rw [textMembers, List.map_map]
  exact List.map_id names

/-- The fields have the names that they are made for. -/
theorem map_textField (names : List String) : (names.map textField).map (·.name) = names := by
  rw [List.map_map]
  exact List.map_id names

/-- The field of a name is found among the fields of names. -/
theorem find?_textField {name : String} (h : name ∈ names) :
    (names.map textField).find? (·.name = name) = some (textField name) := by
  induction names with
  | nil => exact absurd h List.not_mem_nil
  | cons next names ih =>
    by_cases hnext : next = name
    · subst hnext
      exact List.find?_cons_of_pos (decide_eq_true rfl)
    · have hmem := (List.mem_cons.mp h).resolve_left fun heq => hnext heq.symm
      rw [List.map_cons, List.find?_cons_of_neg]
      · exact ih hmem
      · exact fun heq => hnext (of_decide_eq_true heq)

/-- A text is read as it is written. -/
theorem text_written (t : String) (rest : List Char) :
    text ((Value.string t).compact ++ rest) = .ok (t, rest) := by
  have hcompact : (Value.string t).compact ++ rest =
      '"' :: (t.toList.flatMap escaped ++ '"' :: rest) := by
    simp [Value.compact, stringText]
  rw [hcompact]
  exact stringBody_written t rest

/-- Each text is read into the draft. -/
theorem readsMembers_texts (hnodup : names.Nodup) (texts : String → String) (limit : Nat) :
    ReadsMembers (names.map textField) limit (textMembers names texts) (textsOf texts) where
  nodup := by rwa [map_textMembers]
  member := by
    intro m hm
    obtain ⟨name, hname, rfl⟩ := List.mem_map.mp hm
    refine ⟨textField name, find?_textField hname, fun seen hseen => ?_, fun seen rest _ => ?_⟩
    · -- The draft has the texts of the names that were seen, and no others.
      show ((textsOf texts seen).lookup name).isSome = false
      rw [lookup_textsOf, if_neg hseen]
      rfl
    · show (text _).map _ = _
      rw [text_written]
      rfl
  complete := by
    intro seen hseen
    rw [List.find?_eq_none]
    intro field hfield
    obtain ⟨name, hname, rfl⟩ := List.mem_map.mp hfield
    have hmem : name ∈ seen := hseen _ (List.mem_map_of_mem hname)
    show ¬(!((textsOf texts seen).lookup name).isSome) = true
    rw [lookup_textsOf, if_pos hmem]
    exact Bool.false_ne_true

/-- The draft read from a record of texts holds each of them. -/
theorem textRecord_widened (title : String) (hnodup : names.Nodup) {v : Value}
    (hv : Widens names (.object (textMembers names texts)) v) {limit : Nat}
    (hlimit : v.compact.length < limit) (rest : List Char) :
    ∃ draft : TextDraft, (∀ name ∈ names, draft.get name = texts name) ∧
      record title (names.map textField) limit [] (v.compact ++ rest) = .ok (draft, rest) := by
  have hreads := readsMembers_texts hnodup texts limit
  have hv : Widens ((names.map textField).map (·.name)) (.object (textMembers names texts)) v := by
    rwa [map_textField]
  obtain ⟨seen, hseen, hrecord⟩ := record_widened title hreads hv hlimit rest
  refine ⟨textsOf texts seen, fun name hname => ?_, hrecord⟩
  have hmem : name ∈ seen := hseen _ (List.mem_map_of_mem hname)
  rw [TextDraft.get, lookup_textsOf, if_pos hmem]
  rfl

end Texts

/-! ### Descriptors and newest versions -/

/-- A document that says what a descriptor says. -/
def DescriptorAs (d : VersionDescriptor) (v : Value) : Prop :=
  Widens ["id", "type", "url"] d.value v

/-- A document that says which versions are the newest. -/
def LatestAs (latest : LatestVersions) (v : Value) : Prop :=
  Widens ["release", "snapshot"] latest.value v

/-- The texts of a descriptor by the names of their members. -/
def descriptorTexts (d : VersionDescriptor) (name : String) : String :=
  if name = "id" then d.id else if name = "type" then d.kind else d.url

/-- The newest versions by the names of their members. -/
def latestTexts (latest : LatestVersions) (name : String) : String :=
  if name = "release" then latest.release else latest.snapshot

/-- A descriptor is an object of three texts. -/
theorem descriptor_value (d : VersionDescriptor) :
    d.value = .object (textMembers ["id", "type", "url"] (descriptorTexts d)) := by
  simp [VersionDescriptor.value, textMembers, descriptorTexts]

/-- The newest versions are an object of two texts. -/
theorem latest_value (latest : LatestVersions) :
    latest.value = .object (textMembers ["release", "snapshot"] (latestTexts latest)) := by
  simp [LatestVersions.value, textMembers, latestTexts]

/-- A descriptor is read back. -/
theorem read_descriptorAs {d : VersionDescriptor} {v : Value} (h : DescriptorAs d v) {limit : Nat}
    (hlimit : v.compact.length < limit) (rest : List Char) :
    VersionDescriptor.read limit (v.compact ++ rest) = .ok (d, rest) := by
  unfold DescriptorAs at h
  rw [descriptor_value] at h
  obtain ⟨draft, hdraft, hrecord⟩ :=
    textRecord_widened "struct VersionDescriptor" (by decide) h hlimit rest
  have hid : draft.get "id" = d.id := hdraft "id" (by decide)
  have hkind : draft.get "type" = d.kind := hdraft "type" (by decide)
  have hurl : draft.get "url" = d.url := hdraft "url" (by decide)
  show (record _ (["id", "type", "url"].map textField) limit [] _).map _ = _
  rw [hrecord]
  simp only [Except.map, hid, hkind, hurl]

/-- The newest versions are read back. -/
theorem read_latestAs {latest : LatestVersions} {v : Value} (h : LatestAs latest v) {limit : Nat}
    (hlimit : v.compact.length < limit) (rest : List Char) :
    LatestVersions.read limit (v.compact ++ rest) = .ok (latest, rest) := by
  unfold LatestAs at h
  rw [latest_value] at h
  obtain ⟨draft, hdraft, hrecord⟩ :=
    textRecord_widened "struct LatestVersions" (by decide) h hlimit rest
  have hrelease : draft.get "release" = latest.release := hdraft "release" (by decide)
  have hsnapshot : draft.get "snapshot" = latest.snapshot := hdraft "snapshot" (by decide)
  show (record _ (["release", "snapshot"].map textField) limit [] _).map _ = _
  rw [hrecord]
  simp only [Except.map, hrelease, hsnapshot]

/-- Where `null` is allowed, they are read all the same. -/
theorem nullable_latestAs {latest : LatestVersions} {v : Value} (h : LatestAs latest v)
    {limit : Nat} (hlimit : v.compact.length < limit) (rest : List Char) :
    nullable (LatestVersions.read limit) (v.compact ++ rest) = .ok (some latest, rest) := by
  have hread := read_latestAs h hlimit rest
  cases h with
  | intro extra hextra hperm =>
    rw [compact_object, List.cons_append] at hread ⊢
    show (LatestVersions.read limit _).map _ = _
    rw [hread]
    rfl

/-! ### Manifests -/

/-- The members of the document of a manifest. -/
def manifestMembers (latest : Option Value) (versions : List Value) : List (String × Value) :=
  latest.elim [("versions", .array versions)] fun latest =>
    [("latest", latest), ("versions", .array versions)]

/-- A document that says what a manifest says: each of its objects may have its members in any
order, among members with other names. -/
inductive ManifestAs (m : VersionManifest) : Value → Prop where
  | intro {latest : Option Value} {versions : List Value} {v : Value}
      (hlatest : Option.Rel LatestAs m.latest latest)
      (hversions : List.Forall₂ DescriptorAs m.versions versions)
      (hwidens : Widens ["latest", "versions"] (.object (manifestMembers latest versions)) v) :
      ManifestAs m v

/-- The draft of a manifest with the given members. -/
def draftOf (m : VersionManifest) (seen : List String) : VersionManifest.Draft :=
  ⟨if "latest" ∈ seen then some m.latest else none,
    if "versions" ∈ seen then some m.versions else none⟩

/-- Once the newest versions were seen, they are in the draft. -/
theorem draftOf_latest (m : VersionManifest) (seen : List String) :
    draftOf m ("latest" :: seen) = { draftOf m seen with latest := some m.latest } := by
  simp [draftOf]

/-- Once the versions were seen, they are in the draft. -/
theorem draftOf_versions (m : VersionManifest) (seen : List String) :
    draftOf m ("versions" :: seen) = { draftOf m seen with versions := some m.versions } := by
  simp [draftOf]

/-- The members of a manifest are its versions and, if it has them, the newest ones. -/
theorem mem_manifestMembers {latest : Option Value} {versions : List Value} {k : String × Value}
    (h : k ∈ manifestMembers latest versions) :
    k = ("versions", .array versions) ∨ ∃ l, latest = some l ∧ k = ("latest", l) := by
  cases latest with
  | none => exact .inl (List.mem_singleton.mp h)
  | some l =>
    rcases List.mem_cons.mp h with rfl | h
    · exact .inr ⟨l, rfl, rfl⟩
    · exact .inl (List.mem_singleton.mp h)

/-- A manifest has its versions as a member. -/
theorem versions_mem (latest : Option Value) (versions : List Value) :
    ("versions", .array versions) ∈ manifestMembers latest versions := by
  cases latest with
  | none => exact List.mem_singleton_self _
  | some l => exact List.mem_cons_of_mem _ (List.mem_singleton_self _)

/-- The descriptors of a list are read back. -/
theorem forall₂_read {versions : List VersionDescriptor} {values : List Value}
    (h : List.Forall₂ DescriptorAs versions values) {limit : Nat}
    (hlimit : ∀ v ∈ values, v.compact.length < limit) :
    List.Forall₂ (fun d v => ∀ rest, EndsValue rest →
      VersionDescriptor.read limit (v.compact ++ rest) = .ok (d, rest)) versions values := by
  induction h with
  | nil => exact .nil
  | cons hd _ ih =>
    obtain ⟨hlength, hlengths⟩ := List.forall_mem_cons.mp hlimit
    exact .cons (fun rest _ => read_descriptorAs hd hlength rest) (ih hlengths)

/-- The members of a manifest are read into the draft. -/
theorem readsMembers_manifest {m : VersionManifest} {latest : Option Value} {versions : List Value}
    (hlatest : Option.Rel LatestAs m.latest latest)
    (hversions : List.Forall₂ DescriptorAs m.versions versions) {limit : Nat}
    (hlimit : ∀ k ∈ manifestMembers latest versions, k.2.compact.length < limit) :
    ReadsMembers VersionManifest.fields limit (manifestMembers latest versions) (draftOf m) where
  nodup := by cases latest <;> simp [manifestMembers]
  member := by
    intro k hk
    have hlength := hlimit k hk
    -- Either field is empty in the draft until its name was seen.
    rcases mem_manifestMembers hk with rfl | ⟨l, rfl, rfl⟩
    · refine ⟨_, rfl, fun seen hseen => ?_, fun seen rest _ => ?_⟩
      · show (if "versions" ∈ seen then some m.versions else none).isSome = false
        rw [if_neg hseen]
        rfl
      · have hlist : listOf limit (VersionDescriptor.read limit)
            ((Value.array versions).compact ++ rest) = .ok (m.versions, rest) := by
          refine listOf_written (forall₂_read hversions fun v hv => ?_) hlength rest
          exact Nat.lt_trans (length_lt_array hv) hlength
        show (listOf limit (VersionDescriptor.read limit) _).map _ = _
        rw [hlist, draftOf_versions]
        rfl
    · refine ⟨_, rfl, fun seen hseen => ?_, fun seen rest _ => ?_⟩
      · show (if "latest" ∈ seen then some m.latest else none).isSome = false
        rw [if_neg hseen]
        rfl
      · obtain ⟨newest, hnewest, hl⟩ : ∃ newest, m.latest = some newest ∧ LatestAs newest l := by
          generalize m.latest = latest at hlatest
          cases hlatest with
          | some hl => exact ⟨_, rfl, hl⟩
        show (nullable (LatestVersions.read limit) _).map _ = _
        rw [nullable_latestAs hl hlength, draftOf_latest, hnewest]
        rfl
  complete := by
    intro seen hseen
    have hmem : "versions" ∈ seen := hseen _ (versions_mem latest versions)
    have hset : (draftOf m seen).versions.isSome = true := by
      show (if "versions" ∈ seen then some m.versions else none).isSome = true
      rw [if_pos hmem]
      rfl
    simp [VersionManifest.fields, hset]

/-- A manifest is read from every value that shows it, also with more members and in another order.
-/
theorem read_manifestAs {m : VersionManifest} {v : Value} (h : ManifestAs m v) {limit : Nat}
    (hlimit : v.compact.length < limit) (rest : List Char) :
    VersionManifest.read limit (v.compact ++ rest) = .ok (m, rest) := by
  cases h with
  | @intro latest versions _ hlatest hversions hwidens =>
    have hlengths : ∀ k ∈ manifestMembers latest versions, k.2.compact.length < limit :=
      fun k hk => Nat.lt_trans (length_lt_of_widens hwidens hk) hlimit
    have hreads := readsMembers_manifest hlatest hversions hlengths
    obtain ⟨seen, hseen, hrecord⟩ :=
      record_widened "struct VersionManifest" hreads hwidens hlimit rest
    show (record _ VersionManifest.fields limit (draftOf m []) _).map _ = _
    have hnewest : (draftOf m seen).latest.getD none = m.latest := by
      show (if "latest" ∈ seen then some m.latest else none).getD none = m.latest
      split
      · rfl
      · -- The name was not seen, so the document has no such member and the manifest lacks it.
        rename_i hmissing
        generalize m.latest = newest at hlatest
        cases hlatest with
        | none => rfl
        | some hl => exact absurd (hseen _ List.mem_cons_self) hmissing
    have hlisted : (draftOf m seen).versions.getD [] = m.versions := by
      show (if "versions" ∈ seen then some m.versions else none).getD [] = m.versions
      rw [if_pos (hseen _ (versions_mem latest versions))]
      rfl
    rw [hrecord]
    simp only [Except.map, hnewest, hlisted]

/-- A manifest is read from each document that says what it says. -/
theorem ofText_manifestAs {m : VersionManifest} {v : Value} (h : ManifestAs m v) :
    VersionManifest.ofText v.text = .ok m := by
  have htext : v.text.toList = v.compact := String.toList_ofList
  have hread := read_manifestAs h (Nat.lt_succ_self v.compact.length) []
  refine whole_written ?_
  rw [htext]
  rwa [List.append_nil] at hread

/-- An object without further members is among those with more. -/
theorem widens_self (names : List String) (members : List (String × Value)) :
    Widens names (.object members) (.object members) := by
  refine .intro [] (fun _ hm => absurd hm List.not_mem_nil) ?_
  rw [List.append_nil]

/-- The document of a manifest says what the manifest says. -/
theorem manifestAs_value (m : VersionManifest) : ManifestAs m m.value := by
  have hlatest : Option.Rel LatestAs m.latest (m.latest.map LatestVersions.value) := by
    cases m.latest with
    | none => exact .none
    | some latest => exact .some (widens_self _ _)
  have hversions : List.Forall₂ DescriptorAs m.versions
      (m.versions.map VersionDescriptor.value) := by
    rw [List.forall₂_map_right_iff, List.forall₂_same]
    exact fun d _ => widens_self _ _
  have hvalue : m.value = .object (manifestMembers (m.latest.map LatestVersions.value)
      (m.versions.map VersionDescriptor.value)) := by
    unfold VersionManifest.value manifestMembers
    cases m.latest <;> rfl
  rw [hvalue]
  exact .intro hlatest hversions (widens_self _ _)

/-- The text that lists versions is the text of a manifest without newest versions. -/
theorem manifestText_eq_text (entries : List (String × String × String)) :
    manifestText entries =
      VersionManifest.text ⟨none, entries.map fun (id, kind, url) => ⟨id, kind, url⟩⟩ := by
  unfold manifestText VersionManifest.text VersionManifest.value
  simp only [List.map_map]
  rfl

/-- A manifest is read back from its own text and from the text of every other document that says
what it says. The text that lists the ids, kinds and addresses of versions is read as the manifest
with these versions. -/
theorem ofText_text :
    (∀ m : VersionManifest, VersionManifest.ofText m.text = .ok m ∧
      ∀ v, ManifestAs m v → VersionManifest.ofText v.text = .ok m) ∧
    ∀ entries : List (String × String × String),
      VersionManifest.ofText (manifestText entries) =
        .ok ⟨none, entries.map fun (id, kind, url) => ⟨id, kind, url⟩⟩ := by
  refine ⟨fun m => ⟨ofText_manifestAs (manifestAs_value m), fun v hv => ofText_manifestAs hv⟩,
    fun entries => ?_⟩
  rw [manifestText_eq_text]
  exact ofText_manifestAs (manifestAs_value _)

/-- A manifest with newest versions. -/
def newestSample : VersionManifest :=
  ⟨some ⟨"1.13", "18w30a"⟩, [⟨"1.13", "release", "B"⟩]⟩

/-- A document of it, with members in other orders and with a member more in two of its objects. -/
def reorderedSample : Value :=
  .object [
    ("versions", .array [.object [("url", .string "B"), ("time", .array [.null, .object []]),
      ("id", .string "1.13"), ("type", .string "release")]]),
    ("", .number (.negative 1)),
    ("latest", .object [("snapshot", .string "18w30a"), ("release", .string "1.13")])]

/-- The sample is read from its members in another order. -/
theorem ofText_reorderedSample : ManifestAs newestSample reorderedSample ∧
    VersionManifest.ofText reorderedSample.text = .ok newestSample := by
  have hlatest : LatestAs ⟨"1.13", "18w30a"⟩
      (.object [("snapshot", .string "18w30a"), ("release", .string "1.13")]) :=
    .intro [] (fun _ hm => absurd hm List.not_mem_nil) (.swap _ _ [])
  have hversion : DescriptorAs ⟨"1.13", "release", "B"⟩
      (.object [("url", .string "B"), ("time", .array [.null, .object []]),
        ("id", .string "1.13"), ("type", .string "release")]) :=
    .intro [("time", .array [.null, .object []])] (by decide)
      (@List.perm_append_comm _ [_, _] [_, _])
  have h : ManifestAs newestSample reorderedSample :=
    .intro (.some hlatest) (.cons hversion .nil)
      (.intro [("", .number (.negative 1))] (by decide)
        (@List.perm_append_comm _ [_, _] [_]))
  exact ⟨h, (ofText_text.1 newestSample).2 reorderedSample h⟩

end ModBuild.Proofs.Version
