import ModBuild.Proofs.Template.Separator
import ModBuild.Registry.Operation

/-!
# `ModBuild.Proofs.Registry.Loads`: how a context comes to its documents

A document of a context is there already, or it is loaded, in steps of which each can fail.
`ManifestRun` and `MetadataRun` have one case for each way that this can go, with all that is known
in that case, and what is shown of loads elsewhere is shown by these cases.

* `versionManifest_run` and `versionMetadata_run`: one of the cases applies.
* `versionManifest_of_there` and its siblings, and those of `versionMetadata_of_there`: what the
  outcome is when it is known how far the load gets.
* `expand_metadataLocation_iff`: the path of the copy for a version without tokens is the cache
  directory followed by two segments for the version.
* `versionManifest_ok` and `versionManifest_error`: what is stored afterwards.
* `versionManifest_of_absent` and `versionMetadata_of_absent`: where nothing is stored for a
  context, nothing can be loaded for it.
-/

set_option autoImplicit false

namespace ModBuild.Proofs.Registry

open ModBuild ModBuild.Registry ModBuild.Proofs.Template

variable {r r' : Registry} {c d : Context} {site left : Site}

/-! ### States after a change -/

/-- A context has the state that was put there. -/
theorem stateOf_put (r : Registry) (c : Context) (state : ContextState) :
    (r.put c state).stateOf c = state := by
  simp [stateOf, put]

/-- A state is there once it was put there. -/
theorem state?_put_self (r : Registry) (c : Context) (state : ContextState) :
    (r.put c state).state? c = some state := by
  simp [put]

/-- To put a state leaves the other contexts. -/
theorem state?_put_of_ne (r : Registry) (state : ContextState) (h : d ≠ c) :
    (r.put c state).state? d = r.state? d := by
  simp [put, h]

/-- A reset leaves the other contexts. -/
theorem state?_reset_of_ne (r : Registry) (h : d ≠ c) :
    (r.reset c).1.state? d = r.state? d := by
  simp [reset, h]

/-- What is stored for a context decides its state. -/
theorem stateOf_congr (h : r'.state? c = r.state? c) : r'.stateOf c = r.stateOf c := by
  rw [stateOf, stateOf, h]

/-- A context has the state that is stored for it. -/
theorem stateOf_of_some {state : ContextState} (h : r.state? c = some state) :
    r.stateOf c = state := by
  rw [stateOf, h, Option.getD_some]

/-- A context without a state is empty. -/
theorem stateOf_of_none (h : r.state? c = none) : r.stateOf c = .empty := by
  rw [stateOf, h, Option.getD_none]

/-! ### Where documents are -/

/-- Asking for the instance gives the one that the context has. -/
theorem getInstance_eq_ok_iff {i : Instance} :
    r.getInstance c = .ok i ↔ (r.stateOf c).plugin = some i := by
  unfold getInstance
  cases (r.stateOf c).plugin <;> simp

/-- Asking for the instance fails where there is none. -/
theorem getInstance_of_none (h : (r.stateOf c).plugin = none) :
    r.getInstance c = .error .notInitialized := by
  simp only [getInstance, h]

/-- The address of the manifest is resolved before the path of its copy. -/
theorem manifestPlace_eq (r : Registry) (c : Context) :
    r.manifestPlace c = (r.resolveUrl c r.manifestUrl).bind fun address =>
      (r.resolvePath c manifestLocation).map (address.text, ·) := by
  unfold manifestPlace
  cases r.resolveUrl c r.manifestUrl with
  | error e => rfl
  | ok address => cases r.resolvePath c manifestLocation <;> rfl

/-- The manifest has a place only if the path of its copy expands. -/
theorem path_of_manifestPlace {url path : String} (h : r.manifestPlace c = .ok (url, path)) :
    r.resolvePath c manifestLocation = .ok path := by
  rw [manifestPlace_eq] at h
  cases hurl : r.resolveUrl c r.manifestUrl with
  | error e =>
    rw [hurl] at h
    cases h
  | ok address =>
    cases hpath : r.resolvePath c manifestLocation with
    | error e =>
      rw [hurl, hpath] at h
      cases h
    | ok text =>
      rw [hurl, hpath] at h
      cases h
      rfl

/-- The manifest is searched before the path of the copy is expanded. -/
theorem metadataPlace_eq (r : Registry) (c : Context) (manifest : VersionManifest)
    (version : String) :
    r.metadataPlace c manifest version =
      match manifest.find? version with
      | none => .error (.unknownVersion version (Template.similarNames version manifest.ids))
      | some descriptor =>
        (r.resolvePath c (metadataLocation version)).map (descriptor.url, ·) := by
  unfold metadataPlace VersionManifest.require
  cases manifest.find? version with
  | none => rfl
  | some descriptor =>
    cases r.resolvePath c (metadataLocation version) <;> rfl

/-- A version has a place if the manifest lists it and the path of the copy expands. -/
theorem metadataPlace_eq_ok_iff {manifest : VersionManifest} {version url path : String} :
    r.metadataPlace c manifest version = .ok (url, path) ↔
      (∃ descriptor, manifest.find? version = some descriptor ∧ descriptor.url = url) ∧
        r.resolvePath c (metadataLocation version) = .ok path := by
  rw [metadataPlace_eq]
  cases manifest.find? version with
  | none => simp
  | some descriptor =>
    cases r.resolvePath c (metadataLocation version) <;> simp [Except.map]

/-- Where the copy of a version's document is kept, if the version has no tokens. -/
theorem expand_metadataLocation_iff (table : Template.Table) {version path : String}
    (h : TokenFree version.toList) :
    Template.expand table (metadataLocation version) = .ok path ↔
      ∃ dir, Template.expand table "@CACHE_DIR@" = .ok dir ∧
        path = dir ++ "/versions/" ++ version ++ "/version.json" := by
  -- The segments behind the cache directory have no tokens, from the last one to the first.
  have hfile : TokenFree "version.json".toList := tokenFree_of_not_mem (by decide)
  have hversion := (tokenFree_append_separator_iff isSeparator_slash).mpr ⟨h, hfile⟩
  have hfolder : TokenFree "versions".toList := tokenFree_of_not_mem (by decide)
  have htail := (tokenFree_append_separator_iff isSeparator_slash).mpr ⟨hfolder, hversion⟩
  have htext : "/versions/" ++ version ++ "/version.json" =
      String.ofList ('/' :: ("versions".toList ++ '/' :: (version.toList ++
        '/' :: "version.json".toList))) := by
    rw [← String.toList_inj]
    simp only [String.toList_append, String.toList_ofList]
    rfl
  have hlocation : metadataLocation version =
      "@CACHE_DIR@" ++ ("/versions/" ++ version ++ "/version.json") := by
    have hfront : "@CACHE_DIR@/versions/" = "@CACHE_DIR@" ++ "/versions/" := by decide
    unfold metadataLocation
    simp only [hfront, String.append_assoc]
  rw [hlocation, htext, expand_append_tail_iff isSeparator_slash table _ htail, ← htext]
  simp only [String.append_assoc]

/-! ### Loading the manifest -/

/-- The ways in which the manifest of a context is had. -/
inductive ManifestRun (r : Registry) (site : Site) (c : Context) :
    Registry × Site × Except BuildError (Document VersionManifest) → Prop where
  | there {document : Document VersionManifest} (hthere : (r.stateOf c).manifest = some document) :
      ManifestRun r site c (r, site, .ok document)
  | noPlace {e : BuildError} (hempty : (r.stateOf c).manifest = none)
      (hplace : r.manifestPlace c = .error e) : ManifestRun r site c (r, site, .error e)
  | notLoaded {url path : String} {left : Site} {e : BuildError}
      (hempty : (r.stateOf c).manifest = none) (hplace : r.manifestPlace c = .ok (url, path))
      (hload : site.load VersionManifest.ofText url path = (left, .error e)) :
      ManifestRun r site c (r, left, .error e)
  | loaded {url path : String} {left : Site} {document : Document VersionManifest}
      (hempty : (r.stateOf c).manifest = none) (hplace : r.manifestPlace c = .ok (url, path))
      (hload : site.load VersionManifest.ofText url path = (left, .ok document)) :
      ManifestRun r site c
        (r.put c { r.stateOf c with manifest := some document }, left, .ok document)

/-- The manifest is there already, or has no place, or is loaded from its place. -/
theorem versionManifest_run (r : Registry) (site : Site) (c : Context) :
    ManifestRun r site c (r.versionManifest site c) := by
  unfold versionManifest
  cases hslot : (r.stateOf c).manifest with
  | some document => exact .there hslot
  | none =>
    rcases hplace : r.manifestPlace c with e | ⟨url, path⟩
    · exact .noPlace hslot hplace
    · rcases hload : site.load VersionManifest.ofText url path with ⟨left, e | document⟩
      · simp only [hload]
        exact .notLoaded hslot hplace hload
      · simp only [hload]
        exact .loaded hslot hplace hload

/-- A manifest that is there is not loaded again. -/
theorem versionManifest_of_there {document : Document VersionManifest}
    (h : (r.stateOf c).manifest = some document) (site : Site) :
    r.versionManifest site c = (r, site, .ok document) := by
  simp only [versionManifest, h]

/-- Without a place the manifest is not asked for. -/
theorem versionManifest_of_noPlace {e : BuildError} (hempty : (r.stateOf c).manifest = none)
    (hplace : r.manifestPlace c = .error e) (site : Site) :
    r.versionManifest site c = (r, site, .error e) := by
  simp only [versionManifest, hempty, hplace]

/-- A manifest that is not there is loaded from its place. -/
theorem versionManifest_of_place {url path : String} (hempty : (r.stateOf c).manifest = none)
    (hplace : r.manifestPlace c = .ok (url, path)) (site : Site) :
    (r.versionManifest site c).2 = site.load VersionManifest.ofText url path := by
  rcases hload : site.load VersionManifest.ofText url path with ⟨left, e | document⟩ <;>
    simp only [versionManifest, hempty, hplace, hload]

/-- The template for the manifest's copy names the cache directory, which needs a replacement. -/
theorem expand_empty_manifestLocation :
    ∃ e, Template.expand .empty manifestLocation = .error e := by
  have hletters : IsTokenLetters "CACHE_DIR".toList := by
    simp [IsTokenLetters, Template.isNameLetter]
  have hsplit : manifestLocation.toList =
      Template.tokenText "CACHE_DIR".toList ++ "/version_manifest.json".toList := by rfl
  have hmem : .token "CACHE_DIR".toList ∈ Template.pieces manifestLocation.toList := by
    rw [hsplit, pieces_tokenText_append hletters]
    exact List.mem_cons_self
  exact expand_of_unregistered hmem rfl

/-- The manifest has a place only where something is stored for the context. -/
theorem exists_state_of_manifestPlace {place : String × String}
    (h : r.manifestPlace c = .ok place) : ∃ state, r.state? c = some state := by
  cases hstate : r.state? c with
  | some state => exact ⟨state, rfl⟩
  | none =>
    have hpath : r.resolvePath c manifestLocation = .ok place.2 := path_of_manifestPlace h
    have hempty : r.table c = .empty := by
      rw [table, stateOf_of_none hstate]
      rfl
    obtain ⟨e, hfails⟩ := expand_empty_manifestLocation
    rw [resolvePath, hempty, hfails] at hpath
    cases hpath

/-- After the manifest was had, it is what is stored, and nothing else has changed. -/
theorem versionManifest_ok {document : Document VersionManifest}
    (h : r.versionManifest site c = (r', left, .ok document)) :
    (r.stateOf c).manifest = some document ∧ r' = r ∧ left = site ∨
      ∃ state, r.state? c = some state ∧ state.manifest = none ∧
        r' = r.put c { state with manifest := some document } := by
  have hrun := versionManifest_run r site c
  rw [h] at hrun
  cases hrun with
  | there hthere => exact .inl ⟨hthere, rfl, rfl⟩
  | loaded hempty hplace hload =>
    obtain ⟨state, hstate⟩ := exists_state_of_manifestPlace hplace
    rw [stateOf_of_some hstate] at *
    exact .inr ⟨state, hstate, hempty, rfl⟩

/-- A manifest that was loaded is stored, and nothing else is. -/
theorem stateOf_of_versionManifest_ok {document : Document VersionManifest}
    (h : r.versionManifest site c = (r', left, .ok document)) :
    r'.stateOf c = { r.stateOf c with manifest := some document } := by
  rcases versionManifest_ok h with ⟨hthere, rfl, -⟩ | ⟨state, hstate, -, rfl⟩
  · rw [← hthere]
  · rw [stateOf_put, stateOf_of_some hstate]

/-- To fail to load the manifest changes nothing of what is stored. -/
theorem versionManifest_error {e : BuildError}
    (h : r.versionManifest site c = (r', left, .error e)) : r' = r := by
  have hrun := versionManifest_run r site c
  rw [h] at hrun
  cases hrun with
  | noPlace => rfl
  | notLoaded => rfl

/-- Where nothing is stored for a context, its manifest cannot be loaded, and nothing is tried. -/
theorem versionManifest_of_absent (h : r.state? c = none) (site : Site) :
    ∃ e, r.versionManifest site c = (r, site, .error e) := by
  have hrun := versionManifest_run r site c
  generalize r.versionManifest site c = outcome at hrun
  cases hrun with
  | there hthere =>
    rw [stateOf_of_none h] at hthere
    cases hthere
  | noPlace hempty hplace => exact ⟨_, rfl⟩
  | notLoaded hempty hplace hload | loaded hempty hplace hload =>
    obtain ⟨state, hstate⟩ := exists_state_of_manifestPlace hplace
    rw [h] at hstate
    cases hstate

/-! ### Loading the document of a version -/

/-- The ways in which the document of the configured version is had. The manifest comes first, and
what was stored of it stays, also where the document is then not had. -/
inductive MetadataRun (r : Registry) (site : Site) (c : Context) :
    Registry × Site × Except BuildError (Document VersionMetadata) → Prop where
  | there {document : Document VersionMetadata} (hthere : (r.stateOf c).metadata = some document) :
      MetadataRun r site c (r, site, .ok document)
  | noInstance (hempty : (r.stateOf c).metadata = none)
      (hplugin : (r.stateOf c).plugin = none) :
      MetadataRun r site c (r, site, .error .notInitialized)
  | noManifest {i : Instance} {r' : Registry} {left : Site} {e : BuildError}
      (hempty : (r.stateOf c).metadata = none) (hplugin : (r.stateOf c).plugin = some i)
      (hmanifest : r.versionManifest site c = (r', left, .error e)) :
      MetadataRun r site c (r', left, .error e)
  | noPlace {i : Instance} {r' : Registry} {left : Site} {manifest : Document VersionManifest}
      {e : BuildError}
      (hempty : (r.stateOf c).metadata = none) (hplugin : (r.stateOf c).plugin = some i)
      (hmanifest : r.versionManifest site c = (r', left, .ok manifest))
      (hplace : r'.metadataPlace c manifest.value i.extension.version = .error e) :
      MetadataRun r site c (r', left, .error e)
  | notLoaded {i : Instance} {r' : Registry} {left last : Site}
      {manifest : Document VersionManifest} {url path : String} {e : BuildError}
      (hempty : (r.stateOf c).metadata = none) (hplugin : (r.stateOf c).plugin = some i)
      (hmanifest : r.versionManifest site c = (r', left, .ok manifest))
      (hplace : r'.metadataPlace c manifest.value i.extension.version = .ok (url, path))
      (hload : left.load metadataOfText url path = (last, .error e)) :
      MetadataRun r site c (r', last, .error e)
  | loaded {i : Instance} {r' : Registry} {left last : Site}
      {manifest : Document VersionManifest} {url path : String}
      {document : Document VersionMetadata}
      (hempty : (r.stateOf c).metadata = none) (hplugin : (r.stateOf c).plugin = some i)
      (hmanifest : r.versionManifest site c = (r', left, .ok manifest))
      (hplace : r'.metadataPlace c manifest.value i.extension.version = .ok (url, path))
      (hload : left.load metadataOfText url path = (last, .ok document)) :
      MetadataRun r site c
        (r'.put c { r'.stateOf c with metadata := some document }, last, .ok document)

/-- The document of a version is there already, or one of the steps towards it fails, or it is
loaded from its place. -/
theorem versionMetadata_run (r : Registry) (site : Site) (c : Context) :
    MetadataRun r site c (r.versionMetadata site c) := by
  unfold versionMetadata
  cases hslot : (r.stateOf c).metadata with
  | some document => exact .there hslot
  | none =>
    cases hplugin : (r.stateOf c).plugin with
    | none =>
      simp only [getInstance_of_none hplugin]
      exact .noInstance hslot hplugin
    | some i =>
      simp only [getInstance_eq_ok_iff.mpr hplugin]
      -- From here on there are two ways at each step: it fails with this outcome, or the next one
      -- is taken.
      rcases hmanifest : r.versionManifest site c with ⟨r', left, e | manifest⟩
      · exact .noManifest hslot hplugin hmanifest
      rcases hplace : r'.metadataPlace c manifest.value i.extension.version with e | ⟨url, path⟩
      · simp only [hplace]
        exact .noPlace hslot hplugin hmanifest hplace
      rcases hload : left.load metadataOfText url path with ⟨last, e | document⟩
      · simp only [hplace, hload]
        exact .notLoaded hslot hplugin hmanifest hplace hload
      · simp only [hplace, hload]
        exact .loaded hslot hplugin hmanifest hplace hload

/-- A document of a version that is there is not loaded again. -/
theorem versionMetadata_of_there {document : Document VersionMetadata}
    (h : (r.stateOf c).metadata = some document) (site : Site) :
    r.versionMetadata site c = (r, site, .ok document) := by
  simp only [versionMetadata, h]

/-- Without an instance no version is asked for. -/
theorem versionMetadata_of_noInstance (hempty : (r.stateOf c).metadata = none)
    (hplugin : (r.stateOf c).plugin = none) (site : Site) :
    r.versionMetadata site c = (r, site, .error .notInitialized) := by
  simp only [versionMetadata, hempty, getInstance_of_none hplugin]

/-- Where nothing is stored for a context, it has no version to load a document for. -/
theorem versionMetadata_of_absent (h : r.state? c = none) (site : Site) :
    r.versionMetadata site c = (r, site, .error .notInitialized) := by
  have hstate := stateOf_of_none h
  apply versionMetadata_of_noInstance
  · rw [hstate]
    rfl
  · rw [hstate]
    rfl

section Configured

variable {i : Instance} {manifest : Document VersionManifest} {e : BuildError}

/-- Without the manifest no version is asked for. -/
theorem versionMetadata_of_noManifest (hempty : (r.stateOf c).metadata = none)
    (hplugin : (r.stateOf c).plugin = some i)
    (hmanifest : r.versionManifest site c = (r', left, .error e)) :
    r.versionMetadata site c = (r', left, .error e) := by
  simp only [versionMetadata, hempty, getInstance_eq_ok_iff.mpr hplugin, hmanifest]

/-- A version that has no place in the manifest is not asked for. -/
theorem versionMetadata_of_noPlace (hempty : (r.stateOf c).metadata = none)
    (hplugin : (r.stateOf c).plugin = some i)
    (hmanifest : r.versionManifest site c = (r', left, .ok manifest))
    (hplace : r'.metadataPlace c manifest.value i.extension.version = .error e) :
    r.versionMetadata site c = (r', left, .error e) := by
  simp only [versionMetadata, hempty, getInstance_eq_ok_iff.mpr hplugin, hmanifest, hplace]

/-- The document of a version is loaded from the place that the manifest gives. -/
theorem versionMetadata_of_place {url path : String} (hempty : (r.stateOf c).metadata = none)
    (hplugin : (r.stateOf c).plugin = some i)
    (hmanifest : r.versionManifest site c = (r', left, .ok manifest))
    (hplace : r'.metadataPlace c manifest.value i.extension.version = .ok (url, path)) :
    (r.versionMetadata site c).2 = left.load metadataOfText url path := by
  have hinstance := getInstance_eq_ok_iff.mpr hplugin
  rcases hload : left.load metadataOfText url path with ⟨last, e | document⟩ <;>
    simp only [versionMetadata, hempty, hinstance, hmanifest, hplace, hload]

end Configured

end ModBuild.Proofs.Registry
