import ModBuild.Proofs.Registry.Memory

/-!
# `ModBuild.Proofs.Registry.Requests`: what is asked for to have the document of a version

The document of the version that a context is configured for takes two loads, one after the other,
and each sends at most one request. This module says which requests these are, in which order, and
what must have succeeded before each.

* `versionManifest_asks`: the first load asks for the address of the manifest, or for nothing.
* `versionMetadata_follows`: the second load asks for the address in the first descriptor of the
  version, just as the manifest has it, once all else is settled.
* `versionMetadata_asks`: the two together, and where the copy of the document is kept.
-/

set_option autoImplicit false

namespace ModBuild.Proofs.Registry

open ModBuild ModBuild.Registry ModBuild.Proofs.Documents ModBuild.Proofs.Template

variable {r r' : Registry} {c : Context} {site left : Site}

/-- What comes of a call for the manifest of a context. -/
structure AsksForManifest (r : Registry) (site : Site) (c : Context)
    (outcome : Registry × Site × Except BuildError (Document VersionManifest)) : Prop where
  /-- Nothing is done where the manifest is there. -/
  there : ∀ document, (r.stateOf c).manifest = some document → outcome = (r, site, .ok document)
  /-- Nothing is asked for without an address. -/
  noUrl : ∀ e, (r.stateOf c).manifest = none → r.resolveUrl c r.manifestUrl = .error e →
    outcome = (r, site, .error e)
  /-- Nothing is asked for without a path for the copy. -/
  noPath : ∀ url e, (r.stateOf c).manifest = none → r.resolveUrl c r.manifestUrl = .ok url →
    r.resolvePath c manifestLocation = .error e → outcome = (r, site, .error e)
  /-- Otherwise the address is asked for once, and the manifest is loaded from there. -/
  once : ∀ url path, (r.stateOf c).manifest = none → r.resolveUrl c r.manifestUrl = .ok url →
    r.resolvePath c manifestLocation = .ok path →
    outcome.2 = site.load VersionManifest.ofText url.text path ∧
      outcome.2.1.network.requests = site.network.requests ++ [url.text]

/-- A load asks for its address. -/
theorem load_requests {α : Type} (read : String → Except String α) (site : Site)
    (url path : String) :
    (site.load read url path).1.network.requests = site.network.requests ++ [url] := by
  rw [load_network]
  rfl

/-- The manifest is asked for once, at its place, if it is not there. -/
theorem versionManifest_asks (r : Registry) (site : Site) (c : Context) :
    AsksForManifest r site c (r.versionManifest site c) := by
  have hplace := manifestPlace_eq r c
  constructor
  · intro document hthere
    exact versionManifest_of_there hthere site
  · intro e hempty hurl
    rw [hurl] at hplace
    exact versionManifest_of_noPlace hempty hplace site
  · intro url e hempty hurl hpath
    rw [hurl, hpath] at hplace
    exact versionManifest_of_noPlace hempty hplace site
  · intro url path hempty hurl hpath
    rw [hurl, hpath] at hplace
    rw [versionManifest_of_place hempty hplace site]
    exact ⟨rfl, load_requests _ site url.text path⟩

/-- What comes of a call for the document of a version, given what came of the call for the manifest
before. The replacements are those of the registry in which both calls are made. -/
structure FollowsManifest (r : Registry) (c : Context) (version : String)
    (first : Registry × Site × Except BuildError (Document VersionManifest))
    (outcome : Registry × Site × Except BuildError (Document VersionMetadata)) : Prop where
  /-- Without the manifest its failure stands. -/
  noManifest : ∀ r' left e, first = (r', left, .error e) → outcome = (r', left, .error e)
  /-- Nothing is asked for if the version is not listed. -/
  unlisted : ∀ r' left manifest, first = (r', left, .ok manifest) →
    (∀ descriptor ∈ manifest.value.versions, descriptor.id ≠ version) →
    ∃ similar, outcome = (r', left, .error (.unknownVersion version similar))
  /-- Nothing is asked for without a path for the copy. -/
  noPath : ∀ r' left manifest descriptor e, first = (r', left, .ok manifest) →
    descriptor ∈ manifest.value.versions → descriptor.id = version →
    Template.expand (r.table c) ("@CACHE_DIR@/versions/" ++ version ++ "/version.json") =
      .error e →
    outcome = (r', left, .error e)
  /-- Otherwise the address in the first descriptor of the version is asked for once, and the
  document is loaded from there. -/
  once : ∀ r' left manifest before descriptor after path, first = (r', left, .ok manifest) →
    manifest.value.versions = before ++ descriptor :: after → descriptor.id = version →
    (∀ other ∈ before, other.id ≠ version) →
    Template.expand (r.table c) ("@CACHE_DIR@/versions/" ++ version ++ "/version.json") =
      .ok path →
    outcome.2 = left.load metadataOfText descriptor.url path ∧
      outcome.2.1.network.requests = left.network.requests ++ [descriptor.url] ∧
      ∀ document, outcome.2.2 = .ok document → document.path = path

/-- A version is not found in a manifest exactly if no descriptor has its id. -/
theorem find?_eq_none_iff {manifest : VersionManifest} {version : String} :
    manifest.find? version = none ↔
      ∀ descriptor ∈ manifest.versions, descriptor.id ≠ version := by
  simp [VersionManifest.find?, List.find?_eq_none]

/-- The descriptor that counts is the first one of the version. -/
theorem find?_of_first {manifest : VersionManifest} {version : String}
    {before after : List VersionDescriptor} {descriptor : VersionDescriptor}
    (hlist : manifest.versions = before ++ descriptor :: after) (hid : descriptor.id = version)
    (hfirst : ∀ other ∈ before, other.id ≠ version) :
    manifest.find? version = some descriptor := by
  refine List.find?_eq_some_iff_append.mpr ⟨by simpa using hid, before, after, hlist, ?_⟩
  intro other hother
  simpa using hfirst other hother

/-- To have the manifest leaves the replacements as they are. -/
theorem resolvePath_of_versionManifest_ok {manifest : Document VersionManifest}
    (h : r.versionManifest site c = (r', left, .ok manifest)) (template : String) :
    r'.resolvePath c template = Template.expand (r.table c) template := by
  rw [resolvePath, table, stateOf_of_versionManifest_ok h]
  rfl

/-- The document of a version is asked for behind the manifest. -/
theorem versionMetadata_follows {i : Instance} (hempty : (r.stateOf c).metadata = none)
    (hplugin : (r.stateOf c).plugin = some i) :
    FollowsManifest r c i.extension.version (r.versionManifest site c)
      (r.versionMetadata site c) := by
  constructor
  · intro r' left e hmanifest
    exact versionMetadata_of_noManifest hempty hplugin hmanifest
  · intro r' left manifest hmanifest hunlisted
    have hplace := metadataPlace_eq r' c manifest.value i.extension.version
    rw [find?_eq_none_iff.mpr hunlisted] at hplace
    exact ⟨_, versionMetadata_of_noPlace hempty hplugin hmanifest hplace⟩
  · intro r' left manifest descriptor e hmanifest hmem hid hpath
    have hcopy : r'.resolvePath c (metadataLocation i.extension.version) = .error e :=
      -- The manifest is stored by now, and the table that the path depends on is as before.
      (resolvePath_of_versionManifest_ok hmanifest _).trans hpath
    apply versionMetadata_of_noPlace hempty hplugin hmanifest
    rw [metadataPlace_eq, hcopy]
    cases hfind : manifest.value.find? i.extension.version with
    | none => exact absurd hid (find?_eq_none_iff.mp hfind descriptor hmem)
    | some found => rfl
  · intro r' left manifest before descriptor after path hmanifest hlist hid hfirst hpath
    have hcopy : r'.resolvePath c (metadataLocation i.extension.version) = .ok path :=
      (resolvePath_of_versionManifest_ok hmanifest _).trans hpath
    have hplace : r'.metadataPlace c manifest.value i.extension.version =
        .ok (descriptor.url, path) :=
      metadataPlace_eq_ok_iff.mpr ⟨⟨descriptor, find?_of_first hlist hid hfirst, rfl⟩, hcopy⟩
    rw [versionMetadata_of_place hempty hplugin hmanifest hplace]
    exact ⟨rfl, load_requests _ left descriptor.url path,
      fun document hdocument => path_of_load (Prod.ext rfl hdocument)⟩

/-- What is asked for when the document of a version is not there. Without an instance it is
nothing. Otherwise the manifest comes first and the document follows. If the version has no tokens,
the path of the copy is the cache directory followed by the segments for that version, whatever
replacement the token for the version has. -/
theorem versionMetadata_asks (r : Registry) (site : Site) (c : Context)
    (hempty : (r.stateOf c).metadata = none) :
    ((r.stateOf c).plugin = none →
      r.versionMetadata site c = (r, site, .error .notInitialized)) ∧
    ∀ i version, (r.stateOf c).plugin = some i → i.extension.version = version →
      AsksForManifest r site c (r.versionManifest site c) ∧
      FollowsManifest r c version (r.versionManifest site c) (r.versionMetadata site c) ∧
      (TokenFree version.toList → ∀ path,
        Template.expand (r.table c) ("@CACHE_DIR@/versions/" ++ version ++ "/version.json") =
          .ok path ↔
        ∃ dir, Template.expand (r.table c) "@CACHE_DIR@" = .ok dir ∧
          path = dir ++ "/versions/" ++ version ++ "/version.json") := by
  constructor
  · intro hplugin
    exact versionMetadata_of_noInstance hempty hplugin site
  · rintro i _ hplugin rfl
    exact ⟨versionManifest_asks r site c, versionMetadata_follows hempty hplugin,
      fun hfree _ => expand_metadataLocation_iff (r.table c) hfree⟩

/-- A build of version 1 in which the token for the version has another replacement. -/
def otherToken : Registry :=
  (run versionOne servesNothing [⟨id, ⟨"build"⟩, .add "@MC_VERSION@" "9"⟩]).1

/-- A site where version 1 is listed twice. -/
def servesTwice : Site :=
  ⟨FileTree.empty, [], .ofPages
    [("http://[::1]/m", manifestText
      [("1", "release", "u:1"), ("1", "snapshot", "u:2")]),
      ("u:1", "\x7b\x7d")] true⟩

/-- The first descriptor of version 1 says where its document is, and the token for the version has
no say in where the copy is kept. -/
theorem otherToken_asks :
    (otherToken.stateOf ⟨"build"⟩).metadata = none ∧
      (otherToken.versionMetadata servesTwice ⟨"build"⟩).2.1.network.requests =
        ["http://[::1]/m", "u:1"] ∧
      ∀ document, (otherToken.versionMetadata servesTwice ⟨"build"⟩).2.2 = .ok document →
        document.path = "cache/versions/1/version.json" := by
  have hempty : (otherToken.stateOf ⟨"build"⟩).metadata = none := by rfl
  have hplugin : (otherToken.stateOf ⟨"build"⟩).plugin =
      some (.ofDirs (.ofVersion "1") "" "cache") := by rfl
  have hmanifest : (otherToken.stateOf ⟨"build"⟩).manifest = none := by rfl
  have htext : (otherToken.resolveUrl ⟨"build"⟩ otherToken.manifestUrl).toOption.map (·.text) =
      some "http://[::1]/m" := by decide +kernel
  have hcopy : otherToken.resolvePath ⟨"build"⟩ manifestLocation =
      .ok "cache/version_manifest.json" := by decide +kernel
  have hdir : Template.expand (otherToken.table ⟨"build"⟩) "@CACHE_DIR@" = .ok "cache" := by
    decide +kernel
  have hlist : (otherToken.versionManifest servesTwice ⟨"build"⟩).2.2.toOption.map
      (·.value.versions) = some ([] ++ ⟨"1", "release", "u:1"⟩ :: [⟨"1", "snapshot", "u:2"⟩]) := by
    decide +kernel
  obtain ⟨-, hcalls⟩ := versionMetadata_asks otherToken servesTwice ⟨"build"⟩ hempty
  obtain ⟨hfirst, hsecond, hpath⟩ := hcalls _ "1" hplugin rfl
  refine ⟨hempty, ?_⟩
  cases hurl : otherToken.resolveUrl ⟨"build"⟩ otherToken.manifestUrl with
  | error e =>
    rw [hurl] at htext
    cases htext
  | ok url =>
    rw [hurl] at htext
    have hname : url.text = "http://[::1]/m" := Option.some.inj htext
    -- The first request is for the manifest.
    obtain ⟨-, hasked⟩ := hfirst.once url _ hmanifest hurl hcopy
    rcases hcall : otherToken.versionManifest servesTwice ⟨"build"⟩ with ⟨r', left, e | manifest⟩
    · rw [hcall] at hlist
      cases hlist
    · rw [hcall] at hlist hasked
      -- The second one is for the document, of which the copy has a path.
      have hmirror := (hpath (tokenFree_of_not_mem (by decide)) _).mpr ⟨"cache", hdir, rfl⟩
      obtain ⟨-, hthen, hat⟩ := hsecond.once r' left manifest _ _ _ _ hcall
        (Option.some.inj hlist) rfl (by simp) hmirror
      refine ⟨?_, hat⟩
      rw [hthen, hasked, hname]
      rfl

end ModBuild.Proofs.Registry
