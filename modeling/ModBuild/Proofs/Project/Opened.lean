import ModBuild.Project.Opened
import ModBuild.Proofs.Files.Path
import ModBuild.Proofs.Files.Remove
import ModBuild.Proofs.Registry.Requests
import ModBuild.Proofs.Template.Segments
import ModBuild.Proofs.Template.Table

/-!
# `ModBuild.Proofs.Project.Opened`: where an open project keeps its documents

The commands on the copies take the paths from the replacements, where the version stands as a
token. A load writes the version into the template before it is expanded. Version and cache
directory may hold tokens themselves. The theorems:

* `fresh_of_at`: what is stored for a project after it was opened.
* `copyPath_eq`: the two ways to the path of the version's document agree wherever both lead to
  one. The first needs one pass more.
* `keepsAt_of_at`: so loads in the project use the paths that the commands name.
* `not_leadTogether_copyPaths`: the two paths never lead to one file.
* `at_of_settings` and `at_of_noSettings`: a project opens as before if its settings are still
  there, and else it does not.
-/

set_option autoImplicit false

namespace ModBuild.Proofs.Project

open ModBuild ModBuild.Proofs.Files ModBuild.Proofs.Registry ModBuild.Proofs.Template
open ModBuild.Template (expand)

/-! ### After a project was opened -/

/-- The context of a project has what its settings say, and no document is loaded. -/
structure Fresh (project : OpenProject) : Prop where
  version : valueOf? (project.registry.table project.context) "MC_VERSION".toList =
    some project.plugin.extension.version
  plugin : (project.registry.stateOf project.context).plugin = some project.plugin
  manifest : (project.registry.stateOf project.context).manifest = none
  metadata : (project.registry.stateOf project.context).metadata = none

/-- An instance that is applied where nothing was gives its replacements and nothing else. -/
theorem apply_empty {url : String} {c : Context} {i : Instance} {r : Registry}
    (h : (Registry.empty url).apply c i = .ok r) :
    ∃ table, Template.Table.empty.insertAll i.replacements = .ok table ∧
      r.stateOf c = ⟨table, some i, none, none⟩ := by
  unfold Registry.apply at h
  split at h
  · rename_i added hadd
    cases h
    unfold Registry.addAll at hadd
    split at hadd
    · rename_i table hinsert
      cases hadd
      refine ⟨table, hinsert, ?_⟩
      rw [Registry.setInstance, stateOf_put, stateOf_put]
      rfl
    · cases hadd
  · cases h

/-- The version of an instance is found under its token. -/
theorem valueOf?_version {table : Template.Table} {i : Instance}
    (h : Template.Table.empty.insertAll i.replacements = .ok table) :
    valueOf? table "MC_VERSION".toList = some i.extension.version := by
  have hfind := find?_insertAll h (String.ofList (Template.tokenText "MC_VERSION".toList))
  rw [valueOf?, hfind]
  rfl

/-- Setting a project up from its settings gives a fresh one. -/
theorem fresh_of_ofConfig {config : Config} {env : Environment} {dir : String}
    {project : OpenProject} (h : OpenProject.ofConfig config env dir = .ok project) :
    Fresh project := by
  unfold OpenProject.ofConfig at h
  split at h
  · cases h
  · rename_i plugin _
    split at h
    · cases h
    · rename_i registry happly
      cases h
      obtain ⟨table, hinsert, hstate⟩ := apply_empty happly
      constructor
      · simp only [Registry.table, hstate]
        exact valueOf?_version hinsert
      · simp only [hstate]
      · simp only [hstate]
      · simp only [hstate]

section Opening

variable {connect : String → Except BuildError Network} {env : Environment} {files files' : FileTree}
variable {cwd : Place} {dirName file : Option String} {project : OpenProject} {network : Network}

/-- Opening a project in a directory gives a fresh one. -/
theorem fresh_of_at
    (h : OpenProject.at connect env files cwd dirName file = .ok (project, network)) :
    Fresh project := by
  unfold OpenProject.at at h
  simp only at h
  split at h
  · cases h
  · split at h
    · cases h
    · split at h
      · cases h
      · rename_i hproject
        cases h
        exact fresh_of_ofConfig hproject

/-- Whatever is known of what was opened is known of a project. -/
theorem exists_opened {α : Type} {f : OpenProject → α} {a : α}
    {opened : Except Failure (OpenProject × Network)}
    (h : opened.toOption.map (fun o => f o.1) = some a) :
    ∃ project network, opened = .ok (project, network) ∧ f project = a := by
  cases opened with
  | error failure => cases h
  | ok opened => exact ⟨opened.1, opened.2, rfl, Option.some.inj h⟩

/-- The path of the file that the settings of a project are read from. -/
def settingsPath (cwd : Place) (dirName file : Option String) : String :=
  Config.locate (OpenProject.directory cwd dirName) file

/-- Only settings in a file can be read. -/
theorem isFile_of_readText? {path text : String} (h : files.readText? cwd path = .ok text) :
    ∃ found, fileAt? files cwd path = some found := by
  unfold FileTree.readText? FileTree.read at h
  cases hstat : files.stat cwd path with
  | error fault => simp [hstat] at h
  | ok entry =>
    cases entry with
    | directory => simp [hstat] at h
    | file content =>
      obtain ⟨place, hfile⟩ := stat_eq_file_iff.mp hstat
      exact ⟨_, hfile⟩

/-- An open project has a file with settings. -/
theorem settings_of_at
    (h : OpenProject.at connect env files cwd dirName file = .ok (project, network)) :
    ∃ found, fileAt? files cwd (settingsPath cwd dirName file) = some found := by
  unfold OpenProject.at at h
  simp only at h
  split at h
  · cases h
  · rename_i hload
    unfold Config.load at hload
    split at hload
    · cases hload
    · rename_i text hread
      exact isFile_of_readText? hread

/-- A project opens as before if its settings are in the same file. -/
theorem at_of_settings {found : Place × ByteArray}
    (h : fileAt? files cwd (settingsPath cwd dirName file) = some found)
    (h' : fileAt? files' cwd (settingsPath cwd dirName file) = some found) :
    OpenProject.at connect env files' cwd dirName file =
      OpenProject.at connect env files cwd dirName file := by
  have hread : files'.readText? cwd (settingsPath cwd dirName file) =
      files.readText? cwd (settingsPath cwd dirName file) := by
    unfold FileTree.readText?
    rw [read_of_fileAt? h, read_of_fileAt? h']
  have hload : Config.load files' cwd (settingsPath cwd dirName file) =
      Config.load files cwd (settingsPath cwd dirName file) := by
    unfold Config.load
    rw [hread]
  unfold settingsPath at hload
  simp only [OpenProject.at, hload]

/-- Without its settings a project does not open. -/
theorem at_of_noSettings (connect : String → Except BuildError Network) (env : Environment)
    (h : fileAt? files cwd (settingsPath cwd dirName file) = none) :
    ∃ failure, OpenProject.at connect env files cwd dirName file = .error failure := by
  cases hopen : OpenProject.at connect env files cwd dirName file with
  | error failure => exact ⟨failure, rfl⟩
  | ok opened =>
    obtain ⟨found, hfound⟩ := settings_of_at hopen
    rw [h] at hfound
    cases hfound

end Opening

/-! ### Paths of copies -/

section Paths

variable {table : Template.Table} {version path path' : String}

/-- The path of a version's copy is put together from the cache directory and what the version
expands to. -/
theorem expand_metadataLocation (h : expand table (Registry.metadataLocation version) = .ok path) :
    ∃ dir segment, expand table "@CACHE_DIR@/versions" = .ok dir ∧
      expand table version = .ok segment ∧
      path = dir ++ String.ofList ['/'] ++ segment ++ String.ofList ('/' :: "version.json".toList) := by
  have hfile : TokenFree "version.json".toList := tokenFree_of_not_mem (by decide)
  have hfront : "@CACHE_DIR@/versions/" = "@CACHE_DIR@/versions" ++ String.ofList ['/'] := by decide
  have htail : "/version.json" = String.ofList ('/' :: "version.json".toList) := by decide
  have hlocation : Registry.metadataLocation version =
      "@CACHE_DIR@/versions" ++ String.ofList ['/'] ++ version ++
        String.ofList ('/' :: "version.json".toList) :=
    congrArg₂ (· ++ ·) (congrArg (· ++ version) hfront) htail
  rw [hlocation, expand_append_tail_iff isSeparator_slash table _ hfile] at h
  obtain ⟨front, hfront, rfl⟩ := h
  obtain ⟨dir, segment, hdir, hsegment, rfl⟩ := expand_append_separator isSeparator_slash hfront
  exact ⟨dir, segment, hdir, hsegment, rfl⟩

/-- A version and its token lead to one path, where both lead to one. -/
theorem copyPath_eq (hversion : valueOf? table "MC_VERSION".toList = some version)
    (htoken : expand table OpenProject.metadataTemplate = .ok path)
    (h : expand table (Registry.metadataLocation version) = .ok path') : path' = path := by
  have hletters : IsTokenLetters "MC_VERSION".toList := by
    simp [IsTokenLetters, Template.isNameLetter]
  have hname : Instance.versionToken = String.ofList (Template.tokenText "MC_VERSION".toList) := by
    decide
  obtain ⟨dir, segment, hdir, hsegment, rfl⟩ := expand_metadataLocation htoken
  obtain ⟨dir', segment', hdir', hsegment', rfl⟩ := expand_metadataLocation h
  rw [hname] at hsegment
  rw [expand_token hletters hversion hsegment] at hsegment'
  rw [hdir] at hdir'
  cases hdir'
  cases hsegment'
  rfl

end Paths

variable {project : OpenProject} {manifest metadata : String}

/-- The paths of the copies are those of the manifest and of the version, if both can be resolved.
-/
theorem copyPaths_eq_ok_iff :
    project.copyPaths = .ok (manifest, metadata) ↔
      project.registry.resolvePath project.context Registry.manifestLocation = .ok manifest ∧
        project.registry.resolvePath project.context OpenProject.metadataTemplate =
          .ok metadata := by
  unfold OpenProject.copyPaths
  cases project.registry.resolvePath project.context Registry.manifestLocation with
  | error e => simp
  | ok path =>
    cases project.registry.resolvePath project.context OpenProject.metadataTemplate with
    | error e => simp
    | ok path' => simp

/-- The documents of a project are kept at the paths, whatever happened at its site before they are
loaded. -/
structure KeepsAt (project : OpenProject) (manifest metadata : String) : Prop where
  /-- The version of the settings leads where its token leads. -/
  version : ∀ path, project.registry.resolvePath project.context
    (Registry.metadataLocation project.plugin.extension.version) = .ok path → path = metadata
  manifest : ∀ site url path,
    project.registry.manifestPlace project.context = .ok (url, path) →
      path = manifest ∧ (project.registry.versionManifest site project.context).2 =
        site.load VersionManifest.ofText url manifest
  metadata : ∀ site r left document url path,
    project.registry.versionManifest site project.context = (r, left, .ok document) →
      r.metadataPlace project.context document.value project.plugin.extension.version =
        .ok (url, path) →
      path = metadata ∧ (project.registry.versionMetadata site project.context).2 =
        left.load Registry.metadataOfText url metadata

/-- A fresh project keeps its copies at the paths that it tells. -/
theorem keepsAt_of_fresh (h : Fresh project)
    (hpaths : project.copyPaths = .ok (manifest, metadata)) :
    KeepsAt project manifest metadata := by
  obtain ⟨hmanifest, hmetadata⟩ := copyPaths_eq_ok_iff.mp hpaths
  have hversion : ∀ path, project.registry.resolvePath project.context
      (Registry.metadataLocation project.plugin.extension.version) = .ok path → path = metadata :=
    fun path hpath => copyPath_eq h.version hmetadata hpath
  refine ⟨hversion, ?_, ?_⟩
  · intro site url path hplace
    have hpath := path_of_manifestPlace hplace
    rw [hmanifest] at hpath
    cases hpath
    exact ⟨rfl, versionManifest_of_place h.manifest hplace site⟩
  · intro site r left document url path hrun hplace
    obtain ⟨-, hpath⟩ := metadataPlace_eq_ok_iff.mp hplace
    rw [resolvePath_of_versionManifest_ok hrun] at hpath
    have heq : path = metadata := hversion path hpath
    subst heq
    exact ⟨rfl, versionMetadata_of_place h.metadata h.plugin hrun hplace⟩

/-- The paths of the copies end in different names, so they lead to different files. -/
theorem not_leadTogether_copyPaths (hpaths : project.copyPaths = .ok (manifest, metadata))
    (files : FileTree) (cwd : Place) : ¬ LeadTogether files cwd manifest metadata := by
  rintro ⟨file, hfile, hfile'⟩
  obtain ⟨hmanifest, hmetadata⟩ := copyPaths_eq_ok_iff.mp hpaths
  have hlocation : Registry.manifestLocation =
      "@CACHE_DIR@" ++ String.ofList ('/' :: "version_manifest.json".toList) := by decide
  have hfree : TokenFree "version_manifest.json".toList := tokenFree_of_not_mem (by decide)
  rw [Registry.resolvePath, hlocation,
    expand_append_tail_iff isSeparator_slash _ _ hfree] at hmanifest
  obtain ⟨front, -, rfl⟩ := hmanifest
  obtain ⟨dir, segment, -, -, rfl⟩ := expand_metadataLocation hmetadata
  have htail : ∀ name : String, String.ofList ('/' :: name.toList) = "/" ++ name := by
    intro name
    rw [← String.toList_inj]
    simp [String.toList_append]
  rw [htail, ← String.append_assoc] at hfile hfile'
  have hlast := fileAt?_last (by decide) (by decide) hfile
  rw [fileAt?_last (by decide) (by decide) hfile'] at hlast
  exact absurd (Option.some.inj hlast) (by decide)

end ModBuild.Proofs.Project
