import ModBuild.Proofs.CommandLine.Cache
import ModBuild.Proofs.Files.Parents

/-!
# `ModBuild.Proofs.CommandLine.Effects`: what commands may change

A command writes its lines after all that can fail, and files change only where documents are kept.
The theorems:

* `After.changesOnly`: whatever documents are loaded, files change at the paths of their copies
  only.
* `After.files_eq_of_unanswered`: and nowhere, if no address is answered.
* `after_versionManifest` and `after_versionMetadata`: which documents the registry loads.
* `removes_of_removeAll`: a removal takes files away, also where it stops at one it cannot remove.
* `run_effects`: all of this for every command.
-/

set_option autoImplicit false

namespace ModBuild.Proofs.CommandLine

open ModBuild ModBuild.CommandLine ModBuild.Proofs.Files ModBuild.Proofs.Documents
open ModBuild.Proofs.Registry ModBuild.Proofs.Project
open ModBuild.Registry (manifestLocation metadataLocation metadataOfText)

/-! ### Requests one after the other -/

/-- A network that was asked for some addresses. -/
def askedFor (network : Network) : List String → Network
  | [] => network
  | url :: rest => askedFor (network.ask url).1 rest

/-- None of some addresses is answered when they are asked for one after the other. -/
def Unanswered (network : Network) : List String → Prop
  | [] => True
  | url :: rest => (∃ e, (network.ask url).2 = .error e) ∧ Unanswered (network.ask url).1 rest

/-- Addresses are asked for one part after the other. -/
theorem askedFor_append {network : Network} {urls rest : List String} :
    askedFor network (urls ++ rest) = askedFor (askedFor network urls) rest := by
  induction urls generalizing network with
  | nil => rfl
  | cons url urls ih => exact ih

/-- A network remembers what it was asked for. -/
theorem requests_askedFor (network : Network) (urls : List String) :
    (askedFor network urls).requests = network.requests ++ urls := by
  induction urls generalizing network with
  | nil => exact (List.append_nil _).symm
  | cons url urls ih =>
    rw [askedFor, ih, Network.ask, List.append_assoc]
    rfl

/-- Addresses are not answered if those of the one part are not, nor then those of the other. -/
theorem unanswered_append {network : Network} {urls rest : List String} :
    Unanswered network (urls ++ rest) ↔
      Unanswered network urls ∧ Unanswered (askedFor network urls) rest := by
  induction urls generalizing network with
  | nil => simp [Unanswered, askedFor]
  | cons url urls ih => simp only [List.cons_append, Unanswered, askedFor, ih, and_assoc]

/-- A network that answers nothing does so whatever it is asked for. -/
theorem unanswered_of_silent {network : Network}
    (h : ∀ before url, ∃ e, network.answer before url = .error e) (urls : List String) :
    Unanswered network urls := by
  induction urls generalizing network with
  | nil => trivial
  | cons url urls ih => exact ⟨h _ _, ih h⟩

/-! ### Loads at a site -/

/-- What loads leave at a site, with the paths of the copies, the last one first. -/
inductive After (site : Site) : List String → Site → Prop where
  | start : After site [] site
  | load {α : Type} {paths : List String} {middle : Site} (before : After site paths middle)
      (read : String → Except String α) (url path : String) :
      After site (path :: paths) (middle.load read url path).1

section Loads

variable {α : Type} (read : String → Except String α)

/-- A load changes the file at the end of its path at most. -/
theorem changesOnly_load (site : Site) (url path : String) :
    ChangesOnly site.files site.cwd [path] (site.load read url path).1.files := by
  rw [load_site]
  cases hanswer : (site.network.ask url).2 with
  | error e =>
    rw [fetch_unanswered_files hanswer]
    exact .refl _ _ _
  | ok body =>
    rw [fetch_answered hanswer]
    exact changesOnly_replaceFile site.disk site.cwd path body.toUTF8

variable {site left : Site} {paths : List String}

/-- A load that was carried out is one more, whatever came of it. -/
theorem After.of_load {middle : Site} {url path : String}
    {result : Except BuildError (Document α)} (h : After site paths middle)
    (hload : middle.load read url path = (left, result)) : After site (path :: paths) left := by
  have hafter := h.load read url path
  rwa [hload] at hafter

/-- Loads leave the working directory. -/
theorem After.cwd (h : After site paths left) : left.cwd = site.cwd := by
  induction h with
  | start => rfl
  | load before read url path ih => rw [load_site, fetch_cwd, ih]

/-- Files change at the paths of the copies only. -/
theorem After.changesOnly (h : After site paths left) :
    ChangesOnly site.files site.cwd paths left.files := by
  induction h with
  | start => exact .refl _ _ _
  | @load _ paths middle before read url path ih =>
    have hlast := changesOnly_load read middle url path
    rw [before.cwd] at hlast
    have hfirst : ChangesOnly site.files site.cwd (path :: paths) middle.files :=
      ih.mono (List.subset_cons_self path paths)
    exact hfirst.trans (hlast.mono (List.cons_subset_cons path (List.nil_subset paths)))

/-- The network was asked for some addresses, and if none of them was answered, no file changes. -/
theorem After.files_eq_of_unanswered (h : After site paths left) :
    ∃ urls, left.network = askedFor site.network urls ∧
      (Unanswered site.network urls → left.files = site.files) := by
  induction h with
  | start => exact ⟨[], rfl, fun _ => rfl⟩
  | @load _ paths middle before read url path ih =>
    obtain ⟨urls, hnetwork, hfiles⟩ := ih
    refine ⟨urls ++ [url], ?_, fun hnone => ?_⟩
    · rw [load_network, askedFor_append, ← hnetwork]
      rfl
    · obtain ⟨hbefore, ⟨e, he⟩, -⟩ := unanswered_append.mp hnone
      rw [← hnetwork] at he
      rw [load_site, fetch_unanswered_files he]
      exact hfiles hbefore

end Loads

/-! ### Documents of a project -/

section Documents

variable {r : Registry} {c : Context}

/-- The paths that some templates stand for, as far as they stand for one. -/
def pathsOf (r : Registry) (c : Context) (locations : List String) : List String :=
  locations.filterMap fun location => (r.resolvePath c location).toOption

/-- A template that stands for a path is among the paths. -/
theorem mem_pathsOf {locations : List String} {location path : String}
    (hmem : location ∈ locations) (h : r.resolvePath c location = .ok path) :
    path ∈ pathsOf r c locations := by
  refine List.mem_filterMap.mpr ⟨location, hmem, ?_⟩
  rw [h]
  rfl

/-- To have the manifest is to load it, or nothing is loaded. -/
theorem after_versionManifest (r : Registry) (site : Site) (c : Context) :
    ∃ paths ⊆ pathsOf r c [manifestLocation],
      After site paths (r.versionManifest site c).2.1 := by
  have hrun := versionManifest_run r site c
  generalize r.versionManifest site c = ran at hrun
  have hpath : ∀ {url path}, r.manifestPlace c = .ok (url, path) →
      [path] ⊆ pathsOf r c [manifestLocation] := by
    intro url path hplace
    have hmem := mem_pathsOf (List.mem_singleton_self _) (path_of_manifestPlace hplace)
    exact List.cons_subset.mpr ⟨hmem, List.nil_subset _⟩
  -- Only a load touches the disk, and it does so at the path that the template leads to.
  cases hrun with
  | there => exact ⟨[], List.nil_subset _, .start⟩
  | noPlace => exact ⟨[], List.nil_subset _, .start⟩
  | notLoaded hempty hplace hload => exact ⟨_, hpath hplace, After.start.of_load _ hload⟩
  | loaded hempty hplace hload => exact ⟨_, hpath hplace, After.start.of_load _ hload⟩

/-- To have the document of the version is to have the manifest first. -/
theorem after_versionMetadata {i : Instance} (hplugin : (r.stateOf c).plugin = some i)
    (site : Site) :
    ∃ paths ⊆ pathsOf r c [manifestLocation, metadataLocation i.extension.version],
      After site paths (r.versionMetadata site c).2.1 := by
  have hrun := versionMetadata_run r site c
  have hfirst := after_versionManifest r site c
  generalize r.versionMetadata site c = ran at hrun
  have hmore : pathsOf r c [manifestLocation] ⊆
      pathsOf r c [manifestLocation, metadataLocation i.extension.version] := by
    intro path hpath
    obtain ⟨location, hmem, hlocation⟩ := List.mem_filterMap.mp hpath
    rw [List.mem_singleton.mp hmem] at hlocation
    exact List.mem_filterMap.mpr ⟨manifestLocation, List.mem_cons_self, hlocation⟩
  -- The path of the second document is expanded with what is registered from the start.
  have hsecond : ∀ {r' : Registry} {left last : Site} {manifest : Document VersionManifest}
      {j : Instance} {url path : String} {result : Except BuildError (Document VersionMetadata)},
      (r.stateOf c).plugin = some j → r.versionManifest site c = (r', left, .ok manifest) →
      r'.metadataPlace c manifest.value j.extension.version = .ok (url, path) →
      left.load metadataOfText url path = (last, result) →
      ∃ paths ⊆ pathsOf r c [manifestLocation, metadataLocation i.extension.version],
        After site paths last := by
    intro r' left last manifest j url path result hj hmanifest hplace hload
    rw [hplugin] at hj
    cases hj
    rw [hmanifest] at hfirst
    obtain ⟨paths, hpaths, hafter⟩ := hfirst
    obtain ⟨-, hpath⟩ := metadataPlace_eq_ok_iff.mp hplace
    rw [resolvePath_of_versionManifest_ok hmanifest] at hpath
    have hmem : path ∈ pathsOf r c [manifestLocation, metadataLocation i.extension.version] :=
      mem_pathsOf (List.mem_cons_of_mem _ (List.mem_singleton_self _)) hpath
    exact ⟨path :: paths, List.cons_subset.mpr ⟨hmem, List.Subset.trans hpaths hmore⟩,
      hafter.of_load _ hload⟩
  obtain ⟨paths, hpaths, hafter⟩ := hfirst
  cases hrun with
  | there => exact ⟨[], List.nil_subset _, .start⟩
  | noInstance => exact ⟨[], List.nil_subset _, .start⟩
  | noManifest hempty hplugin' hmanifest =>
    rw [hmanifest] at hafter
    exact ⟨paths, List.Subset.trans hpaths hmore, hafter⟩
  | noPlace hempty hplugin' hmanifest hplace =>
    rw [hmanifest] at hafter
    exact ⟨paths, List.Subset.trans hpaths hmore, hafter⟩
  | notLoaded hempty hplugin' hmanifest hplace hload =>
    exact hsecond hplugin' hmanifest hplace hload
  | loaded hempty hplugin' hmanifest hplace hload =>
    exact hsecond hplugin' hmanifest hplace hload

end Documents

/-! ### Removals that stop -/

/-- A removal of one path takes a file away, or it changes nothing. -/
theorem removes_of_removeAll (cwd : Place) (paths : List String) (files : FileTree) :
    Removes files cwd paths (Command.removeAll cwd paths files).1 := by
  induction paths generalizing files with
  | nil => exact .refl _ _ _
  | cons path paths ih =>
    unfold Command.removeAll
    split
    · exact .refl _ _ _
    · rename_i middle was hremove
      have hrest := (removed_of_removeIfThere hremove).removes.cons (ih middle)
      split
      · rename_i hall
        rw [hall] at hrest
        exact hrest
      · rename_i hall
        rw [hall] at hrest
        exact hrest

/-! ### Commands -/

/-- Nothing was written unless it went well. -/
def SilentOnFailure (outcome : Outcome) : Prop :=
  ∀ failure, outcome.result = .error failure → outcome.output = ""

/-- A command that succeeds may write. -/
theorem silentOnFailure_wrote (output : String) : SilentOnFailure (.wrote output) :=
  fun _ h => nomatch h

/-- A command that fails writes nothing. -/
theorem silentOnFailure_failed (failure : Failure) : SilentOnFailure (.failed failure) :=
  fun _ _ => rfl

/-- The paths of the copies that commands name, if these can be named. -/
def namedCopies (project : OpenProject) : List String :=
  match project.copyPaths with
  | .ok (manifest, metadata) => [manifest, metadata]
  | .error _ => []

/-- The paths of the copies that loads in a project may write. -/
def loadedCopies (project : OpenProject) (locations : List String) : List String :=
  pathsOf project.registry project.context locations

/-- The changes that a command may make to the files. -/
def MayChange (project : OpenProject) (files : FileTree) (cwd : Place) (files' : FileTree) :
    Command → Prop
  | .resolve _ _ | .hash _ _ | .cacheInfo => files' = files
  | .cacheClean => Removes files cwd (namedCopies project) files'
  | .versions _ => ChangesOnly files cwd (loadedCopies project [manifestLocation]) files'
  | .versionInfo _ =>
    ChangesOnly files cwd (loadedCopies project
      [manifestLocation, metadataLocation project.plugin.extension.version]) files'

/-- The addresses that a command asks for. -/
def asked (project : OpenProject) (site : Site) (colours : Bool) (command : Command) :
    List String :=
  (Command.runOn project site colours command).1.network.requests.drop
    site.network.requests.length

/-- What a command comes to. -/
structure Effects (around : Surroundings) (options : Options) (disk : Disk) (cwd : Place)
    (command : Command) (files' : FileTree) (outcome : Outcome) : Prop where
  silent : SilentOnFailure outcome
  /-- Without a project nothing changes. -/
  closed : ∀ failure, OpenProject.at around.connect around.env disk.files cwd options.projectDir
    options.config = .error failure → files' = disk.files
  opened : ∀ project network, OpenProject.at around.connect around.env disk.files cwd
    options.projectDir options.config = .ok (project, network) →
    MayChange project disk.files cwd files' command
  /-- Where loads write is where the copies are named, if they can be named. -/
  copies : ∀ project network, OpenProject.at around.connect around.env disk.files cwd
    options.projectDir options.config = .ok (project, network) → namedCopies project ≠ [] →
    loadedCopies project [manifestLocation, metadataLocation project.plugin.extension.version] ⊆
      namedCopies project
  /-- If nothing that is asked for is answered, files are at most removed. -/
  unanswered : ∀ project network, OpenProject.at around.connect around.env disk.files cwd
    options.projectDir options.config = .ok (project, network) → command ≠ .cacheClean →
    Unanswered network (asked project ⟨disk, cwd, network⟩ around.colours command) →
    files' = disk.files

section Run

variable {project : OpenProject} {site : Site} {colours : Bool}

/-- A digest is written only when the file was read. -/
theorem silentOnFailure_runHash (site : Site) (file algorithm : String) :
    SilentOnFailure (Command.runHash site file algorithm) := by
  unfold Command.runHash
  split
  · exact silentOnFailure_wrote _
  · exact silentOnFailure_failed _

/-- Whatever the command, its lines are written after all that can fail. -/
theorem silentOnFailure_runOn (project : OpenProject) (site : Site) (colours : Bool)
    (command : Command) : SilentOnFailure (Command.runOn project site colours command).2 := by
  -- Every command ends in one branch that writes and others that fail.
  cases command with
  | resolve template arguments =>
    show SilentOnFailure (Command.runResolve project template arguments)
    unfold Command.runResolve
    split
    · exact silentOnFailure_wrote _
    · exact silentOnFailure_failed _
  | versions kind =>
    show SilentOnFailure (Command.runVersions project site kind).2
    unfold Command.runVersions
    split
    · exact silentOnFailure_failed _
    · exact silentOnFailure_wrote _
  | versionInfo key =>
    show SilentOnFailure (Command.runVersionInfo project site key).2
    unfold Command.runVersionInfo
    simp only
    split
    · exact silentOnFailure_failed _
    · -- The lines are written last, and only a key that is not there can still fail.
      unfold Command.showMetadata
      split
      · exact silentOnFailure_wrote _
      · split
        · exact silentOnFailure_wrote _
        · exact silentOnFailure_failed _
  | hash file algorithm => exact silentOnFailure_runHash site file algorithm
  | cacheInfo =>
    show SilentOnFailure (Command.runCacheInfo project site colours)
    unfold Command.runCacheInfo
    split
    · exact silentOnFailure_failed _
    · exact silentOnFailure_wrote _
  | cacheClean =>
    show SilentOnFailure (Command.runCacheClean project site).2
    unfold Command.runCacheClean
    split
    · exact silentOnFailure_failed _
    · split
      · exact silentOnFailure_wrote _
      · exact silentOnFailure_failed _

/-- The site after a list of versions is the one after the manifest was had. -/
theorem runVersions_site (kind : Option String) :
    (Command.runVersions project site kind).1 =
      (project.registry.versionManifest site project.context).2.1 := by
  unfold Command.runVersions
  split
  · rename_i hrun
    rw [hrun]
  · rename_i hrun
    rw [hrun]

/-- The site after the document of a version is shown is the one after it was had. -/
theorem runVersionInfo_site (key : Option String) :
    (Command.runVersionInfo project site key).1 =
      (project.registry.versionMetadata site project.context).2.1 := by
  unfold Command.runVersionInfo
  simp only
  split
  · rename_i hrun
    rw [hrun]
  · rename_i hrun
    rw [hrun]

/-- Removing the copies takes at most their files away. -/
theorem runCacheClean_files :
    Removes site.files site.cwd (namedCopies project)
      (Command.runCacheClean project site).1.files := by
  unfold Command.runCacheClean namedCopies
  cases project.copyPaths with
  | error e => exact .refl _ _ _
  | ok paths =>
    obtain ⟨manifest, metadata⟩ := paths
    have hremoves := removes_of_removeAll site.cwd [manifest, metadata] site.files
    simp only
    split
    · rename_i hremove
      rw [hremove] at hremoves
      exact hremoves
    · rename_i hremove
      rw [hremove] at hremoves
      exact hremoves

/-- All but a removal loads documents, at most. -/
theorem after_runOn (hfresh : Fresh project) (site : Site) (colours : Bool) {command : Command}
    (hcommand : command ≠ .cacheClean) :
    ∃ paths, After site paths (Command.runOn project site colours command).1 ∧
      MayChange project site.files site.cwd
        (Command.runOn project site colours command).1.files command := by
  cases command with
  | resolve template arguments => exact ⟨[], .start, rfl⟩
  | hash file algorithm => exact ⟨[], .start, rfl⟩
  | cacheInfo => exact ⟨[], .start, rfl⟩
  | cacheClean => exact absurd rfl hcommand
  | versions kind =>
    obtain ⟨paths, hpaths, hafter⟩ :=
      after_versionManifest project.registry site project.context
    rw [← runVersions_site kind] at hafter
    exact ⟨paths, hafter, hafter.changesOnly.mono hpaths⟩
  | versionInfo key =>
    obtain ⟨paths, hpaths, hafter⟩ := after_versionMetadata hfresh.plugin site
    rw [← runVersionInfo_site key] at hafter
    exact ⟨paths, hafter, hafter.changesOnly.mono hpaths⟩

/-- On an open project, a command changes what it may change. -/
theorem mayChange_runOn (hfresh : Fresh project) (site : Site) (colours : Bool)
    (command : Command) :
    MayChange project site.files site.cwd
      (Command.runOn project site colours command).1.files command := by
  by_cases hclean : command = .cacheClean
  · subst hclean
    exact runCacheClean_files
  · obtain ⟨-, -, hchange⟩ := after_runOn hfresh site colours hclean
    exact hchange

/-- A command that loads documents changes no file if none of its requests is answered. -/
theorem files_of_unanswered (hfresh : Fresh project) {command : Command}
    (hcommand : command ≠ .cacheClean)
    (hnone : Unanswered site.network (asked project site colours command)) :
    (Command.runOn project site colours command).1.files = site.files := by
  obtain ⟨paths, hafter, -⟩ := after_runOn hfresh site colours hcommand
  obtain ⟨urls, hnetwork, hfiles⟩ := hafter.files_eq_of_unanswered
  unfold asked at hnone
  rw [hnetwork, requests_askedFor, List.drop_left] at hnone
  exact hfiles hnone

/-- The version of the settings leads to the copy that the commands name. -/
theorem loadedCopies_subset (hfresh : Fresh project) (hnamed : namedCopies project ≠ []) :
    loadedCopies project [manifestLocation, metadataLocation project.plugin.extension.version] ⊆
      namedCopies project := by
  unfold namedCopies at hnamed ⊢
  split at hnamed
  · rename_i manifest metadata hpaths
    have hkeeps := keepsAt_of_fresh hfresh hpaths
    obtain ⟨hmanifest, -⟩ := copyPaths_eq_ok_iff.mp hpaths
    intro path hpath
    obtain ⟨location, hmem, hlocation⟩ := List.mem_filterMap.mp hpath
    cases hresolve : project.registry.resolvePath project.context location with
    | error e =>
      rw [hresolve] at hlocation
      cases hlocation
    | ok found =>
      rw [hresolve] at hlocation
      cases hlocation
      -- The manifest has the path that the commands name, and so has the version: its text and its
      -- token expand alike.
      rcases List.mem_cons.mp hmem with rfl | hmem
      · rw [hmanifest] at hresolve
        cases hresolve
        exact List.mem_cons_self
      · rw [List.mem_singleton.mp hmem] at hresolve
        rw [hkeeps.version path hresolve]
        exact List.mem_cons_of_mem _ (List.mem_singleton_self _)
  · exact absurd rfl hnamed

end Run

section Commands

variable {around : Surroundings} {options : Options} {disk : Disk} {cwd : Place}

/-- A digest needs no project. -/
theorem run_hash (file algorithm : String) :
    Command.run around options disk cwd (.hash file algorithm) =
      (disk.files, Command.runHash ⟨disk, cwd, Http.refused⟩ file algorithm) :=
  rfl

/-- Without a project nothing but a digest comes of a command. -/
theorem run_of_closed {failure : Failure} {command : Command}
    (hcommand : ∀ file algorithm, command ≠ .hash file algorithm)
    (hopen : OpenProject.at around.connect around.env disk.files cwd options.projectDir
      options.config = .error failure) :
    Command.run around options disk cwd command = (disk.files, .failed failure) := by
  unfold Command.run
  split
  · exact absurd rfl (hcommand _ _)
  · rw [hopen]

/-- With a project a command is carried out on it. -/
theorem run_of_opened {project : OpenProject} {network : Network} {command : Command}
    (hcommand : ∀ file algorithm, command ≠ .hash file algorithm)
    (hopen : OpenProject.at around.connect around.env disk.files cwd options.projectDir
      options.config = .ok (project, network)) :
    Command.run around options disk cwd command =
      ((Command.runOn project ⟨disk, cwd, network⟩ around.colours command).1.files,
        (Command.runOn project ⟨disk, cwd, network⟩ around.colours command).2) := by
  unfold Command.run
  split
  · exact absurd rfl (hcommand _ _)
  · rw [hopen]

/-- A command that fails has written nothing. To resolve a template, to print a digest and to show
where the copies are changes no file. To remove the copies takes away some of the two files, also
where it stops in the middle. To list versions changes the copy of the manifest at most, and to show
a version's document that of the configured version besides, with the directories on the way. If
nothing that they ask for is answered, they change nothing. -/
theorem run_effects (around : Surroundings) (options : Options) (disk : Disk) (cwd : Place)
    (command : Command) :
    Effects around options disk cwd command (Command.run around options disk cwd command).1
      (Command.run around options disk cwd command).2 := by
  have hcopies : ∀ project network, OpenProject.at around.connect around.env disk.files cwd
      options.projectDir options.config = .ok (project, network) → namedCopies project ≠ [] →
      loadedCopies project [manifestLocation, metadataLocation project.plugin.extension.version] ⊆
        namedCopies project :=
    fun project network hopen => loadedCopies_subset (fresh_of_at hopen)
  -- A digest needs no project, so there is nothing to open for it.
  by_cases hhash : ∃ file algorithm, command = .hash file algorithm
  · obtain ⟨file, algorithm, rfl⟩ := hhash
    rw [run_hash]
    exact ⟨silentOnFailure_runHash _ file algorithm, fun _ _ => rfl, fun _ _ _ => rfl, hcopies,
      fun _ _ _ _ _ => rfl⟩
  · have hcommand : ∀ file algorithm, command ≠ .hash file algorithm :=
      fun file algorithm h => hhash ⟨file, algorithm, h⟩
    cases hopen : OpenProject.at around.connect around.env disk.files cwd options.projectDir
      options.config with
    | error failure =>
      rw [run_of_closed hcommand hopen]
      refine ⟨silentOnFailure_failed failure, fun _ _ => rfl, ?_, hcopies, fun _ _ _ _ _ => rfl⟩
      intro project network hopen'
      rw [hopen] at hopen'
      cases hopen'
    | ok opened =>
      obtain ⟨project, network⟩ := opened
      have hfresh := fresh_of_at hopen
      rw [run_of_opened hcommand hopen]
      constructor
      · exact silentOnFailure_runOn project _ _ command
      · intro failure hclosed
        rw [hopen] at hclosed
        cases hclosed
      · intro other network' hopen'
        rw [hopen] at hopen'
        cases hopen'
        exact mayChange_runOn hfresh _ _ command
      · exact hcopies
      · intro other network' hopen' hclean hnone
        rw [hopen] at hopen'
        cases hopen'
        exact files_of_unanswered hfresh hclean hnone

end Commands

/-! ### A project to try this on -/

/-- Surroundings in which a manifest is served, or nothing. -/
def serving (online : Bool) : Surroundings :=
  ⟨⟨none, none, none, none, none⟩,
    fun _ => .ok (.ofPages [("http://[::1]/m", "\x7b\"versions\":[]\x7d")] online), false⟩

/-- A project with a copy of the manifest. -/
def withManifestCopy : FileTree :=
  ⟨[(["mcgradle.toml"], .file ("[minecraft]\nversion = \"1\"\n[cache]\ndir = \"copies\"\n" ++
      "[network]\nmanifest_url = \"http://[::1]/m\"\n").toUTF8),
    (["copies"], .directory), (["copies", "version_manifest.json"], .file "old".toUTF8)]⟩

/-- The network of an open project is the one that it was connected to. -/
theorem connected_of_at {around : Surroundings} {files : FileTree} {cwd : Place}
    {dirName file : Option String} {project : OpenProject} {network : Network}
    (h : OpenProject.at around.connect around.env files cwd dirName file = .ok (project, network)) :
    ∃ agent, around.connect agent = .ok network := by
  unfold OpenProject.at at h
  simp only at h
  split at h
  · cases h
  · split at h
    · cases h
    · rename_i hconnect
      split at h
      · cases h
      · cases h
        exact ⟨_, hconnect⟩

/-- The same project on a disk that takes no new name. -/
def readOnly : Disk :=
  ⟨withManifestCopy, fun _ step => if step = .makeTemporary then some ⟨.os 30, 0⟩ else none⟩

/-- To list versions replaces the copy of the manifest. Without an answer the copy stays, and also
if the disk does not take the answer: then the command fails, and writes nothing. -/
theorem run_effects_withManifestCopy :
    (ChangesOnly withManifestCopy [] ["/copies/version_manifest.json"]
        (Command.run (serving true) (optionsOf none) withManifestCopy [] (.versions none)).1 ∧
      FileTree.entry?
        (Command.run (serving true) (optionsOf none) withManifestCopy [] (.versions none)).1
        ["copies", "version_manifest.json"] = some (.file "\x7b\"versions\":[]\x7d".toUTF8)) ∧
    (Command.run (serving false) (optionsOf none) withManifestCopy [] (.versions none)).1 =
      withManifestCopy ∧
    (Command.run (serving true) (optionsOf none) readOnly [] (.versions none)).2.output = "" ∧
    FileTree.entry? (Command.run (serving true) (optionsOf none) readOnly [] (.versions none)).1
      ["copies", "version_manifest.json"] = some (.file "old".toUTF8) := by
  have hcopies : ∀ online, (OpenProject.at (serving online).connect (serving online).env
      withManifestCopy [] none none).toOption.map (fun opened => opened.1.copyPaths) =
      some (.ok ("/copies/version_manifest.json", "/copies/versions/1/version.json")) := by
    decide +kernel
  obtain ⟨project, network, hopen, hpaths⟩ := opened_of_copyPaths (hcopies true)
  obtain ⟨project', network', hopen', -⟩ := opened_of_copyPaths (hcopies false)
  have hloaded : loadedCopies project [manifestLocation] = ["/copies/version_manifest.json"] := by
    unfold loadedCopies pathsOf
    rw [List.filterMap_cons, (copyPaths_eq_ok_iff.mp hpaths).1]
    rfl
  have heffects := run_effects (serving true) (optionsOf none) withManifestCopy [] (.versions none)
  have hchange := heffects.opened project network hopen
  unfold MayChange at hchange
  rw [hloaded] at hchange
  refine ⟨⟨hchange, by decide +kernel⟩, ?_, ?_, by decide +kernel⟩
  · have heffects' := run_effects (serving false) (optionsOf none) withManifestCopy []
      (.versions none)
    refine heffects'.unanswered project' network' hopen' nofun (unanswered_of_silent ?_ _)
    obtain ⟨agent, hconnect⟩ := connected_of_at hopen'
    cases hconnect
    exact fun _ _ => ⟨_, rfl⟩
  · have hfails : (Command.run (serving true) (optionsOf none) readOnly []
        (.versions none)).2.result.toOption = none := by decide +kernel
    have heffects' := run_effects (serving true) (optionsOf none) readOnly [] (.versions none)
    cases hresult : (Command.run (serving true) (optionsOf none) readOnly []
      (.versions none)).2.result with
    | ok _ =>
      rw [hresult] at hfails
      cases hfails
    | error failure => exact heffects'.silent failure hresult

end ModBuild.Proofs.CommandLine
