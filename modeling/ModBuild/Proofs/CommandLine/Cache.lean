import ModBuild.CommandLine.Run
import ModBuild.Proofs.Documents.Fetch
import ModBuild.Proofs.Project.Opened

/-!
# `ModBuild.Proofs.CommandLine.Cache`: the commands on the copies

The commands on the copies look at two paths, and loads fall back on what is there. The theorems:

* `load_unanswered`: a load whose fetch fails comes to what its copy holds, or to the failure.
* `tells_isFile`: so a state that is shown says which of the two it would be.
* `removedAll_of_removeAll`, `count_of_removeAll` and `removeAll_of_missing`: what a removal of
  several paths does, what it counts, and that it has nothing more to do a second time.
* `run_cacheInfo_of_copyPaths` and `run_cacheClean_of_removable`: the commands succeed where the
  paths expand, and there is nothing but files to remove.
* `cache_follows_loads`: all of this for the commands of a project.
* `not_cleansTwice`: a project whose settings are one of the copies cannot be cleaned again.
-/

set_option autoImplicit false

namespace ModBuild.Proofs.CommandLine

open ModBuild ModBuild.CommandLine ModBuild.Proofs.Documents ModBuild.Proofs.Files
open ModBuild.Proofs.Project

/-! ### What a load falls back on -/

section Loading

variable {α : Type} (read : String → Except String α)

/-- A document as it is read from its copy. -/
def readCopy (files : FileTree) (cwd : Place) (path : String) : Except BuildError (Document α) :=
  match files.readText cwd path with
  | .error e => .error e
  | .ok body =>
    match read body with
    | .ok value => .ok ⟨value, path, .disk⟩
    | .error reason => .error (.invalidDocument path reason)

/-- A load without an answer from the network reads the copy if there is one. -/
theorem load_unanswered (site : Site) {url : String} {e : BuildError}
    (h : (site.network.ask url).2 = .error e) (path : String) :
    (site.load read url path).2 =
      if site.files.isFile site.cwd path then readCopy read site.files site.cwd path
      else .error e := by
  unfold Site.load readCopy
  rw [fetch_unanswered h]
  cases site.files.isFile site.cwd path with
  | false => rfl
  | true =>
    cases site.files.readText site.cwd path with
    | error fault => rfl
    | ok body =>
      simp only [if_true, Except.map]
      cases read body <;> rfl

/-- The state of a copy is the one that decides what loads fall back on: the copy if it is present,
and otherwise nothing, so that the failure of the fetch stands. It does not matter which writes the
disk would stop. -/
structure Tells (files : FileTree) (cwd : Place) (path : String) (present : Bool) : Prop where
  present_iff : present = true ↔ ∀ stops network url e, (network.ask url).2 = .error e →
    ((Site.mk ⟨files, stops⟩ cwd network).load read url path).2 = readCopy read files cwd path
  missing_iff : present = false ↔ ∀ stops network url e, (network.ask url).2 = .error e →
    ((Site.mk ⟨files, stops⟩ cwd network).load read url path).2 = .error e

/-- Whether there is a file is what loads ask, too. -/
theorem tells_isFile (files : FileTree) (cwd : Place) (path : String) :
    Tells read files cwd path (files.isFile cwd path) := by
  have hload : ∀ stops network url e, (network.ask url).2 = .error e →
      ((Site.mk ⟨files, stops⟩ cwd network).load read url path).2 =
        if files.isFile cwd path then readCopy read files cwd path else .error e :=
    fun stops network url e h => load_unanswered read ⟨⟨files, stops⟩, cwd, network⟩ h path
  -- Fetches can fail in different ways, and what is read from a copy is the same each time.
  have hdiffer : ¬ ∀ e : BuildError, readCopy read files cwd path = .error e := by
    intro h
    have hsame := (h .notInitialized).symm.trans (h (.invalidName ""))
    cases hsame
  cases hfile : files.isFile cwd path with
  | true =>
    simp only [hfile, if_true] at hload
    refine ⟨⟨fun _ => hload, fun _ => rfl⟩, ⟨nofun, fun h => (hdiffer fun e => ?_).elim⟩⟩
    have hfails := h (fun _ _ => none) ⟨fun _ _ => .error e, []⟩ "" e rfl
    rwa [hload _ _ _ e rfl] at hfails
  | false =>
    simp only [hfile, Bool.false_eq_true, if_false] at hload
    refine ⟨⟨nofun, fun h => (hdiffer fun e => ?_).elim⟩, ⟨fun _ => hload, fun _ => rfl⟩⟩
    have hreads := h (fun _ _ => none) ⟨fun _ _ => .error e, []⟩ "" e rfl
    rw [hload _ _ _ e rfl] at hreads
    exact hreads.symm

end Loading

/-! ### Removing several files -/

section Removing

variable {files files' : FileTree} {cwd : Place} {paths : List String} {count : Nat}

/-- What it means to have removed the files that some paths lead to. -/
structure RemovedAll (files : FileTree) (cwd : Place) (paths : List String) (files' : FileTree) :
    Prop where
  missing : ∀ path ∈ paths, Missing files' cwd path
  removes : Removes files cwd paths files'

/-- A removal of several paths begins with the first of them. -/
theorem removeAll_cons {path : String}
    (h : Command.removeAll cwd (path :: paths) files = (files', .ok count)) :
    ∃ middle was rest, Removed files cwd path middle was ∧
      Command.removeAll cwd paths middle = (files', .ok rest) ∧
      count = rest + if was then 1 else 0 := by
  simp only [Command.removeAll] at h
  split at h
  · cases h
  · rename_i middle was hremove
    split at h
    · rename_i left rest hrest
      cases h
      exact ⟨middle, was, rest, removed_of_removeIfThere hremove, hrest, rfl⟩
    · cases h

/-- A removal of several paths leaves none of their files, and touches nothing else. -/
theorem removedAll_of_removeAll (h : Command.removeAll cwd paths files = (files', .ok count)) :
    RemovedAll files cwd paths files' := by
  induction paths generalizing files count with
  | nil =>
    cases h
    exact ⟨nofun, .refl _ cwd []⟩
  | cons path paths ih =>
    obtain ⟨middle, was, rest, hremoved, hrest, -⟩ := removeAll_cons h
    have hall := ih hrest
    refine ⟨fun other hother => ?_, hremoved.removes.cons hall.removes⟩
    rcases List.mem_cons.mp hother with rfl | hother
    · exact hall.removes.thinned.missing hremoved.missing
    · exact hall.missing other hother

/-- If each path leads to a file of its own, as many are counted as lead to one. -/
theorem count_of_removeAll (h : Command.removeAll cwd paths files = (files', .ok count))
    (hapart : paths.Pairwise fun path other => ¬ LeadTogether files cwd path other) :
    count = paths.countP (files.isFile cwd ·) := by
  induction paths generalizing files count with
  | nil =>
    cases h
    rfl
  | cons path paths ih =>
    obtain ⟨middle, was, rest, hremoved, hrest, rfl⟩ := removeAll_cons h
    obtain ⟨hfirst, hothers⟩ := List.pairwise_cons.mp hapart
    -- The paths that follow lead where they led before the first was removed.
    have hsame : ∀ other ∈ paths, middle.isFile cwd other = files.isFile cwd other := by
      intro other hother
      have hfirst' : ∀ path' ∈ [path], ¬ LeadTogether files cwd path' other := by
        intro path' hpath'
        rw [List.mem_singleton.mp hpath']
        exact hfirst other hother
      rw [isFile_eq_isSome, isFile_eq_isSome, hremoved.removes.fileAt?_apart hfirst']
    have hapart' := hremoved.removes.thinned.pairwise_apart hothers
    have hcount : paths.countP (middle.isFile cwd ·) = paths.countP (files.isFile cwd ·) :=
      List.countP_congr fun other hother => by rw [hsame other hother]
    rw [List.countP_cons, ih hrest hapart', hcount, hremoved.was_eq]

/-- Paths that lead to files of their own, or to nothing, can be removed one after the other. -/
theorem removeAll_of_removable (h : ∀ path ∈ paths, Removable files cwd path)
    (hapart : paths.Pairwise fun path other => ¬ LeadTogether files cwd path other) :
    ∃ files' count, Command.removeAll cwd paths files = (files', .ok count) := by
  induction paths generalizing files with
  | nil => exact ⟨files, 0, rfl⟩
  | cons path paths ih =>
    obtain ⟨hfirst, hothers⟩ := List.pairwise_cons.mp hapart
    obtain ⟨middle, was, hremove⟩ := (h path List.mem_cons_self).exists_removed
    have hremoved := removed_of_removeIfThere hremove
    have hrest : ∀ other ∈ paths, Removable middle cwd other := fun other hother =>
      hremoved.removes.removable_apart (by simpa using hfirst other hother)
        (h other (List.mem_cons_of_mem _ hother))
    obtain ⟨files', count, hall⟩ := ih hrest (hremoved.removes.thinned.pairwise_apart hothers)
    exact ⟨files', _, by simp only [Command.removeAll, hremove, hall]; rfl⟩

/-- There is nothing to remove where nothing is. -/
theorem removeAll_of_missing (h : ∀ path ∈ paths, Missing files cwd path) :
    Command.removeAll cwd paths files = (files, .ok 0) := by
  induction paths with
  | nil => rfl
  | cons path paths ih =>
    have hrest := ih fun other hother => h other (List.mem_cons_of_mem _ hother)
    simp only [Command.removeAll, (h path List.mem_cons_self).removeIfThere, hrest]
    rfl

end Removing

/-! ### The commands -/

/-- The line for a copy in some state. -/
def stateLine (colours : Bool) (label path : String) (present : Bool) : String :=
  line (label ++ "\t" ++ path ++ "\t" ++
    if present then Ink.green.paint colours "present" else Ink.yellow.paint colours "missing")

/-- The line that tells how many copies were removed. -/
def removedLine (count : Nat) : String :=
  line ("Removed " ++ toString count ++ " cached file(s)")

/-- What is shown of the copies: where they are, and for each the state that loads go by. -/
def Shows (project : OpenProject) (files : FileTree) (cwd : Place) (colours : Bool)
    (manifest metadata output : String) : Prop :=
  ∃ present present', Tells VersionManifest.ofText files cwd manifest present ∧
    Tells Registry.metadataOfText files cwd metadata present' ∧
    output = line ("cache root\t" ++ project.plugin.cacheDir) ++
      stateLine colours "manifest" manifest present ++
      stateLine colours "version" metadata present'

/-- What a removal of the copies comes to. What is said of a second one holds whichever writes the
disk would stop. -/
structure Cleans (around : Surroundings) (options : Options) (cwd : Place) (files : FileTree)
    (manifest metadata : String) (files' : FileTree) (output : String) : Prop where
  gone : ∀ path ∈ [manifest, metadata], files'.isThere cwd path = false
  counted : output = removedLine ([manifest, metadata].countP (files.isThere cwd ·))
  others : Removes files cwd [manifest, metadata] files'
  /-- Once more, there is nothing to do. -/
  again : (∀ path ∈ [manifest, metadata],
      ¬ LeadTogether files cwd path (settingsPath cwd options.projectDir options.config)) →
    ∀ stops, Command.run around options ⟨files', stops⟩ cwd .cacheClean =
      (files', .wrote (removedLine 0))
  /-- A project whose settings were removed does not open. -/
  settings : ∀ path ∈ [manifest, metadata],
    LeadTogether files cwd path (settingsPath cwd options.projectDir options.config) →
    ∃ failure, ∀ stops, Command.run around options ⟨files', stops⟩ cwd .cacheClean =
      (files', .failed failure)

section Commands

variable {around : Surroundings} {options : Options} {disk : Disk} {files' : FileTree}
variable {cwd : Place} {project : OpenProject} {network : Network}
variable {manifest metadata output : String} {count : Nat}

/-- A project that does not open is not cleaned. -/
theorem run_cacheClean_of_error {failure : Failure}
    (hopen : OpenProject.at around.connect around.env disk.files cwd options.projectDir
      options.config = .error failure) :
    Command.run around options disk cwd .cacheClean = (disk.files, .failed failure) := by
  unfold Command.run
  rw [hopen]

section Opens

variable (hopen : OpenProject.at around.connect around.env disk.files cwd options.projectDir
  options.config = .ok (project, network))

include hopen

/-- To show the copies changes no file. -/
theorem run_cacheInfo :
    Command.run around options disk cwd .cacheInfo =
      (disk.files, Command.runCacheInfo project ⟨disk, cwd, network⟩ around.colours) := by
  unfold Command.run
  rw [hopen]
  rfl

/-- The copies are removed where the project was opened. -/
theorem run_cacheClean :
    Command.run around options disk cwd .cacheClean =
      ((Command.runCacheClean project ⟨disk, cwd, network⟩).1.files,
        (Command.runCacheClean project ⟨disk, cwd, network⟩).2) := by
  unfold Command.run
  rw [hopen]
  rfl

/-- A removal that succeeds, told by its parts. -/
theorem run_cacheClean_of_removeAll (hpaths : project.copyPaths = .ok (manifest, metadata))
    (hremove : Command.removeAll cwd [manifest, metadata] disk.files = (files', .ok count)) :
    Command.run around options disk cwd .cacheClean = (files', .wrote (removedLine count)) := by
  rw [run_cacheClean hopen]
  unfold Command.runCacheClean
  simp only [hpaths, Site.files, hremove]
  rfl

/-- The copies are removed where each path leads to a file or to nothing. -/
theorem run_cacheClean_of_removable (hpaths : project.copyPaths = .ok (manifest, metadata))
    (h : ∀ path ∈ [manifest, metadata], Removable disk.files cwd path) :
    ∃ files' output, Command.run around options disk cwd .cacheClean =
      (files', .wrote output) := by
  obtain ⟨files', count, hremove⟩ := removeAll_of_removable h
    (List.pairwise_pair.mpr (not_leadTogether_copyPaths hpaths disk.files cwd))
  exact ⟨files', _, run_cacheClean_of_removeAll hopen hpaths hremove⟩

/-- Where the copies can be named, they are shown with the state that loads go by. -/
theorem run_cacheInfo_of_copyPaths (hpaths : project.copyPaths = .ok (manifest, metadata)) :
    ∃ output, Command.run around options disk cwd .cacheInfo = (disk.files, .wrote output) ∧
      Shows project disk.files cwd around.colours manifest metadata output := by
  refine ⟨_, ?_, _, _, tells_isFile _ disk.files cwd manifest,
    tells_isFile _ disk.files cwd metadata, rfl⟩
  rw [run_cacheInfo hopen]
  unfold Command.runCacheInfo
  rw [hpaths]
  rfl

/-- What is shown is where the copies are, with the state that loads go by. -/
theorem shows_of_run
    (h : Command.run around options disk cwd .cacheInfo = (files', ⟨output, .ok ()⟩)) :
    files' = disk.files ∧ ∃ manifest metadata, project.copyPaths = .ok (manifest, metadata) ∧
      Shows project disk.files cwd around.colours manifest metadata output := by
  cases hpaths : project.copyPaths with
  | error e =>
    rw [run_cacheInfo hopen, Command.runCacheInfo, hpaths] at h
    cases h
  | ok paths =>
    obtain ⟨manifest, metadata⟩ := paths
    obtain ⟨shown, hrun, hshows⟩ := run_cacheInfo_of_copyPaths hopen hpaths
    rw [hrun] at h
    cases h
    exact ⟨rfl, manifest, metadata, rfl, hshows⟩

/-- A removal that succeeds leaves no copy, and it can be repeated if the settings are left. -/
theorem cleans_of_run
    (h : Command.run around options disk cwd .cacheClean = (files', ⟨output, .ok ()⟩)) :
    ∃ manifest metadata, project.copyPaths = .ok (manifest, metadata) ∧
      Cleans around options cwd disk.files manifest metadata files' output := by
  rw [run_cacheClean hopen] at h
  unfold Command.runCacheClean at h
  simp only [Site.files] at h
  split at h
  · cases h
  · rename_i manifest metadata hpaths
    split at h
    · rename_i left count hremove
      cases h
      have hremoved := removedAll_of_removeAll hremove
      -- No path leads to both copies, so none is counted twice.
      have hapart : [manifest, metadata].Pairwise
          fun path other => ¬ LeadTogether disk.files cwd path other :=
        List.pairwise_pair.mpr (not_leadTogether_copyPaths hpaths disk.files cwd)
      have hcount := count_of_removeAll hremove hapart
      have hthere : [manifest, metadata].countP (disk.files.isThere cwd ·) =
          [manifest, metadata].countP (disk.files.isFile cwd ·) :=
        List.countP_congr fun path hpath => by
          rw [hremoved.removes.thinned.isThere_eq_isFile (hremoved.missing path hpath)]
      obtain ⟨found, hfound⟩ := settings_of_at hopen
      refine ⟨manifest, metadata, hpaths, ?_⟩
      constructor
      · exact fun path hpath => (hremoved.missing path hpath).isThere
      · rw [hthere, ← hcount]
        rfl
      · exact hremoved.removes
      · -- The settings are not one of the copies: the project opens as before and finds nothing.
        intro hown stops
        have hkept := (hremoved.removes.fileAt?_apart hown).trans hfound
        have hopen' := (at_of_settings hfound hkept).trans hopen
        exact run_cacheClean_of_removeAll hopen' hpaths (removeAll_of_missing hremoved.missing)
      · -- The settings were removed as a copy, and the project does not open any more.
        intro path hpath htogether
        have hnone := fileAt?_of_leadTogether hremoved.removes.thinned htogether
          (hremoved.missing path hpath)
        obtain ⟨failure, hfails⟩ := at_of_noSettings around.connect around.env hnone
        exact ⟨failure, fun stops => run_cacheClean_of_error hfails⟩
    · cases h

end Opens

/-- The commands on the copies of a project that opens, and the loads in it. Where the paths of the
copies expand, they are the same for both. Then the copies are shown, each in the state that a load
goes by when its fetch fails, and they are removed unless something else is in the way. When a
removal succeeds it leaves neither copy, counts those that were there, and touches nothing else. A
second one finds nothing, unless the settings were one of the copies: then the project does not open
any more. -/
theorem cache_follows_loads (around : Surroundings) (options : Options) (disk : Disk)
    (cwd : Place) (project : OpenProject) (network : Network)
    (hopen : OpenProject.at around.connect around.env disk.files cwd options.projectDir
      options.config = .ok (project, network)) :
    (∀ manifest metadata, project.copyPaths = .ok (manifest, metadata) →
      KeepsAt project manifest metadata ∧
      (∃ output, Command.run around options disk cwd .cacheInfo = (disk.files, .wrote output) ∧
        Shows project disk.files cwd around.colours manifest metadata output) ∧
      ((∀ path ∈ [manifest, metadata], Removable disk.files cwd path) →
        ∃ files' output, Command.run around options disk cwd .cacheClean =
          (files', .wrote output))) ∧
    (∀ files' output,
      Command.run around options disk cwd .cacheInfo = (files', ⟨output, .ok ()⟩) →
      files' = disk.files ∧ ∃ manifest metadata, project.copyPaths = .ok (manifest, metadata) ∧
        Shows project disk.files cwd around.colours manifest metadata output) ∧
    (∀ files' output,
      Command.run around options disk cwd .cacheClean = (files', ⟨output, .ok ()⟩) →
      ∃ manifest metadata, project.copyPaths = .ok (manifest, metadata) ∧
        Cleans around options cwd disk.files manifest metadata files' output) :=
  ⟨fun _ _ hpaths => ⟨keepsAt_of_fresh (fresh_of_at hopen) hpaths,
      run_cacheInfo_of_copyPaths hopen hpaths, run_cacheClean_of_removable hopen hpaths⟩,
    fun _ _ => shows_of_run hopen, fun _ _ => cleans_of_run hopen⟩

end Commands

/-! ### Projects to try this on -/

/-- Surroundings without variables, in which nothing is answered. -/
def alone : Surroundings :=
  ⟨⟨none, none, none, none, none⟩, Http.connect, false⟩

/-- Options that may name the file with the settings. -/
def optionsOf (config : Option String) : Options :=
  ⟨false, false, config, none⟩

/-- A project whose paths are known has opened. -/
theorem opened_of_copyPaths {opened : Except Failure (OpenProject × Network)}
    {paths : String × String}
    (h : opened.toOption.map (fun o => o.1.copyPaths) = some (.ok paths)) :
    ∃ project network, opened = .ok (project, network) ∧ project.copyPaths = .ok paths :=
  exists_opened h

/-- Trees are compared by their entries. -/
theorem eq_of_entries {removal : FileTree × Except BuildError Nat} {files : FileTree}
    {result : Except BuildError Nat} (hentries : removal.1.entries = files.entries)
    (hresult : removal.2 = result) : removal = (files, result) :=
  Prod.ext (congrArg FileTree.mk hentries) hresult

/-- A version that names the channel of the mappings, and a copy of the manifest. -/
def channelVersion : FileTree :=
  ⟨[(["mcgradle.toml"], .file ("[minecraft]\nversion = \"1.12-@MAPPING_CHANNEL@\"\n" ++
      "mapping_channel = \"stable\"\n[cache]\ndir = \"copies\"\n").toUTF8),
    (["copies"], .directory), (["copies", "version_manifest.json"], .file "{}".toUTF8)]⟩

/-- The project opens, and the channel stands in the path of the second copy. -/
theorem opened_channelVersion :
    ∃ project network, OpenProject.at alone.connect alone.env channelVersion [] none none =
        .ok (project, network) ∧
      project.copyPaths = .ok ("/copies/version_manifest.json",
        "/copies/versions/1.12-stable/version.json") :=
  opened_of_copyPaths (by decide +kernel)

/-- Loads and commands agree on the paths. The copies are shown, and the one that is there is
removed. -/
theorem cache_follows_loads_channelVersion :
    ∃ project network, OpenProject.at alone.connect alone.env channelVersion [] none none =
        .ok (project, network) ∧
      KeepsAt project "/copies/version_manifest.json"
        "/copies/versions/1.12-stable/version.json" ∧
      (∃ output, Command.run alone (optionsOf none) channelVersion [] .cacheInfo =
          (channelVersion, .wrote output) ∧
        Shows project channelVersion [] false "/copies/version_manifest.json"
          "/copies/versions/1.12-stable/version.json" output) ∧
      Command.run alone (optionsOf none) channelVersion [] .cacheClean =
        (channelVersion.erase ["copies", "version_manifest.json"], .wrote (removedLine 1)) ∧
      Cleans alone (optionsOf none) [] channelVersion "/copies/version_manifest.json"
        "/copies/versions/1.12-stable/version.json"
        (channelVersion.erase ["copies", "version_manifest.json"]) (removedLine 1) := by
  have hremove : Command.removeAll [] ["/copies/version_manifest.json",
      "/copies/versions/1.12-stable/version.json"] channelVersion =
      (channelVersion.erase ["copies", "version_manifest.json"], .ok 1) :=
    eq_of_entries (by decide +kernel) (by decide +kernel)
  obtain ⟨project, network, hopen, hpaths⟩ := opened_channelVersion
  obtain ⟨hpathsIn, -, hclean⟩ :=
    cache_follows_loads alone (optionsOf none) channelVersion [] project network hopen
  obtain ⟨hkeeps, hinfo, -⟩ := hpathsIn _ _ hpaths
  have hrun : Command.run alone (optionsOf none) channelVersion [] .cacheClean =
      (channelVersion.erase ["copies", "version_manifest.json"], .wrote (removedLine 1)) :=
    run_cacheClean_of_removeAll hopen hpaths hremove
  -- The paths are those that were found, so what is said of any paths holds of these.
  obtain ⟨manifest, metadata, hsame, hcleans⟩ := hclean _ _ hrun
  rw [hpaths] at hsame
  cases hsame
  exact ⟨project, network, hopen, hkeeps, hinfo, hrun, hcleans⟩

/-- When the copies of a project were removed, a second removal finds nothing. -/
def CleansTwice : Prop :=
  ∀ (around : Surroundings) (options : Options) (disk : Disk) (files' : FileTree) (cwd : Place)
    (output : String),
    Command.run around options disk cwd .cacheClean = (files', ⟨output, .ok ()⟩) →
    ∃ left, Command.run around options { disk with files := files' } cwd .cacheClean =
      (left, .wrote (removedLine 0))

/-- Settings in the place of the copy of the manifest. -/
def ownSettings : FileTree :=
  ⟨[(["cache"], .directory), (["cache", "version_manifest.json"],
    .file "[minecraft]\nversion = \"1\"\n\n[cache]\ndir = \"cache\"\n".toUTF8)]⟩

/-- The settings are removed as a copy, and the second command does not find them. -/
theorem not_cleansTwice : ¬ CleansTwice := by
  intro h
  have hcopies : (OpenProject.at alone.connect alone.env ownSettings [] none
      (some "cache/version_manifest.json")).toOption.map (fun opened => opened.1.copyPaths) =
      some (.ok ("/cache/version_manifest.json", "/cache/versions/1/version.json")) := by
    decide +kernel
  have hremove : Command.removeAll [] ["/cache/version_manifest.json",
      "/cache/versions/1/version.json"] ownSettings =
      (ownSettings.erase ["cache", "version_manifest.json"], .ok 1) :=
    eq_of_entries (by decide +kernel) (by decide +kernel)
  have hnone : fileAt? (ownSettings.erase ["cache", "version_manifest.json"]) []
      (settingsPath [] none (some "cache/version_manifest.json")) = none := by decide +kernel
  obtain ⟨project, network, hopen, hpaths⟩ := opened_of_copyPaths hcopies
  have hfirst : Command.run alone (optionsOf (some "cache/version_manifest.json")) ownSettings []
      .cacheClean = (_, .wrote (removedLine 1)) :=
    run_cacheClean_of_removeAll hopen hpaths hremove
  -- The first command took the settings away, and without them nothing opens.
  obtain ⟨failure, hfails⟩ := at_of_noSettings alone.connect alone.env hnone
  obtain ⟨left, hagain⟩ := h _ _ _ _ _ _ hfirst
  rw [run_cacheClean_of_error hfails] at hagain
  have hresult := congrArg (fun ran => ran.2.result) hagain
  cases hresult

end ModBuild.Proofs.CommandLine
