import ModBuild.Proofs.Project.Opened
import ModBuild.Proofs.Registry.Applied

/-!
# `ModBuild.Proofs.Project.CacheRoot`: where the copies are kept

The directory for copies comes from the settings or, if they name none, from the variables around
the build. A directory in the settings is taken from the directory of the project on, which starts
at the root. A directory in a variable is taken as it is, so the copies are somewhere else for every
working directory if it does not start at the root. The theorems:

* `isAbsolute_join` and `isAbsolute_directory`: paths that are built from paths that start at the
  root.
* `locate_of_isAbsolute`: such a path leads to the same place from every working directory.
* `isAbsolute_expand`: a template starts at the root if the value of its first token does.
* `cacheRoot_isAbsolute_iff`: when the directory for copies starts at the root.
* `rooted_cacheRoot`: the same for a project that is opened, and the copies of its documents.
-/

set_option autoImplicit false

namespace ModBuild.Proofs.Project

open ModBuild ModBuild.Path ModBuild.Proofs.Registry ModBuild.Proofs.Template
open ModBuild.Template (expand)

/-! ### Paths from the root on -/

section Paths

variable {base path : String}

/-- What stands behind a path does not make it absolute, or relative. -/
theorem isAbsolute_append (h : base ≠ "") : isAbsolute (base ++ path) = isAbsolute base := by
  have hne : base.toList ≠ [] := by simpa using h
  unfold isAbsolute
  rw [String.toList_append]
  cases hbase : base.toList with
  | nil => exact absurd hbase hne
  | cons c rest => rfl

/-- Appended paths start at the root if one of them does. -/
theorem isAbsolute_join (base path : String) :
    isAbsolute (join base path) = (isAbsolute base || isAbsolute path) := by
  unfold join
  cases hpath : isAbsolute path with
  | true => simp [hpath]
  | false =>
    simp only [Bool.false_eq_true, if_false, Bool.or_false]
    by_cases hbase : base = ""
    · subst hbase
      have hempty : "" ++ path = path := String.empty_append
      simp only [decide_true, Bool.true_or, if_true, hempty, hpath]
      rfl
    · split
      · exact isAbsolute_append hbase
      · rw [String.append_assoc]
        exact isAbsolute_append hbase

/-- A path in an absolute directory is absolute. -/
theorem isAbsolute_joinAll (h : isAbsolute base = true) (names : List String) :
    isAbsolute (joinAll base names) = true := by
  unfold joinAll
  induction names generalizing base with
  | nil => exact h
  | cons name names ih =>
    rw [List.foldl_cons]
    exact ih (by rw [isAbsolute_join, h, Bool.true_or])

/-- A path from the root on is that, if the working directory is. -/
theorem isAbsolute_absolute {cwd : String} (h : isAbsolute cwd = true) (path : String) :
    isAbsolute (absolute cwd path) = true := by
  have hbase : ∀ twoSlashes : Bool,
      isAbsolute (if isAbsolute path then (if twoSlashes then "//" else "/") else cwd) = true := by
    intro twoSlashes
    split
    · cases twoSlashes <;> decide
    · exact h
  unfold absolute
  simp only
  split
  · rw [isAbsolute_join, isAbsolute_joinAll (hbase _), Bool.true_or]
  · exact isAbsolute_joinAll (hbase _) _

/-- The directory of a project starts at the root, whatever it is called. -/
theorem isAbsolute_directory (cwd : Place) (name : Option String) :
    isAbsolute (OpenProject.directory cwd name) = true := by
  unfold OpenProject.directory
  refine isAbsolute_absolute ?_ _
  rw [isAbsolute_append (by decide)]
  rfl

/-- A path that starts at the root leads to the same place from every working directory. -/
theorem locate_of_isAbsolute (h : isAbsolute path = true) (files : FileTree) (cwd cwd' : Place) :
    files.locate cwd path = files.locate cwd' path := by
  have hstart : FileTree.startOf cwd path = FileTree.startOf cwd' path := by
    simp only [FileTree.startOf, h, if_true]
  unfold FileTree.locate
  rw [hstart]

end Paths

/-! ### Templates -/

section Templates

variable {table : Template.Table}

/-- The empty template expands to the empty text alone. -/
theorem expand_nothing {s : String} (h : expand table "" = .ok s) : s = "" := by
  rw [expand_eq_ok_iff] at h
  have hfree : TokenFree "".toList := tokenFree_of_not_mem (by decide)
  have hnil := eq_of_settle_of_tokenFree hfree h
  simpa using hnil

/-- What starts at the root does so after it is expanded, since no token holds a slash. -/
theorem isAbsolute_expand {value s : String} (hvalue : isAbsolute value = true)
    (h : expand table value = .ok s) : isAbsolute s = true := by
  have hhead : value.toList.head? = some '/' := by simpa [isAbsolute] using hvalue
  obtain ⟨rest, hrest⟩ := List.head?_eq_some_iff.mp hhead
  have htext : value = "" ++ String.ofList ['/'] ++ String.ofList rest := by
    rw [← String.toList_inj, hrest]
    simp [String.toList_append]
  rw [htext] at h
  obtain ⟨x, y, hx, -, rfl⟩ := expand_append_separator isSeparator_slash h
  rw [expand_nothing hx]
  simp [isAbsolute, String.toList_append]

/-- A path below the directory for copies starts at the root if the directory does. -/
theorem isAbsolute_expand_cacheDir {dir path : String} {behind : String}
    (hdir : table.find? "@CACHE_DIR@" = some dir) (habsolute : isAbsolute dir = true)
    (h : expand table ("@CACHE_DIR@" ++ String.ofList ['/'] ++ behind) = .ok path) :
    isAbsolute path = true := by
  have hname : "@CACHE_DIR@" = String.ofList (Template.tokenText "CACHE_DIR".toList) := by decide
  have hletters : IsTokenLetters "CACHE_DIR".toList := by
    simp [IsTokenLetters, Template.isNameLetter]
  have hvalue : valueOf? table "CACHE_DIR".toList = some dir := by
    rw [valueOf?, ← hname]
    exact hdir
  obtain ⟨x, y, hx, -, rfl⟩ := expand_append_separator isSeparator_slash h
  rw [hname] at hx
  have hfront : isAbsolute x = true := isAbsolute_expand habsolute (expand_token hletters hvalue hx)
  have hne : x ≠ "" := by
    rintro rfl
    exact absurd hfront (by decide)
  rw [String.append_assoc, isAbsolute_append hne, hfront]

end Templates

/-! ### The directory for copies -/

section Root

variable {config : Config} {env : Environment} {projectDir dir : String}

/-- Where the variables have the directory for copies from. -/
inductive Names (env : Environment) : String → Prop where
  | own {dir : String} (hdir : env.cacheDir = some dir) (hne : dir ≠ "") : Names env dir
  | shared {dir : String} (hunset : ∀ d, env.cacheDir = some d → d = "")
      (hdir : env.sharedCacheDir = some dir) (habsolute : isAbsolute dir = true) :
      Names env (join dir "mcgradle")
  | home {dir : String} (hunset : ∀ d, env.cacheDir = some d → d = "")
      (hshared : ∀ d, env.sharedCacheDir = some d → isAbsolute d = false)
      (hdir : env.homeDir? = some dir) : Names env (join (join dir ".cache") "mcgradle")

/-- The directory of the copies is one that the environment names. -/
theorem names_of_cacheRoot (h : env.cacheRoot = .ok dir) : Names env dir := by
  unfold Environment.cacheRoot at h
  split at h
  · rename_i found hfound
    cases h
    obtain ⟨hdir, hne⟩ := Option.filter_eq_some_iff.mp hfound
    exact .own hdir (by simpa using hne)
  · rename_i hnone
    -- A variable that is set to nothing counts as one that is not set.
    have hunset : ∀ d, env.cacheDir = some d → d = "" := by simpa using hnone
    split at h
    · rename_i found hfound
      cases h
      unfold Environment.platformCacheDir? at hfound
      split at hfound
      · rename_i shared hshared
        cases hfound
        obtain ⟨hdir, habsolute⟩ := Option.filter_eq_some_iff.mp hshared
        exact .shared hunset hdir habsolute
      · rename_i hrelative
        obtain ⟨home, hhome, rfl⟩ := Option.map_eq_some_iff.mp hfound
        exact .home hunset (by simpa using hrelative) hhome
    · cases h

/-- The directory that the variables name does not start at the root. It is the one in the variable
for it, or it is below the directory of the person who runs the build. -/
inductive NamesRelative (env : Environment) : Prop where
  | own {dir : String} (hdir : env.cacheDir = some dir) (hne : dir ≠ "")
      (hrelative : isAbsolute dir = false)
  | home {dir : String} (hunset : ∀ d, env.cacheDir = some d → d = "")
      (hshared : ∀ d, env.sharedCacheDir = some d → isAbsolute d = false)
      (hdir : env.homeDir? = some dir) (hrelative : isAbsolute dir = false)

/-- A relative path in a directory is absolute exactly if the directory is. -/
theorem isAbsolute_join_relative {base path : String} (h : isAbsolute path = false) :
    isAbsolute (join base path) = isAbsolute base := by
  rw [isAbsolute_join, h, Bool.or_false]

/-- There is no other way in which it could fail to. -/
theorem Names.isAbsolute_iff (h : Names env dir) : isAbsolute dir = true ↔ ¬ NamesRelative env := by
  -- What stands behind the named directory is relative, so the name alone decides.
  cases h with
  | own hdir hne =>
    constructor
    · rintro habsolute (⟨hdir', -, hrelative⟩ | ⟨hunset, -, -, -⟩)
      · rw [hdir] at hdir'
        cases hdir'
        rw [habsolute] at hrelative
        cases hrelative
      · exact hne (hunset _ hdir)
    · intro h
      by_contra hrelative
      exact h (.own hdir hne (by simpa using hrelative))
  | @shared shared hunset hdir habsolute =>
    rw [isAbsolute_join_relative (by decide), habsolute]
    refine iff_of_true rfl ?_
    rintro (⟨hdir', hne, -⟩ | ⟨-, hshared, -, -⟩)
    · exact hne (hunset _ hdir')
    · rw [hshared _ hdir] at habsolute
      cases habsolute
  | @home home hunset hshared hdir =>
    rw [isAbsolute_join_relative (by decide), isAbsolute_join_relative (by decide)]
    constructor
    · rintro habsolute (⟨hdir', hne, -⟩ | ⟨-, -, hdir', hrelative⟩)
      · exact hne (hunset _ hdir')
      · rw [hdir] at hdir'
        cases hdir'
        rw [habsolute] at hrelative
        cases hrelative
    · intro h
      by_contra hrelative
      exact h (.home hunset hshared hdir (by simpa using hrelative))

/-- The directory for copies starts at the root, unless the settings leave it to variables that name
one which does not. -/
theorem cacheRoot_isAbsolute_iff (hproject : isAbsolute projectDir = true)
    (h : config.cacheRoot env projectDir = .ok dir) :
    isAbsolute dir = true ↔ (config.cacheDir = none → ¬ NamesRelative env) := by
  unfold Config.cacheRoot at h
  split at h
  · -- What the settings say is taken from the directory of the project on.
    rename_i named hnamed
    cases h
    rw [isAbsolute_join, hproject, hnamed]
    simp
  · rename_i hnone
    rw [hnone, (names_of_cacheRoot h).isAbsolute_iff]
    simp

end Root

/-! ### Projects that are opened -/

section Opening

variable {connect : String → Except BuildError Network} {env : Environment} {files : FileTree}
variable {cwd : Place} {dirName file : Option String} {project : OpenProject} {network : Network}

/-- The path starts at the root, and so leads to the same place from every working directory. -/
structure IsRooted (path : String) : Prop where
  absolute : isAbsolute path = true
  locate : ∀ (files : FileTree) (cwd cwd' : Place), files.locate cwd path = files.locate cwd' path

/-- An absolute path is rooted. -/
theorem isRooted_of_isAbsolute {path : String} (h : isAbsolute path = true) : IsRooted path :=
  ⟨h, locate_of_isAbsolute h⟩

/-- Settings in a file that is named from the root on are the same from everywhere. -/
theorem load_of_isAbsolute {path : String} (h : isAbsolute path = true) (files : FileTree)
    (cwd cwd' : Place) : Config.load files cwd path = Config.load files cwd' path := by
  have hread : files.readText? cwd path = files.readText? cwd' path := by
    simp only [FileTree.readText?, FileTree.read, FileTree.stat,
      locate_of_isAbsolute h files cwd cwd']
  unfold Config.load
  rw [hread]

/-- The settings are in a file below the directory of the project unless another file is named. -/
theorem isAbsolute_locate {dir : String} (hdir : isAbsolute dir = true)
    (hfile : ∀ name, file = some name → isAbsolute name = true) :
    isAbsolute (Config.locate dir file) = true := by
  unfold Config.locate
  cases file with
  | none => rw [Option.getD_none, isAbsolute_join, hdir, Bool.true_or]
  | some name => exact hfile name rfl

/-- So is a project, if its directory is named from the root on, and its settings are there or are
named like it. -/
theorem at_of_isAbsolute {dir : String} (hdir : isAbsolute dir = true)
    (hfile : ∀ name, file = some name → isAbsolute name = true)
    (connect : String → Except BuildError Network) (env : Environment) (files : FileTree)
    (cwd cwd' : Place) :
    OpenProject.at connect env files cwd (some dir) file =
      OpenProject.at connect env files cwd' (some dir) file := by
  have hsame : OpenProject.directory cwd (some dir) = OpenProject.directory cwd' (some dir) := by
    simp only [OpenProject.directory, Option.getD_some, absolute, hdir, if_true]
  have hpath : isAbsolute (Config.locate (OpenProject.directory cwd' (some dir)) file) = true :=
    isAbsolute_locate (isAbsolute_directory cwd' (some dir)) hfile
  simp only [OpenProject.at, hsame, load_of_isAbsolute hpath files cwd cwd']

/-- The directory for copies is what is registered for it. -/
theorem find?_cacheDir_of_at
    (h : OpenProject.at connect env files cwd dirName file = .ok (project, network)) :
    ∃ dir, project.config.cacheRoot env (OpenProject.directory cwd dirName) = .ok dir ∧
      (project.registry.table project.context).find? "@CACHE_DIR@" = some dir := by
  unfold OpenProject.at at h
  simp only at h
  split at h
  · cases h
  rename_i config _
  split at h
  · cases h
  split at h
  · cases h
  rename_i opened hopened
  cases h
  -- To open it, the instance of the settings was applied to a fresh context.
  unfold OpenProject.ofConfig at hopened
  split at hopened
  · cases hopened
  rename_i plugin hplugin
  obtain ⟨registry, happly, happlied⟩ := apply_applied
    (Registry.empty config.network.manifestUrl) OpenProject.ownContext plugin
  rw [happly] at hopened
  cases hopened
  unfold Config.toInstance at hplugin
  split at hplugin
  · rename_i dir hdir
    cases hplugin
    exact ⟨dir, hdir, happlied.standard.cacheDir⟩
  · cases hplugin

/-- The copies of both documents are kept below that directory. -/
theorem isRooted_copyPaths {dir manifest metadata : String}
    (hfind : (project.registry.table project.context).find? "@CACHE_DIR@" = some dir)
    (habsolute : isAbsolute dir = true) (hpaths : project.copyPaths = .ok (manifest, metadata)) :
    IsRooted manifest ∧ IsRooted metadata := by
  obtain ⟨hmanifest, hmetadata⟩ := copyPaths_eq_ok_iff.mp hpaths
  have hmanifestLocation : Registry.manifestLocation =
      "@CACHE_DIR@" ++ String.ofList ['/'] ++ "version_manifest.json" := by decide
  have hmetadataLocation : OpenProject.metadataTemplate =
      "@CACHE_DIR@" ++ String.ofList ['/'] ++ "versions/@MC_VERSION@/version.json" := by decide
  rw [hmanifestLocation] at hmanifest
  rw [hmetadataLocation] at hmetadata
  exact ⟨isRooted_of_isAbsolute (isAbsolute_expand_cacheDir hfind habsolute hmanifest),
    isRooted_of_isAbsolute (isAbsolute_expand_cacheDir hfind habsolute hmetadata)⟩

/-- The directory for copies starts at the root, unless the settings leave it to variables that name
one which does not. Where it does, it is registered for a project that is opened, and it and the
paths of the copies lead to the same places from every working directory. The project itself opens
in the same way from every working directory, if it is named from the root on. -/
theorem rooted_cacheRoot (env : Environment) :
    (∀ config projectDir dir, isAbsolute projectDir = true →
      Config.cacheRoot config env projectDir = .ok dir →
      (isAbsolute dir = true ↔ (config.cacheDir = none → ¬ NamesRelative env))) ∧
    (∀ connect files cwd dirName file project network,
      OpenProject.at connect env files cwd dirName file = .ok (project, network) →
      (project.config.cacheDir = none → ¬ NamesRelative env) →
      (∃ dir, (project.registry.table project.context).find? "@CACHE_DIR@" = some dir ∧
        IsRooted dir) ∧
      ∀ manifest metadata, project.copyPaths = .ok (manifest, metadata) →
        IsRooted manifest ∧ IsRooted metadata) ∧
    ∀ connect files cwd cwd' dir file, isAbsolute dir = true →
      (∀ name, file = some name → isAbsolute name = true) →
      OpenProject.at connect env files cwd (some dir) file =
        OpenProject.at connect env files cwd' (some dir) file := by
  refine ⟨fun config projectDir dir => cacheRoot_isAbsolute_iff, ?_,
    fun connect files cwd cwd' dir file hdir hfile =>
      at_of_isAbsolute hdir hfile connect env files cwd cwd'⟩
  intro connect files cwd dirName file project network hopen henv
  obtain ⟨dir, hroot, hfind⟩ := find?_cacheDir_of_at hopen
  -- A project stands in an absolute directory, whatever it was named by.
  have habsolute : isAbsolute dir = true :=
    (cacheRoot_isAbsolute_iff (isAbsolute_directory cwd dirName) hroot).mpr henv
  exact ⟨⟨dir, hfind, isRooted_of_isAbsolute habsolute⟩,
    fun manifest metadata => isRooted_copyPaths hfind habsolute⟩

end Opening

/-- The directory of a person, next to variables that do not count: one is empty, and the other does
not start at the root. -/
def homeOnly : Environment :=
  ⟨some "", some "shared", some "/home/u", none, none⟩

/-- A project that says nothing about copies. -/
def onlyVersion : FileTree :=
  ⟨[(["mcgradle.toml"], .file "[minecraft]\nversion = \"1\"\n".toUTF8)]⟩

/-- The copies of a project are kept below the directory of the person. -/
theorem rooted_homeOnly :
    ¬ NamesRelative homeOnly ∧ ∃ project network,
      OpenProject.at (fun _ => .ok (.ofPages [] false)) homeOnly onlyVersion [] none none =
        .ok (project, network) ∧
      (project.registry.table project.context).find? "@CACHE_DIR@" =
        some "/home/u/.cache/mcgradle" ∧ IsRooted "/home/u/.cache/mcgradle" ∧
      IsRooted "/home/u/.cache/mcgradle/version_manifest.json" ∧
      IsRooted "/home/u/.cache/mcgradle/versions/1/version.json" := by
  have henv : ¬ NamesRelative homeOnly := by
    rintro (⟨hdir, hne, -⟩ | ⟨-, -, hdir, hrelative⟩)
    · cases hdir
      exact hne rfl
    · have hhome : homeOnly.homeDir? = some "/home/u" := by decide
      rw [hhome] at hdir
      cases hdir
      exact absurd hrelative (by decide)
  have hknown : (OpenProject.at (fun _ => .ok (.ofPages [] false)) homeOnly onlyVersion []
      none none).toOption.map (fun opened =>
        ((opened.1.registry.table opened.1.context).find? "@CACHE_DIR@", opened.1.copyPaths)) =
      some (some "/home/u/.cache/mcgradle", .ok ("/home/u/.cache/mcgradle/version_manifest.json",
        "/home/u/.cache/mcgradle/versions/1/version.json")) := by
    decide +kernel
  -- The settings are parsed once, for the directory and for the copies together.
  obtain ⟨project, network, hopen, hboth⟩ := exists_opened
    (f := fun project => ((project.registry.table project.context).find? "@CACHE_DIR@",
      project.copyPaths)) hknown
  obtain ⟨hfind, hpaths⟩ := Prod.mk.inj hboth
  obtain ⟨⟨dir, hdir, hrooted⟩, hcopies⟩ :=
    (rooted_cacheRoot homeOnly).2.1 _ _ _ _ _ project network hopen fun _ => henv
  rw [hfind] at hdir
  cases hdir
  exact ⟨henv, project, network, hopen, hfind, hrooted, hcopies _ _ hpaths⟩

/-- A relative directory in the variable for copies is used as it is. -/
theorem not_alwaysRooted :
    ¬ ∀ config env projectDir dir, isAbsolute projectDir = true →
      Config.cacheRoot config env projectDir = .ok dir → isAbsolute dir = true := by
  intro hall
  have habsolute := hall (.ofVersion "1.12.2") ⟨some "envcache", none, some "/home/u", none, none⟩
    "/work/mod" "envcache" (by decide) (by decide)
  exact absurd habsolute (by decide)

end ModBuild.Proofs.Project
