import ModBuild.Project.Sample
import ModBuild.Proofs.Documents.Fetch
import ModBuild.Proofs.Files.Path
import ModBuild.Proofs.Toml.Lines

/-!
# `ModBuild.Proofs.Project.Settings`: settings that are written are read back

The settings of a project are written as three sections. Some of them may be missing from the text
and some get a value of their own then, so what is written and what is read have to fit together.
The theorems:

* `ofText?_text`: settings that are written are read back.
* `load_of_readText?`: from a file they are read back, too, and then checked.
* `reloaded_changedSample`: sample projects, whatever is changed about them.
-/

set_option autoImplicit false

namespace ModBuild.Proofs.Project

open ModBuild ModBuild.Toml ModBuild.Proofs.Files ModBuild.Proofs.Documents ModBuild.Proofs.Toml

/-! ### The sections of a project -/

/-- A setting that is a text. -/
def textSetting (name value : String) : Setting :=
  ⟨name, quotedChars value.toList, .text value⟩

/-- A setting that is a number. -/
def naturalSetting (name : String) (value : Nat) : Setting :=
  ⟨name, Nat.toDigits 10 value, .scalar (.integer value)⟩

/-- The sections that settings are written as. -/
def sectionsOf (config : Config) : List Section :=
  [⟨"minecraft", [textSetting "version" config.extension.version,
      textSetting "mapping_channel" config.extension.mappingChannel,
      textSetting "mapping_version" config.extension.mappingVersion,
      textSetting "run_directory" config.extension.runDirectory]⟩,
    ⟨"cache", config.cacheDir.elim [] fun dir => [textSetting "dir" dir]⟩,
    ⟨"network", [textSetting "manifest_url" config.network.manifestUrl,
      textSetting "user_agent" config.network.userAgent,
      naturalSetting "timeout_secs" config.network.timeout]⟩]

/-- A text under a bare name can be read back. -/
theorem fits_textSetting {name : String} (h : IsBareName name) (value : String) :
    (textSetting name value).Fits :=
  ⟨h, readsAs_quoted value⟩

/-- A number under a bare name can be read back, up to the size of an integer. -/
theorem fits_naturalSetting {name : String} (h : IsBareName name) {value : Nat}
    (hvalue : value < Nat.pow 2 128) : (naturalSetting name value).Fits :=
  ⟨h, readsAs_natural hvalue⟩

/-- The line of a text is the one that a setting writes. -/
theorem line_text (name value : String) :
    (Config.line name (quoted value)).toList = (textSetting name value).line := by
  have hsign : " = ".toList = [' ', '=', ' '] := by decide
  have hend : "\n".toList = ['\n'] := by decide
  simp [Config.line, quoted, textSetting, Setting.line, hsign, hend]

/-- The line of a number is the one that a setting writes. -/
theorem line_natural (name : String) (value : Nat) :
    (Config.line name (toString value)).toList = (naturalSetting name value).line := by
  have hsign : " = ".toList = [' ', '=', ' '] := by decide
  have hend : "\n".toList = ['\n'] := by decide
  simp [Config.line, naturalSetting, Setting.line, hsign, hend]

variable {config : Config}

/-- The text of settings is that of their sections. -/
theorem text_eq (config : Config) :
    config.text = String.ofList (documentChars (sectionsOf config)) := by
  have hminecraft : "[minecraft]\n".toList = '[' :: ("minecraft".toList ++ [']', '\n']) := by decide
  have hcache : "\n[cache]\n".toList = '\n' :: '[' :: ("cache".toList ++ [']', '\n']) := by decide
  have hnetwork : "\n[network]\n".toList = '\n' :: '[' :: ("network".toList ++ [']', '\n']) := by
    decide
  rw [← String.toList_inj, String.toList_ofList]
  unfold Config.text
  simp only [String.toList_append, line_text, line_natural, hminecraft, hcache, hnetwork,
    documentChars, sectionsOf, List.map_cons, List.map_nil, Section.chars, List.flatMap_cons,
    List.flatMap_nil, List.intercalate_cons_cons, List.intercalate_singleton]
  cases config.cacheDir with
  | none => simp
  | some dir => simp [line_text]

/-- What is written of a project can be read back. -/
theorem fits_sectionsOf (h : config.network.timeout < Nat.pow 2 64) :
    ∀ part ∈ sectionsOf config, part.Fits := by
  have htimeout : config.network.timeout < Nat.pow 2 128 :=
    Nat.lt_of_lt_of_le h (Nat.pow_le_pow_right (by decide) (by decide))
  have hminecraft : ["version", "mapping_channel", "mapping_version", "run_directory"].Nodup := by
    decide
  have hnetwork : ["manifest_url", "user_agent", "timeout_secs"].Nodup := by decide
  have hname : IsBareName "minecraft" ∧ IsBareName "cache" ∧ IsBareName "network" := by decide
  unfold sectionsOf
  simp only [List.forall_mem_cons]
  refine ⟨⟨hname.1, hminecraft, ?_⟩, ⟨hname.2.1, ?_, ?_⟩, ⟨hname.2.2, hnetwork, ?_⟩, nofun⟩
  · simp only [List.forall_mem_cons]
    exact ⟨fits_textSetting (by decide) _, fits_textSetting (by decide) _,
      fits_textSetting (by decide) _, fits_textSetting (by decide) _, nofun⟩
  · -- A project without a directory for copies has an empty section for it.
    cases config.cacheDir <;> simp
  · cases config.cacheDir with
    | none => nofun
    | some dir => simpa using fits_textSetting (by decide) dir
  · simp only [List.forall_mem_cons]
    exact ⟨fits_textSetting (by decide) _, fits_textSetting (by decide) _,
      fits_naturalSetting (by decide) htimeout, nofun⟩

/-- The extension is read from the table that it is written as. -/
theorem readExtension?_table (e : Extension) :
    Config.readExtension? (.table .headed [("version", .text e.version),
      ("mapping_channel", .text e.mappingChannel), ("mapping_version", .text e.mappingVersion),
      ("run_directory", .text e.runDirectory)]) = some e := by
  simp [Config.readExtension?, Node.fields?, List.partition_eq_filter_filter,
    Node.membersReadable, Node.text?, List.lookup_cons]

/-- The directory of the copies is read from the table that it is written as. -/
theorem readCacheDir?_table (dir : Option String) :
    Config.readCacheDir? (.table .headed (dir.elim [] fun dir => [("dir", .text dir)])) =
      some dir := by
  cases dir <;>
    simp [Config.readCacheDir?, Node.fields?, List.partition_eq_filter_filter,
      Node.membersReadable, Node.text?]

/-- A number below its bound is read. -/
theorem naturalBelow?_of_lookup {bound n : Nat} {fields : List (String × Node)} {name : String}
    (h : fields.lookup name = some (.scalar (.integer n))) (hn : n < bound) :
    Node.naturalBelow? bound fields name = some (some n) := by
  have hbound : (0 ≤ (n : Int) && (n : Int) < (bound : Int)) = true := by
    rw [Bool.and_eq_true, decide_eq_true_eq, decide_eq_true_eq]
    exact ⟨Int.natCast_nonneg n, Int.ofNat_lt.mpr hn⟩
  simp only [Node.naturalBelow?, h, hbound, if_true, Int.toNat_natCast]

/-- The table of the network settings. -/
def networkFields (n : NetworkSettings) : List (String × Node) :=
  [("manifest_url", .text n.manifestUrl), ("user_agent", .text n.userAgent),
    ("timeout_secs", .scalar (.integer n.timeout))]

/-- The settings of the network are read from the table that they are written as. -/
theorem readNetwork?_table {n : NetworkSettings} (h : n.timeout < Nat.pow 2 64) :
    Config.readNetwork? (.table .headed (networkFields n)) = some n := by
  have hfields : Node.fields? ["manifest_url", "user_agent", "timeout_secs"]
      (.table .headed (networkFields n)) = some (networkFields n) := by
    simp [networkFields, Node.fields?, List.partition_eq_filter_filter, Node.membersReadable]
  have hurl : Node.text? (networkFields n) "manifest_url" = some (some n.manifestUrl) := by
    simp [networkFields, Node.text?]
  have hagent : Node.text? (networkFields n) "user_agent" = some (some n.userAgent) := by
    simp [networkFields, Node.text?, List.lookup_cons]
  have htimeout : Node.naturalBelow? (Nat.pow 2 64) (networkFields n) "timeout_secs" =
      some (some n.timeout) :=
    naturalBelow?_of_lookup (by simp [networkFields, List.lookup_cons]) h
  unfold Config.readNetwork?
  simp only [Option.bind_eq_bind]
  rw [hfields, Option.bind_some, hurl, Option.bind_some, hagent, Option.bind_some, htimeout]
  rfl

/-- The tables of the sections are read as the settings. -/
theorem ofNode?_sectionsOf (h : config.network.timeout < Nat.pow 2 64) :
    Config.ofNode? (.table .headed ((sectionsOf config).map Section.member)) = some config := by
  have hextension := readExtension?_table config.extension
  have hcache := readCacheDir?_table config.cacheDir
  have hnetwork := readNetwork?_table h
  unfold networkFields at hnetwork
  have hdir : (config.cacheDir.elim [] fun dir => [textSetting "dir" dir]).map Setting.member =
      config.cacheDir.elim [] fun dir => [("dir", .text dir)] := by
    cases config.cacheDir <;> rfl
  simp only [sectionsOf, List.map_cons, List.map_nil, Section.member, hdir]
  simp only [Setting.member, textSetting, naturalSetting]
  unfold Config.ofNode?
  simp [Node.fields?, List.partition_eq_filter_filter, Node.membersReadable, List.lookup_cons,
    hextension, hcache, hnetwork]

/-- Settings that are written are read back. -/
theorem ofText?_text (h : config.network.timeout < Nat.pow 2 64) :
    Config.ofText? config.text = some config := by
  have hdistinct : ((sectionsOf config).map Section.name).Nodup := by
    unfold sectionsOf
    simp only [List.map_cons, List.map_nil]
    decide
  unfold Config.ofText?
  rw [text_eq, ofText?_documentChars (fits_sectionsOf h) hdistinct, Option.bind_some,
    ofNode?_sectionsOf h]

/-! ### Settings in a file -/

/-- What comes of reading settings from a file they were written to: the same settings, but for a
version that is blank. -/
structure ReadsBack (config : Config) (path : String) (result : Except Failure Config) : Prop where
  accepted : (∃ c ∈ config.extension.version.toList, Text.isBlank c = false) → result = .ok config
  refused : (∀ c ∈ config.extension.version.toList, Text.isBlank c = true) →
    result = .error ((Failure.ofError (.config "[minecraft] version must not be empty")).explain
      ("Invalid config file: " ++ path))

/-- A file that holds the text of a project is loaded as that project. -/
theorem load_of_readText? {files : FileTree} {cwd : Place} {path : String}
    (hpos : 0 < config.network.timeout) (hbound : config.network.timeout < Nat.pow 2 64)
    (h : files.readText? cwd path = .ok config.text) :
    ReadsBack config path (Config.load files cwd path) := by
  -- The text is read in any case; what the version is decides whether it is accepted.
  have hread := ofText?_text hbound
  constructor
  · rintro ⟨c, hc, hblank⟩
    have hversion : Text.isAllBlank config.extension.version = false := by
      rw [Text.isAllBlank, List.all_eq_false]
      exact ⟨c, hc, by simp [hblank]⟩
    have hvalid : config.validate = .ok () := by
      simp [Config.validate, hversion, Nat.ne_of_gt hpos]
    simp only [Config.load, h, hread, hvalid]
  · intro hall
    have hversion : Text.isAllBlank config.extension.version = true := by
      rw [Text.isAllBlank, List.all_eq_true]
      exact hall
    have hinvalid : config.validate = .error (.config "[minecraft] version must not be empty") := by
      simp [Config.validate, hversion]
    simp only [Config.load, h, hread, hinvalid]

/-! ### Sample projects -/

/-- A name that a directory can have. -/
def IsFolderName (name : String) : Prop :=
  name ≠ "" ∧ name ≠ "." ∧ name ≠ ".." ∧ (∀ c ∈ name.toList, c ≠ '/' ∧ c.toNat ≠ 0) ∧
    name.utf8ByteSize ≤ FileTree.maxName

instance (name : String) : Decidable (IsFolderName name) :=
  decidable_of_iff (name ≠ "" ∧ name ≠ "." ∧ name ≠ ".." ∧
    name.toList.all (fun c => c ≠ '/' ∧ c.toNat ≠ 0) = true ∧
      name.utf8ByteSize ≤ FileTree.maxName) (by simp [IsFolderName, List.all_eq_true])

/-- What can be changed about a sample project. -/
inductive SampleChange where
  | manifestUrl (url : String)
  | mappings (channel version : String)

/-- The project after a change. -/
def SampleChange.apply (project : SampleProject) : SampleChange → SampleProject
  | .manifestUrl url => project.withManifestUrl url
  | .mappings channel version => project.withMappings channel version

/-- A sample project for a version, after some changes. -/
def changedSample (dir version : String) (changes : List SampleChange) : SampleProject :=
  changes.foldl SampleChange.apply (.ofVersion dir version)

/-- No change touches the directory, the version and the timeout. -/
structure SampleFor (dir version : String) (project : SampleProject) : Prop where
  dir_eq : project.dir = dir
  version_eq : project.config.extension.version = version
  timeout_eq : project.config.network.timeout = NetworkSettings.standard.timeout

/-- A change leaves a sample one for its directory and its version. -/
theorem SampleFor.apply {dir version : String} {project : SampleProject}
    (h : SampleFor dir version project) (change : SampleChange) :
    SampleFor dir version (change.apply project) := by
  obtain ⟨hdir, hversion, htimeout⟩ := h
  cases change with
  | manifestUrl url => exact ⟨hdir, hversion, htimeout⟩
  | mappings channel version => exact ⟨hdir, hversion, htimeout⟩

/-- A sample is one for its directory and its version after any changes. -/
theorem sampleFor_changedSample (dir version : String) (changes : List SampleChange) :
    SampleFor dir version (changedSample dir version changes) := by
  have hall : ∀ project, SampleFor dir version project →
      SampleFor dir version (changes.foldl SampleChange.apply project) := by
    induction changes with
    | nil =>
      intro project h
      exact h
    | cons change rest ih =>
      intro project h
      exact ih _ (h.apply change)
  exact hall _ ⟨rfl, rfl, rfl⟩

section Folder

variable {dir : String} (h : IsFolderName dir)

include h

/-- A name in a directory makes a path of two names. -/
theorem configPath_eq : Path.join dir Config.fileName = dir ++ "/" ++ Config.fileName := by
  obtain ⟨hempty, -, -, hchars, -⟩ := h
  have hslash : Path.endsInSlash dir = false := by
    unfold Path.endsInSlash
    cases hlast : dir.toList.getLast? with
    | none => rfl
    | some c =>
      have hc := (hchars c (List.mem_of_getLast? hlast)).1
      simpa using hc
  have hrelative : Path.isAbsolute Config.fileName = false := by decide
  simp [Path.join, hrelative, hempty, hslash]

/-- The folder of the sample is relative, and so is what stands in it. -/
theorem isAbsolute_folder (rest : String) : Path.isAbsolute (dir ++ rest) = false := by
  obtain ⟨hempty, -, -, hchars, -⟩ := h
  unfold Path.isAbsolute
  cases hdir : dir.toList with
  | nil => exact absurd (String.toList_eq_nil_iff.mp hdir) hempty
  | cons c more =>
    have hc := (hchars c (hdir ▸ List.mem_cons_self)).1
    simpa [String.toList_append, hdir] using hc

/-- The file of the sample stands in its folder. -/
theorem parts_folder : Path.parts (dir ++ "/" ++ Config.fileName) = [dir, Config.fileName] := by
  have hrelative : Path.isAbsolute (dir ++ "/" ++ Config.fileName) = false := by
    rw [String.append_assoc]
    exact isAbsolute_folder h _
  obtain ⟨hempty, -, -, hchars, -⟩ := h
  have hdir : Text.cutAt (· = '/') dir.toList = [dir.toList] :=
    cutAt_of_uncut fun c hc => by simpa using (hchars c hc).1
  have hname : Text.cutAt (· = '/') Config.fileName.toList = [Config.fileName.toList] := by decide
  have htext : (dir ++ "/" ++ Config.fileName).toList =
      dir.toList ++ '/' :: Config.fileName.toList := by
    have hslash : "/".toList = ['/'] := by decide
    simp [String.toList_append, hslash]
  have hcut : Path.segments (dir ++ "/" ++ Config.fileName) =
      [dir.toList, Config.fileName.toList] := by
    unfold Path.segments
    rw [hrelative]
    simp only [Bool.false_eq_true, if_false, htext]
    rw [cutAt_append rfl, hdir, hname]
    rfl
  -- Neither part is empty, so neither is left out of the path.
  have hkept : dir.toList ≠ [] := fun hnil => hempty (String.toList_eq_nil_iff.mp hnil)
  have hkept' : Config.fileName.toList ≠ [] := by decide
  unfold Path.parts
  rw [hcut]
  simp [hkept, hkept']

/-- A file in a directory below the root is found. -/
theorem locate_folder {tree : FileTree} (hentry : tree.entry? [dir] = some .directory) :
    tree.locate [] (dir ++ "/" ++ Config.fileName) =
      .ok ⟨[dir], .name Config.fileName, false⟩ := by
  have hparts := parts_folder h
  have hrelative : Path.isAbsolute (dir ++ "/" ++ Config.fileName) = false := by
    rw [String.append_assoc]
    exact isAbsolute_folder h _
  obtain ⟨hempty, hdot, hdots, hchars, hsize⟩ := h
  have hnul : (dir ++ "/" ++ Config.fileName).toList.any (·.toNat = 0) = false := by
    have hfile : ("/" ++ Config.fileName).toList.all (·.toNat ≠ 0) = true := by decide
    rw [List.any_eq_false]
    intro c hc
    rw [String.append_assoc, String.toList_append, List.mem_append] at hc
    rcases hc with hc | hc
    · simpa using (hchars c hc).2
    · simpa using List.all_eq_true.mp hfile c hc
  have hlong : ¬ (dir ++ "/" ++ Config.fileName).utf8ByteSize > FileTree.maxPath := by
    have hfile : ("/" ++ Config.fileName).utf8ByteSize = 14 := by decide
    rw [String.append_assoc, String.utf8ByteSize_append, hfile]
    unfold FileTree.maxName at hsize
    unfold FileTree.maxPath
    omega
  have hsome : dir ++ "/" ++ Config.fileName ≠ "" := by simp
  have hchild : tree.child [] dir = .ok .directory := child_eq_ok_iff.mpr ⟨hsize, hentry⟩
  have hwalk : tree.walk (FileTree.startOf [] (dir ++ "/" ++ Config.fileName))
      [dir, Config.fileName] = .ok ([dir], .name Config.fileName) := by
    have hname : tree.walk [dir] [Config.fileName] = .ok ([dir], .name Config.fileName) := rfl
    unfold FileTree.startOf
    rw [hrelative, if_neg (by decide), FileTree.walk, hchild]
    -- The name of the directory is neither of the two names that lead elsewhere.
    · exact hname
    · exact fun hname' _ => hdot hname'
    · exact fun hname' _ => hdots hname'
    · exact fun hnil => List.cons_ne_nil _ _ hnil
    · exact hdot
    · exact hdots
  have hslash : Path.endsInSlash (dir ++ "/" ++ Config.fileName) = false := by
    have hfile : ("/" ++ Config.fileName).toList.getLast? = some 'l' := by decide
    unfold Path.endsInSlash
    rw [String.append_assoc, String.toList_append, List.getLast?_append, hfile]
    rfl
  unfold FileTree.locate
  rw [hnul, if_neg (by decide), if_neg hsome, if_neg hlong, hparts, hwalk, hslash]

end Folder

/-- The settings of a sample project are in its file. -/
theorem fileAt?_files {project : SampleProject} (h : IsFolderName project.dir) :
    fileAt? project.files [] project.configPath =
      some ([project.dir, Config.fileName], project.config.text.toUTF8) := by
  have hdir : project.files.entry? [project.dir] = some .directory := by
    unfold SampleProject.files
    rw [entry?_set_of_ne _ _ (by simp), entry?_set_self _ _ (by simp)]
  have hfile : project.files.entry? ([project.dir] ++ [Config.fileName]) =
      some (.file project.config.text.toUTF8) := entry?_set_self _ _ (by simp)
  have hsize : Config.fileName.utf8ByteSize ≤ FileTree.maxName := by decide
  refine fileAt?_eq_some_iff.mpr ⟨[project.dir], Config.fileName, ?_, ?_, rfl⟩
  · rw [SampleProject.configPath, configPath_eq h]
    exact locate_folder h hdir
  · exact child_eq_ok_iff.mpr ⟨hsize, hfile⟩

/-- The settings of a sample project are read back from its file, whatever the texts in them are and
whatever was changed, and from every other file that they are written to. Only a version that is
blank is refused. -/
theorem reloaded_changedSample (dir version : String) (changes : List SampleChange) :
    (∀ files cwd path,
      FileTree.readText? files cwd path = .ok (changedSample dir version changes).config.text →
      ReadsBack (changedSample dir version changes).config path (Config.load files cwd path)) ∧
    (IsFolderName dir → ReadsBack (changedSample dir version changes).config
      (changedSample dir version changes).configPath (changedSample dir version changes).reloaded) ∧
    (changedSample dir version changes).config.extension.version = version := by
  obtain ⟨hdir, hversion, htimeout⟩ := sampleFor_changedSample dir version changes
  have hpos : 0 < (changedSample dir version changes).config.network.timeout := by
    rw [htimeout]
    decide
  have hbound : (changedSample dir version changes).config.network.timeout < Nat.pow 2 64 := by
    rw [htimeout]
    decide
  refine ⟨fun files cwd path h => load_of_readText? hpos hbound h, fun hname => ?_, hversion⟩
  rw [← hdir] at hname
  refine load_of_readText? hpos hbound ?_
  rw [FileTree.readText?, read_of_fileAt? (fileAt?_files hname)]
  simp only [fromUTF8?_toUTF8]

/-- A version with quotes of both kinds, a backslash and a line end is read back, and one that is
blank is refused. -/
theorem reloaded_quotesSample :
    (changedSample "demo" "1\"\"\"'''\\\n" [.mappings "a'b" "\t", .manifestUrl "\x00"]).reloaded =
      .ok (changedSample "demo" "1\"\"\"'''\\\n" [.mappings "a'b" "\t", .manifestUrl "\x00"]).config ∧
    (changedSample "demo" "\t\u00A0" []).reloaded =
      .error ((Failure.ofError (.config "[minecraft] version must not be empty")).explain
        "Invalid config file: demo/mcgradle.toml") := by
  obtain ⟨-, hquotes, hversion⟩ := reloaded_changedSample "demo" "1\"\"\"'''\\\n"
    [.mappings "a'b" "\t", .manifestUrl "\x00"]
  obtain ⟨-, hblank, hversion'⟩ := reloaded_changedSample "demo" "\t\u00A0" []
  refine ⟨(hquotes (by decide)).accepted ?_, (hblank (by decide)).refused ?_⟩
  · rw [hversion]
    exact ⟨'1', by decide, by decide +kernel⟩
  · rw [hversion', ← List.all_eq_true]
    decide +kernel

end ModBuild.Proofs.Project
