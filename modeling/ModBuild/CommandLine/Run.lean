import ModBuild.CommandLine.Command
import ModBuild.Project.Opened

/-!
# `ModBuild.CommandLine.Run`: carrying out commands

A command reads and changes files, writes lines, and succeeds or fails. What it writes and how it
ends is its outcome.

* `Command.run` carries out a command.
-/

set_option autoImplicit false

namespace ModBuild.CommandLine

/-- What a command writes and how it ends. -/
structure Outcome where
  output : String
  result : Except Failure Unit

namespace Outcome

/-- A command that writes something and succeeds. -/
def wrote (output : String) : Outcome :=
  ⟨output, .ok ()⟩

/-- A command that fails and writes nothing. -/
def failed (failure : Failure) : Outcome :=
  ⟨"", .error failure⟩

/-- A command that fails with an error of the library. -/
def failedWith (error : BuildError) : Outcome :=
  failed (.ofError error)

/-- A command that fails with an error of the library while it does something. -/
def failedTo (doing : String) (error : BuildError) : Outcome :=
  failed ((Failure.ofError error).explain doing)

end Outcome

/-- Where a command runs. -/
structure Surroundings where
  env : Environment
  /-- The network for a user agent. -/
  connect : String → Except BuildError Network
  /-- Words are set off by colours. -/
  colours : Bool

/-- A text as a line. -/
def line (text : String) : String :=
  text ++ "\n"

namespace Command

/-- Resolves a template. -/
def runResolve (project : OpenProject) (template : String) (arguments : List String) : Outcome :=
  match project.registry.resolve project.context template
      (arguments.map Template.Argument.infer) with
  | .ok text => .wrote (line text)
  | .error error => .failedTo ("Failed to resolve '" ++ template ++ "'") error

/-- The lines of a list of versions. -/
def versionLines (versions : List VersionDescriptor) : String :=
  String.join (versions.map fun v => line (v.id ++ "\t" ++ v.kind))

/-- Lists versions. -/
def runVersions (project : OpenProject) (site : Site) (kind : Option String) : Site × Outcome :=
  match project.registry.versionManifest site project.context with
  | (_, site, .error error) => (site, .failedTo "Failed to load the version manifest" error)
  | (_, site, .ok manifest) =>
    (site, .wrote (versionLines (kind.elim manifest.value.versions manifest.value.ofKind)))

/-- A value as it is shown: a text without quotes, and other values over several lines. -/
def shownValue : Json.Value → String
  | .string text => text
  | value => value.prettyText

/-- Shows the document of a version, or one value of it. -/
def showMetadata (version : String) (metadata : VersionMetadata) (key : Option String) : Outcome :=
  match key with
  | none => .wrote (line (Json.Value.object metadata).prettyText)
  | some key =>
    match metadata.lookup key with
    | some value => .wrote (line (shownValue value))
    | none =>
      .failed (.of (.text ("Version " ++ version ++ " metadata has no key '" ++ key ++ "'")))

/-- Shows the document of the project's version, or one value of it. -/
def runVersionInfo (project : OpenProject) (site : Site) (key : Option String) : Site × Outcome :=
  let version := project.plugin.extension.version
  match project.registry.versionMetadata site project.context with
  | (_, site, .error error) =>
    (site, .failedTo ("Failed to load metadata for version " ++ version) error)
  | (_, site, .ok metadata) => (site, showMetadata version metadata.value key)

/-- Prints the digest of a file. -/
def runHash (site : Site) (file algorithm : String) : Outcome :=
  match site.files.hashFile site.cwd file algorithm with
  | .ok digest => .wrote (line digest)
  | .error error => .failedWith error

/-- The line of a document that is kept on disk. -/
def copyLine (site : Site) (colours : Bool) (label path : String) : String :=
  let state :=
    if site.files.isFile site.cwd path then Ink.green.paint colours "present"
    else Ink.yellow.paint colours "missing"
  line (label ++ "\t" ++ path ++ "\t" ++ state)

/-- Shows where the copies are. -/
def runCacheInfo (project : OpenProject) (site : Site) (colours : Bool) : Outcome :=
  match project.copyPaths with
  | .error error => .failedWith error
  | .ok (manifest, metadata) =>
    .wrote (line ("cache root\t" ++ project.plugin.cacheDir) ++
      copyLine site colours "manifest" manifest ++ copyLine site colours "version" metadata)

/-- Removes files as far as they are there, up to the first that cannot be removed. Gives how many
were removed. -/
def removeAll (cwd : Place) : List String → FileTree → FileTree × Except BuildError Nat
  | [], files => (files, .ok 0)
  | path :: rest, files =>
    match files.removeIfThere cwd path with
    | .error error => (files, .error error)
    | .ok (files, was) =>
      match removeAll cwd rest files with
      | (files, .ok count) => (files, .ok (count + if was then 1 else 0))
      | (files, .error error) => (files, .error error)

/-- Removes the copies. -/
def runCacheClean (project : OpenProject) (site : Site) : Site × Outcome :=
  match project.copyPaths with
  | .error error => (site, .failedWith error)
  | .ok (manifest, metadata) =>
    match removeAll site.cwd [manifest, metadata] site.files with
    | (files, .ok count) =>
      ({ site with disk.files := files },
        .wrote (line ("Removed " ++ toString count ++ " cached file(s)")))
    | (files, .error error) => ({ site with disk.files := files }, .failedWith error)

/-- Carries out a command on an open project. -/
def runOn (project : OpenProject) (site : Site) (colours : Bool) : Command → Site × Outcome
  | .resolve template arguments => (site, runResolve project template arguments)
  | .versions kind => runVersions project site kind
  | .versionInfo key => runVersionInfo project site key
  | .hash file algorithm => (site, runHash site file algorithm)
  | .cacheInfo => (site, runCacheInfo project site colours)
  | .cacheClean => runCacheClean project site

/-- Carries out a command on the files of a disk. All but digests need a project. -/
def run (around : Surroundings) (options : Options) (disk : Disk) (cwd : Place) :
    Command → FileTree × Outcome
  | .hash file algorithm => (disk.files, runHash ⟨disk, cwd, Http.refused⟩ file algorithm)
  | command =>
    match OpenProject.at around.connect around.env disk.files cwd options.projectDir
        options.config with
    | .error failure => (disk.files, .failed failure)
    | .ok (project, network) =>
      let (site, outcome) := runOn project ⟨disk, cwd, network⟩ around.colours command
      (site.files, outcome)

end Command

end ModBuild.CommandLine
