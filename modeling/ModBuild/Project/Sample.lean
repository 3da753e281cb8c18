import ModBuild.Project.Config

/-!
# `ModBuild.Project.Sample`: projects to try things on

A sample project is a directory with a file of settings and a place for copies of its own. What is
changed about it is written to the file.
-/

set_option autoImplicit false

namespace ModBuild

/-- A project to try things on, in a directory below the root. -/
structure SampleProject where
  dir : String
  config : Config

namespace SampleProject

/-- The directory for copies. -/
def cacheDir (project : SampleProject) : String :=
  Path.join project.dir "cache"

/-- A sample project that names a version. -/
def ofVersion (dir version : String) : SampleProject :=
  ⟨dir, { Config.ofVersion version with cacheDir := some (Path.join dir "cache") }⟩

/-- The project with the manifest at an address. -/
def withManifestUrl (project : SampleProject) (url : String) : SampleProject :=
  { project with config.network.manifestUrl := url }

/-- The project with some mappings. -/
def withMappings (project : SampleProject) (channel version : String) : SampleProject :=
  { project with
    config.extension.mappingChannel := channel, config.extension.mappingVersion := version }

/-- The path of the file with the settings. -/
def configPath (project : SampleProject) : String :=
  Path.join project.dir Config.fileName

/-- The path of the copy of the manifest. -/
def manifestPath (project : SampleProject) : String :=
  Path.join project.cacheDir "version_manifest.json"

/-- The path of the copy of the document of the project's version. -/
def metadataPath (project : SampleProject) : String :=
  Path.joinAll project.cacheDir ["versions", project.config.extension.version, "version.json"]

/-- The files of the project. -/
def files (project : SampleProject) : FileTree :=
  (FileTree.empty.set [project.dir] .directory).set [project.dir, Config.fileName]
    (.file project.config.text.toUTF8)

/-- The settings as they are read back. -/
def reloaded (project : SampleProject) : Except Failure Config :=
  Config.load project.files [] project.configPath

end SampleProject

end ModBuild
