import ModBuild.Files.Path
import ModBuild.Json.Writer

/-!
# `ModBuild.Project.Instance`: what is applied to a build

The extension is what a project says about the game: its version, the mappings, and the directory
that the game runs in. Together with the directories of a build it is an instance, and an instance
gives the replacements that every other template relies on.
-/

set_option autoImplicit false

namespace ModBuild

/-- What a project says about the game. -/
structure Extension where
  version : String
  mappingChannel : String
  mappingVersion : String
  runDirectory : String
  deriving DecidableEq

namespace Extension

/-- The directory that the game runs in unless the project names one. -/
def standardRunDirectory : String := "run"

/-- The extension of a project that only names a version. -/
def ofVersion (version : String) : Extension :=
  ⟨version, "", "", standardRunDirectory⟩

/-- The extension as a document. -/
def value (e : Extension) : Json.Value :=
  .object [("version", .string e.version), ("mapping_channel", .string e.mappingChannel),
    ("mapping_version", .string e.mappingVersion), ("run_directory", .string e.runDirectory)]

end Extension

/-- An extension with the directories of a build. -/
structure Instance where
  extension : Extension
  projectDir : String
  buildDir : String
  cacheDir : String
  deriving DecidableEq

namespace Instance

/-- The instance of a project, which builds in a directory of its own. -/
def ofDirs (extension : Extension) (projectDir cacheDir : String) : Instance :=
  ⟨extension, projectDir, Path.join projectDir "build", cacheDir⟩

/-- The directory of the copies on disk. -/
def cacheDirToken : String := "@CACHE_DIR@"

/-- The directory of the project. -/
def projectDirToken : String := "@PROJECT_DIR@"

/-- The directory that the project builds in. -/
def buildDirToken : String := "@BUILD_DIR@"

/-- The version of the game. -/
def versionToken : String := "@MC_VERSION@"

/-- The channel of the mappings. -/
def mappingChannelToken : String := "@MAPPING_CHANNEL@"

/-- The version of the mappings. -/
def mappingVersionToken : String := "@MAPPING_VERSION@"

/-- The directory that the game runs in. -/
def runDirectoryToken : String := "@RUN_DIRECTORY@"

/-- The replacements that an instance gives. -/
def replacements (i : Instance) : List (String × String) :=
  [(cacheDirToken, i.cacheDir), (projectDirToken, i.projectDir), (buildDirToken, i.buildDir),
    (versionToken, i.extension.version), (mappingChannelToken, i.extension.mappingChannel),
    (mappingVersionToken, i.extension.mappingVersion),
    (runDirectoryToken, i.extension.runDirectory)]

end Instance

end ModBuild
