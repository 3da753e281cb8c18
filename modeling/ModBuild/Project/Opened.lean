import ModBuild.Project.Config
import ModBuild.Registry.Documents

/-!
# `ModBuild.Project.Opened`: a project to work with

To open a project is to read its settings, to connect to the network that they describe, and to
apply its instance to a fresh context. After that, the registry knows all that the settings say.

* `OpenProject.at` opens the project in a directory.
* `OpenProject.copyPaths` are the paths of the two documents that are kept on disk.
-/

set_option autoImplicit false

namespace ModBuild

/-- A project with its settings applied to a context. -/
structure OpenProject where
  config : Config
  registry : Registry
  context : Context
  plugin : Instance

namespace OpenProject

/-- The context of the project. -/
def ownContext : Context := ⟨"project"⟩

/-- The directory of a project, from the root on. Without a name it is the working directory. -/
def directory (cwd : Place) (name : Option String) : String :=
  let here := "/" ++ String.intercalate "/" cwd
  Path.absolute here (name.getD here)

/-- Applies settings in a registry. -/
def ofConfig (config : Config) (env : Environment) (dir : String) :
    Except Failure OpenProject :=
  match config.toInstance env dir with
  | .error error => .error (.ofError error)
  | .ok plugin =>
    match (Registry.empty config.network.manifestUrl).apply ownContext plugin with
    | .error error => .error (.ofError error)
    | .ok registry => .ok ⟨config, registry, ownContext, plugin⟩

/-- Opens the project in a directory. The settings are read from a file in it unless another file is
named. `connect` gives the network for a user agent. -/
def «at» (connect : String → Except BuildError Network) (env : Environment) (files : FileTree)
    (cwd : Place) (dirName file : Option String) : Except Failure (OpenProject × Network) :=
  let dir := directory cwd dirName
  match Config.load files cwd (Config.locate dir file) with
  | .error failure => .error failure
  | .ok config =>
    match connect config.network.userAgent with
    | .error error => .error ((Failure.ofError error).explain "Failed to set up HTTP client")
    | .ok network =>
      match ofConfig config env dir with
      | .error failure => .error failure
      | .ok project => .ok (project, network)

/-- Where the document of the project's version is kept, in the words of its replacements. -/
def metadataTemplate : String :=
  Registry.metadataLocation Instance.versionToken

/-- The paths of the copies of the manifest and of the document of the project's version. -/
def copyPaths (project : OpenProject) : Except BuildError (String × String) :=
  match project.registry.resolvePath project.context Registry.manifestLocation with
  | .error error => .error error
  | .ok manifest =>
    match project.registry.resolvePath project.context metadataTemplate with
    | .error error => .error error
    | .ok metadata => .ok (manifest, metadata)

end OpenProject

end ModBuild
