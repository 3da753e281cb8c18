import ModBuild.Documents.Http
import ModBuild.Error.Report
import ModBuild.Files.Store
import ModBuild.Project.Environment
import ModBuild.Project.Instance
import ModBuild.Registry
import ModBuild.Text.Blank
import ModBuild.Toml.Reader
import ModBuild.Toml.Record

/-!
# `ModBuild.Project.Config`: the settings of a project

A project is configured by a file at its root with three sections: what it says about the game,
where copies of documents are kept, and how the network is used. Only the version of the game has to
be there.

* `Config.ofText?` reads the settings and `Config.text` writes them.
* `Config.load` reads them from a file and checks them.
* `Config.cacheRoot` is the directory of the copies.
-/

set_option autoImplicit false

namespace ModBuild

/-- How the network is used. -/
structure NetworkSettings where
  manifestUrl : String
  userAgent : String
  /-- How long an answer may take, in seconds. -/
  timeout : Nat
  deriving DecidableEq

namespace NetworkSettings

/-- The name that the library goes by on the network. -/
def standardUserAgent : String := "mcgradle/0.3.0"

/-- The settings of a project that says nothing about the network. -/
def standard : NetworkSettings :=
  ⟨Registry.standardManifestUrl, standardUserAgent, 30⟩

end NetworkSettings

/-- The settings of a project. -/
structure Config where
  extension : Extension
  /-- The directory that copies of documents are kept in. -/
  cacheDir : Option String
  network : NetworkSettings
  deriving DecidableEq

namespace Config

/-- The name of the file with the settings. -/
def fileName : String := "mcgradle.toml"

/-- The settings of a project that only names a version. -/
def ofVersion (version : String) : Config :=
  ⟨.ofVersion version, none, .standard⟩

/-! ### Reading -/

open Toml

/-- Reads what a project says about the game. -/
def readExtension? (node : Node) : Option Extension := do
  let fields ← node.fields? ["version", "mapping_channel", "mapping_version", "run_directory"]
  let version ← ← Node.text? fields "version"
  let channel ← Node.text? fields "mapping_channel"
  let mappings ← Node.text? fields "mapping_version"
  let runDirectory ← Node.text? fields "run_directory"
  return ⟨version, channel.getD "", mappings.getD "",
    runDirectory.getD Extension.standardRunDirectory⟩

/-- Reads where copies are kept. -/
def readCacheDir? (node : Node) : Option (Option String) := do
  Node.text? (← node.fields? ["dir"]) "dir"

/-- Reads how the network is used. -/
def readNetwork? (node : Node) : Option NetworkSettings := do
  let fields ← node.fields? ["manifest_url", "user_agent", "timeout_secs"]
  let url ← Node.text? fields "manifest_url"
  let agent ← Node.text? fields "user_agent"
  let timeout ← Node.naturalBelow? (Nat.pow 2 64) fields "timeout_secs"
  let standard := NetworkSettings.standard
  return ⟨url.getD standard.manifestUrl, agent.getD standard.userAgent,
    timeout.getD standard.timeout⟩

/-- Reads the sections of a project. -/
def ofNode? (node : Node) : Option Config := do
  let sections ← node.fields? ["minecraft", "cache", "network"]
  let extension ← readExtension? (← sections.lookup "minecraft")
  let cacheDir ←
    match sections.lookup "cache" with
    | some node => readCacheDir? node
    | none => some none
  let network ←
    match sections.lookup "network" with
    | some node => readNetwork? node
    | none => some .standard
  return ⟨extension, cacheDir, network⟩

/-- Reads the settings of a project. -/
def ofText? (text : String) : Option Config :=
  (Node.ofText? text).bind ofNode?

/-- What the settings have to say. -/
def validate (config : Config) : Except BuildError Unit :=
  if Text.isAllBlank config.extension.version then
    .error (.config "[minecraft] version must not be empty")
  else if config.network.timeout = 0 then
    .error (.config "[network] timeout_secs must be at least 1")
  else .ok ()

/-- The cause of a text that does not read as settings. -/
def unreadable : Cause :=
  .text "not a configuration of a project"

/-- Reads the settings from a file and checks them. -/
def load (files : FileTree) (cwd : Place) (path : String) : Except Failure Config :=
  match files.readText? cwd path with
  | .error fault =>
    .error ((Failure.of (.file fault)).explain ("Failed to read config file: " ++ path))
  | .ok text =>
    match ofText? text with
    | none => .error ((Failure.of unreadable).explain ("Failed to parse config file: " ++ path))
    | some config =>
      match config.validate with
      | .error error =>
        .error ((Failure.ofError error).explain ("Invalid config file: " ++ path))
      | .ok () => .ok config

/-- Where the file with the settings is, unless a path is given. -/
def locate (projectDir : String) (explicit : Option String) : String :=
  explicit.getD (Path.join projectDir fileName)

/-! ### Writing -/

/-- A setting as a line. -/
def line (name value : String) : String :=
  name ++ " = " ++ value ++ "\n"

/-- The settings as text. -/
def text (config : Config) : String :=
  "[minecraft]\n" ++ line "version" (quoted config.extension.version) ++
    line "mapping_channel" (quoted config.extension.mappingChannel) ++
    line "mapping_version" (quoted config.extension.mappingVersion) ++
    line "run_directory" (quoted config.extension.runDirectory) ++
    "\n[cache]\n" ++ config.cacheDir.elim "" (fun dir => line "dir" (quoted dir)) ++
    "\n[network]\n" ++ line "manifest_url" (quoted config.network.manifestUrl) ++
    line "user_agent" (quoted config.network.userAgent) ++
    line "timeout_secs" (toString config.network.timeout)

/-- The settings as a document. -/
def value (config : Config) : Json.Value :=
  .object [("minecraft", config.extension.value),
    ("cache", .object (config.cacheDir.elim [] fun dir => [("dir", .string dir)])),
    ("network", .object [("manifest_url", .string config.network.manifestUrl),
      ("user_agent", .string config.network.userAgent),
      ("timeout_secs", .number (.natural config.network.timeout))])]

/-! ### Use -/

/-- The directory that copies of documents are kept in. -/
def cacheRoot (config : Config) (env : Environment) (projectDir : String) :
    Except BuildError String :=
  match config.cacheDir with
  | some dir => .ok (Path.join projectDir dir)
  | none => env.cacheRoot

/-- The instance of a project with some settings. -/
def toInstance (config : Config) (env : Environment) (projectDir : String) :
    Except BuildError Instance :=
  match config.cacheRoot env projectDir with
  | .ok cacheRoot => .ok (.ofDirs config.extension projectDir cacheRoot)
  | .error error => .error error

end Config

end ModBuild
