import ModBuild.Documents.Copy
import ModBuild.Json.Value
import ModBuild.Project.Instance
import ModBuild.Template.Format
import ModBuild.Url.Address
import ModBuild.Version.Features
import ModBuild.Version.Manifest

/-!
# `ModBuild.Registry`: what is stored for each build

Every build has a context, and a registry stores for each context its replacements, the instance
that was applied to it, and the documents that were loaded for it. A context of which nothing is
stored behaves as one with an empty state.

* `Registry.state?` is the view through which a registry is read, and `Registry.put` writes one
  state.
* `add`, `addAll`, `setInstance` and `apply` register, and `reset` forgets.
* `resolve`, `resolvePath` and `resolveUrl` use the replacements of a context.
-/

set_option autoImplicit false

namespace ModBuild

open Template

/-- The handle of a build. -/
structure Context where
  id : String
  deriving DecidableEq

/-- The context in words. -/
def Context.display (context : Context) : String :=
  "build context " ++ context.id

/-- What a version's own document says. -/
abbrev VersionMetadata := List (String × Json.Value)

/-- What is stored for a context. -/
structure ContextState where
  replacements : Table
  plugin : Option Instance
  manifest : Option (Document VersionManifest)
  metadata : Option (Document VersionMetadata)

/-- The state of a context of which nothing is stored. -/
def ContextState.empty : ContextState :=
  ⟨.empty, none, none, none⟩

/-- What is stored for each context, and the template for the address of the version manifest. -/
structure Registry where
  state? : Context → Option ContextState
  manifestUrl : String

namespace Registry

/-- The address of the manifest of the versions there are. -/
def standardManifestUrl : String :=
  "https://launchermeta.mojang.com/mc/game/version_manifest.json"

/-- A registry in which nothing is stored. -/
def empty (manifestUrl : String) : Registry :=
  ⟨fun _ => none, manifestUrl⟩

/-- The state of a context. -/
def stateOf (r : Registry) (c : Context) : ContextState :=
  (r.state? c).getD .empty

/-- Stores the state of a context. -/
def put (r : Registry) (c : Context) (state : ContextState) : Registry :=
  { r with state? := fun d => if d = c then some state else r.state? d }

/-- Forgets all that is stored for a context, and tells whether that was anything. -/
def reset (r : Registry) (c : Context) : Registry × Bool :=
  ({ r with state? := fun d => if d = c then none else r.state? d }, (r.state? c).isSome)

/-- The replacements of a context. -/
def table (r : Registry) (c : Context) : Table :=
  (r.stateOf c).replacements

/-- Registers a replacement. -/
def add (r : Registry) (c : Context) (name value : String) : Except BuildError Registry :=
  match (r.table c).insert name value with
  | .ok table => .ok (r.put c { r.stateOf c with replacements := table })
  | .error error => .error error

/-- Registers several replacements or none. -/
def addAll (r : Registry) (c : Context) (pairs : List (String × String)) :
    Except BuildError Registry :=
  match (r.table c).insertAll pairs with
  | .ok table => .ok (r.put c { r.stateOf c with replacements := table })
  | .error error => .error error

/-- Stores the instance of a context. -/
def setInstance (r : Registry) (c : Context) (i : Instance) : Registry :=
  r.put c { r.stateOf c with plugin := some i }

/-- The instance of a context. -/
def getInstance (r : Registry) (c : Context) : Except BuildError Instance :=
  match (r.stateOf c).plugin with
  | some i => .ok i
  | none => .error .notInitialized

/-- Applies an instance: registers its replacements and stores it. -/
def apply (r : Registry) (c : Context) (i : Instance) : Except BuildError Registry :=
  match r.addAll c i.replacements with
  | .ok r => .ok (r.setInstance c i)
  | .error error => .error error

/-- Renders a template with the replacements of a context. -/
def resolve (r : Registry) (c : Context) (template : String) (args : List Argument) :
    Except BuildError String :=
  render (r.table c) template args

/-- The path that a template stands for. -/
def resolvePath (r : Registry) (c : Context) (template : String) : Except BuildError String :=
  expand (r.table c) template

/-- The address of a document that a template stands for. -/
def resolveUrl (r : Registry) (c : Context) (template : String) :
    Except BuildError Url.WebAddress := do
  let expanded ← expand (r.table c) template
  let refused (reason : String) : Except BuildError Url.WebAddress :=
    .error (.invalidFormat template reason)
  match Url.Address.ofText expanded with
  | .error fault => refused ("'" ++ expanded ++ "' is not a valid URL: " ++ fault.message)
  | .ok (.web address) =>
    if address.scheme = "http" || address.scheme = "https" then .ok address
    else refused ("unsupported URL scheme '" ++ address.scheme ++ "'")
  | .ok address => refused ("unsupported URL scheme '" ++ address.scheme ++ "'")

/-- The features of the version that a context is configured for. -/
def features (r : Registry) (c : Context) : Except BuildError VersionFeatures :=
  match r.getInstance c with
  | .ok i => VersionFeatures.ofVersion i.extension.version
  | .error error => .error error

end Registry

end ModBuild
