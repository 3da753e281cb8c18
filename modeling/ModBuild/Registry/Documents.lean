import ModBuild.Registry
import ModBuild.Version.Manifest.Text

/-!
# `ModBuild.Registry.Documents`: the documents of a context

The manifest of the versions there are and the document of the version that a context is configured
for are loaded when they are first asked for, and then stay with the context until it is reset.

* `Registry.versionManifest` and `Registry.versionMetadata` give the two documents.
* `manifestLocation` and `metadataLocation` are the templates for the paths of their copies.
-/

set_option autoImplicit false

namespace ModBuild.Registry

/-- Where the copy of the manifest is kept. -/
def manifestLocation : String := "@CACHE_DIR@/version_manifest.json"

/-- Where the copy of a version's document is kept. -/
def metadataLocation (version : String) : String :=
  "@CACHE_DIR@/versions/" ++ version ++ "/version.json"

/-- Reads the text of a version's document. -/
def metadataOfText (text : String) : Except String VersionMetadata :=
  Json.whole Json.objectOf text

/-- The address of the manifest, and the path of its copy. -/
def manifestPlace (r : Registry) (c : Context) : Except BuildError (String × String) := do
  let url ← r.resolveUrl c r.manifestUrl
  let path ← r.resolvePath c manifestLocation
  return (url.text, path)

/-- The manifest of the versions there are. -/
def versionManifest (r : Registry) (site : Site) (c : Context) :
    Registry × Site × Except BuildError (Document VersionManifest) :=
  match (r.stateOf c).manifest with
  | some document => (r, site, .ok document)
  | none =>
    match r.manifestPlace c with
    | .error error => (r, site, .error error)
    | .ok (url, path) =>
      match site.load VersionManifest.ofText url path with
      | (site, .error error) => (r, site, .error error)
      | (site, .ok document) =>
        (r.put c { r.stateOf c with manifest := some document }, site, .ok document)

/-- The address of the document of a version that a manifest lists, and the path of its copy. -/
def metadataPlace (r : Registry) (c : Context) (manifest : VersionManifest) (version : String) :
    Except BuildError (String × String) := do
  let descriptor ← manifest.require version
  let path ← r.resolvePath c (metadataLocation version)
  return (descriptor.url, path)

/-- The document of the version that a context is configured for. -/
def versionMetadata (r : Registry) (site : Site) (c : Context) :
    Registry × Site × Except BuildError (Document VersionMetadata) :=
  match (r.stateOf c).metadata with
  | some document => (r, site, .ok document)
  | none =>
    match r.getInstance c with
    | .error error => (r, site, .error error)
    | .ok i =>
      match r.versionManifest site c with
      | (r, site, .error error) => (r, site, .error error)
      | (r, site, .ok manifest) =>
        match r.metadataPlace c manifest.value i.extension.version with
        | .error error => (r, site, .error error)
        | .ok (url, path) =>
          match site.load metadataOfText url path with
          | (site, .error error) => (r, site, .error error)
          | (site, .ok document) =>
            (r.put c { r.stateOf c with metadata := some document }, site, .ok document)

end ModBuild.Registry
