import ModBuild.Error
import ModBuild.Template.Similar

/-!
# `ModBuild.Version.Manifest`: the versions there are

A manifest lists the versions of the game with the address of the document that describes each. An
id may be listed more than once; the first descriptor with it counts.
-/

set_option autoImplicit false

namespace ModBuild

/-- What a manifest says of one version. -/
structure VersionDescriptor where
  id : String
  kind : String
  url : String
  deriving DecidableEq

/-- The newest version of either kind. -/
structure LatestVersions where
  release : String
  snapshot : String
  deriving DecidableEq

/-- A list of versions. -/
structure VersionManifest where
  latest : Option LatestVersions
  versions : List VersionDescriptor
  deriving DecidableEq

namespace VersionManifest

/-- The ids in the order of the list. -/
def ids (manifest : VersionManifest) : List String :=
  manifest.versions.map (·.id)

/-- The first descriptor with an id. -/
def find? (manifest : VersionManifest) (id : String) : Option VersionDescriptor :=
  manifest.versions.find? (·.id = id)

/-- The first descriptor with an id, or an error that suggests ids that are listed. -/
def require (manifest : VersionManifest) (id : String) : Except BuildError VersionDescriptor :=
  match manifest.find? id with
  | some descriptor => .ok descriptor
  | none => .error (.unknownVersion id (Template.similarNames id manifest.ids))

/-- The descriptors of a kind. -/
def ofKind (manifest : VersionManifest) (kind : String) : List VersionDescriptor :=
  manifest.versions.filter (·.kind = kind)

end VersionManifest

end ModBuild
