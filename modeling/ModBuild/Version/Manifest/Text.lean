import ModBuild.Json.Record
import ModBuild.Json.Writer
import ModBuild.Version.Manifest

/-!
# `ModBuild.Version.Manifest.Text`: manifests as documents

A manifest is a record with the fields `latest`, which may be missing, and `versions`. A draft of a
record holds the fields read so far.

* `VersionManifest.ofText` reads a document as a manifest.
* `VersionManifest.text` writes one, with the fields in order.
* `manifestText` writes a manifest that lists the given ids, kinds and addresses.
-/

set_option autoImplicit false

namespace ModBuild

open Json

/-! ### Reading -/

/-- A record of texts as it is read: the texts in the order of their names. -/
abbrev TextDraft := List (String × String)

/-- A field that holds a text. -/
def textField (name : String) : RecordField TextDraft where
  name := name
  optional := false
  isSet draft := (draft.lookup name).isSome
  read _ draft s := (text s).map fun (t, s) => ((name, t) :: draft, s)

/-- The text read for a field. -/
def TextDraft.get (draft : TextDraft) (name : String) : String :=
  (draft.lookup name).getD ""

namespace VersionDescriptor

/-- The fields of a descriptor. -/
def fields : List (RecordField TextDraft) :=
  [textField "id", textField "type", textField "url"]

/-- Reads a descriptor. -/
def read (limit : Nat) (s : List Char) : Except Fault (VersionDescriptor × List Char) :=
  (record "struct VersionDescriptor" fields limit [] s).map fun (draft, s) =>
    (⟨draft.get "id", draft.get "type", draft.get "url"⟩, s)

end VersionDescriptor

namespace LatestVersions

/-- The fields of the newest versions. -/
def fields : List (RecordField TextDraft) :=
  [textField "release", textField "snapshot"]

/-- Reads the newest versions. -/
def read (limit : Nat) (s : List Char) : Except Fault (LatestVersions × List Char) :=
  (record "struct LatestVersions" fields limit [] s).map fun (draft, s) =>
    (⟨draft.get "release", draft.get "snapshot"⟩, s)

end LatestVersions

namespace VersionManifest

/-- A manifest as it is read. -/
structure Draft where
  latest : Option (Option LatestVersions)
  versions : Option (List VersionDescriptor)

/-- The fields of a manifest. -/
def fields : List (RecordField Draft) :=
  [{ name := "latest"
     optional := true
     isSet := fun draft => draft.latest.isSome
     read := fun limit draft s => (nullable (LatestVersions.read limit) s).map fun (latest, s) =>
       ({ draft with latest := some latest }, s) },
   { name := "versions"
     optional := false
     isSet := fun draft => draft.versions.isSome
     read := fun limit draft s =>
       (listOf limit (VersionDescriptor.read limit) s).map fun (versions, s) =>
         ({ draft with versions := some versions }, s) }]

/-- Reads a manifest. -/
def read (limit : Nat) (s : List Char) : Except Fault (VersionManifest × List Char) :=
  (record "struct VersionManifest" fields limit ⟨none, none⟩ s).map fun (draft, s) =>
    (⟨draft.latest.getD none, draft.versions.getD []⟩, s)

/-- Reads a text as a manifest. -/
def ofText (text : String) : Except String VersionManifest :=
  whole read text

end VersionManifest

/-! ### Writing -/

/-- A descriptor as a document. -/
def VersionDescriptor.value (d : VersionDescriptor) : Value :=
  .object [("id", .string d.id), ("type", .string d.kind), ("url", .string d.url)]

/-- The newest versions as a document. -/
def LatestVersions.value (l : LatestVersions) : Value :=
  .object [("release", .string l.release), ("snapshot", .string l.snapshot)]

/-- A manifest as a document. -/
def VersionManifest.value (m : VersionManifest) : Value :=
  let versions := ("versions", Value.array (m.versions.map VersionDescriptor.value))
  .object (m.latest.elim [versions] fun latest => [("latest", latest.value), versions])

/-- A manifest as text. -/
def VersionManifest.text (m : VersionManifest) : String :=
  m.value.text

/-- The text of a manifest that lists the given ids, kinds and addresses. -/
def manifestText (entries : List (String × String × String)) : String :=
  let versions := entries.map fun (id, kind, url) =>
    Value.object [("id", .string id), ("type", .string kind), ("url", .string url)]
  (Value.object [("versions", .array versions)]).text

end ModBuild
