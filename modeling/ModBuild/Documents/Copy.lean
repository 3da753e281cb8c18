import ModBuild.Documents.Network
import ModBuild.Files.Replace

/-!
# `ModBuild.Documents.Copy`: documents with a copy on disk

A document is fetched from the network, and the text is kept on disk as it came, before anyone has
looked into it. When the disk does not take it, that is an error. When the network fails, the copy
takes its place, however old it is. Without a copy the failure stands.

* `Site.fetch` gets the text of a document.
* `Site.load` reads it as a value.
-/

set_option autoImplicit false

namespace ModBuild

/-- Where a build runs: the disk it works on, the directory that relative paths start from, and the
network. -/
structure Site where
  disk : Disk
  cwd : Place
  network : Network

/-- The files that a build sees. -/
abbrev Site.files (site : Site) : FileTree :=
  site.disk.files

/-- Where the text of a document comes from. -/
inductive Origin where
  | network
  | disk
  deriving DecidableEq

/-- The origin in words. -/
def Origin.text : Origin → String
  | network => "network"
  | disk => "disk cache (offline fallback)"

/-- A document that was read as a value, and the path of its copy. -/
structure Document (α : Type) where
  value : α
  path : String
  origin : Origin

namespace Site

/-- Gets the text of a document from the network and keeps a copy, or gets it from the copy. -/
def fetch (site : Site) (url path : String) : Site × Except BuildError (String × Origin) :=
  match site.network.ask url with
  | (network, .ok body) =>
    match site.disk.replaceFile site.cwd path body.toUTF8 with
    | (disk, .ok ()) => ({ site with disk, network }, .ok (body, .network))
    | (disk, .error error) => ({ site with disk, network }, .error error)
  | (network, .error error) =>
    let site := { site with network }
    if site.files.isFile site.cwd path then
      match site.files.readText site.cwd path with
      | .ok body => (site, .ok (body, .disk))
      | .error error => (site, .error error)
    else (site, .error error)

/-- The name under which a document that cannot be read is reported. -/
def reported (url path : String) : Origin → String
  | .network => url
  | .disk => path

/-- Gets a document and reads it as a value. -/
def load {α : Type} (read : String → Except String α) (site : Site) (url path : String) :
    Site × Except BuildError (Document α) :=
  match site.fetch url path with
  | (site, .error error) => (site, .error error)
  | (site, .ok (body, origin)) =>
    match read body with
    | .ok value => (site, .ok ⟨value, path, origin⟩)
    | .error reason => (site, .error (.invalidDocument (reported url path origin) reason))

end Site

end ModBuild
