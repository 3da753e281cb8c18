import ModBuild.Registry.Documents

/-!
# `ModBuild.Registry.Operation`: runs of a registry

All that can be asked of a registry about one context, as values. A run takes requests one after the
other, and between them the site may change.

* `Registry.step` takes one request, and `Registry.run` takes several.
-/

set_option autoImplicit false

namespace ModBuild

open Template

/-- What can be asked of a registry about a context. -/
inductive Operation where
  | add (name value : String)
  | addAll (pairs : List (String × String))
  | has (name : String)
  | table
  | resolve (template : String) (args : List Argument)
  | resolvePath (template : String)
  | resolveUrl (template : String)
  | apply (plugin : Instance)
  | setInstance (plugin : Instance)
  | getInstance
  | features
  | manifest
  | metadata
  | reset

/-- What a registry answers. -/
inductive Answer where
  | done
  | flag (value : Bool)
  | text (text : String)
  | table (table : Table)
  | plugin (plugin : Instance)
  | features (features : VersionFeatures)
  | manifest (document : Document VersionManifest)
  | metadata (document : Document VersionMetadata)
  | failed (error : BuildError)

/-- The answer of an operation that may fail. -/
def Answer.of {α : Type} (answer : α → Answer) : Except BuildError α → Answer
  | .ok a => answer a
  | .error error => .failed error

namespace Registry

/-- Takes an operation on a registry that may fail, which then stays as it is. -/
def stepWith (r : Registry) (answer : Answer) : Except BuildError Registry → Registry × Answer
  | .ok next => (next, answer)
  | .error error => (r, .failed error)

/-- Takes a request about a context. -/
def step (r : Registry) (site : Site) (c : Context) : Operation → Registry × Site × Answer
  | .add name value =>
    let (r, answer) := r.stepWith .done (r.add c name value)
    (r, site, answer)
  | .addAll pairs =>
    let (r, answer) := r.stepWith .done (r.addAll c pairs)
    (r, site, answer)
  | .has name => (r, site, .flag ((r.table c).contains name))
  | .table => (r, site, .table (r.table c))
  | .resolve template args => (r, site, .of .text (r.resolve c template args))
  | .resolvePath template => (r, site, .of .text (r.resolvePath c template))
  | .resolveUrl template => (r, site, .of (fun url => .text url.text) (r.resolveUrl c template))
  | .apply plugin =>
    let (r, answer) := r.stepWith (.plugin plugin) (r.apply c plugin)
    (r, site, answer)
  | .setInstance plugin => (r.setInstance c plugin, site, .done)
  | .getInstance => (r, site, .of .plugin (r.getInstance c))
  | .features => (r, site, .of .features (r.features c))
  | .manifest =>
    let (r, site, document) := r.versionManifest site c
    (r, site, .of .manifest document)
  | .metadata =>
    let (r, site, document) := r.versionMetadata site c
    (r, site, .of .metadata document)
  | .reset =>
    let (r, was) := r.reset c
    (r, site, .flag was)

/-- A request: what happens to the site before it, the context, and the operation. -/
structure Request where
  change : Site → Site
  context : Context
  operation : Operation

/-- Takes requests one after the other and gives the answers in order. -/
def run : Registry → Site → List Request → Registry × Site × List Answer
  | r, site, [] => (r, site, [])
  | r, site, q :: rest =>
    let (r, site, answer) := r.step (q.change site) q.context q.operation
    let (r, site, answers) := run r site rest
    (r, site, answer :: answers)

end Registry

end ModBuild
