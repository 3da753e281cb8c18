import ModBuild.Proofs.Documents.Fetch
import ModBuild.Proofs.Registry.Loads

/-!
# `ModBuild.Proofs.Registry.Writes`: what an operation writes

An operation writes to the state of its own context only, one field at a time. A field for a
document is written once: only while it is empty, and the one for the document of a version only
when a manifest that lists the version is there. `Writes` collects the registries that an operation
can leave behind, whatever the network and the files do, and all that is known of them in general is
shown of `Writes`.

* `step_writes`: every operation but a reset leaves such a registry behind.
* `Writes.state?_of_ne`: nothing is written to another context.
* `Writes.keeps`: documents that are there are kept.
-/

set_option autoImplicit false

namespace ModBuild.Proofs.Registry

open ModBuild ModBuild.Registry ModBuild.Proofs.Documents

variable {r r' : Registry} {c d : Context} {site : Site}

/-! ### Writes -/

/-- The manifest of a state lists the version of a document, and some replacements gave the document
the path that belongs to this version. -/
def Lists (state : ContextState) (document : Document VersionMetadata) : Prop :=
  ∃ manifest, state.manifest = some manifest ∧ ∃ descriptor ∈ manifest.value.versions,
    ∃ table, Template.expand table (metadataLocation descriptor.id) = .ok document.path

/-- What a registry can be after writes to a context. -/
inductive Writes (c : Context) (r : Registry) : Registry → Prop where
  | nothing : Writes c r r
  | table (r' : Registry) (table : Template.Table) : Writes c r r' →
      Writes c r (r'.put c { r'.stateOf c with replacements := table })
  | plugin (r' : Registry) (i : Instance) : Writes c r r' →
      Writes c r (r'.put c { r'.stateOf c with plugin := some i })
  | manifest (r' : Registry) (document : Document VersionManifest) : Writes c r r' →
      (r'.stateOf c).manifest = none →
      Writes c r (r'.put c { r'.stateOf c with manifest := some document })
  | metadata (r' : Registry) (document : Document VersionMetadata) : Writes c r r' →
      (r'.stateOf c).metadata = none → (∃ i, (r'.stateOf c).plugin = some i) →
      Lists (r'.stateOf c) document →
      Writes c r (r'.put c { r'.stateOf c with metadata := some document })

/-- The documents of one state are those of another, as far as that has any. -/
structure Keeps (state state' : ContextState) : Prop where
  manifest : ∀ document, state.manifest = some document → state'.manifest = some document
  metadata : ∀ document, state.metadata = some document → state'.metadata = some document

/-- A state keeps what it has. -/
theorem Keeps.refl (state : ContextState) : Keeps state state :=
  ⟨fun _ h => h, fun _ h => h⟩

/-- What is kept twice is kept in all. -/
theorem Keeps.trans {state state' state'' : ContextState} (h : Keeps state state')
    (h' : Keeps state' state'') : Keeps state state'' where
  manifest document hdocument := h'.manifest document (h.manifest document hdocument)
  metadata document hdocument := h'.metadata document (h.metadata document hdocument)

/-- A write leaves the other contexts. -/
theorem Writes.state?_of_ne (h : Writes c r r') (hne : d ≠ c) : r'.state? d = r.state? d := by
  induction h with
  | nothing => rfl
  | table _ _ _ ih | plugin _ _ _ ih | manifest _ _ _ _ ih | metadata _ _ _ _ _ _ ih =>
    rw [state?_put_of_ne _ _ hne, ih]

/-- No write takes a document away or puts another one in its place. -/
theorem Writes.keeps (h : Writes c r r') : Keeps (r.stateOf c) (r'.stateOf c) := by
  induction h with
  | nothing => exact .refl _
  | table _ _ _ ih | plugin _ _ _ ih =>
    rw [stateOf_put]
    exact ⟨ih.manifest, ih.metadata⟩
  | manifest r' document _ hempty ih =>
    rw [stateOf_put]
    refine ⟨fun old hold => ?_, ih.metadata⟩
    -- The slot was empty, so there was no document to keep.
    have hthere := ih.manifest old hold
    rw [hempty] at hthere
    cases hthere
  | metadata r' document _ hempty _ _ ih =>
    rw [stateOf_put]
    refine ⟨ih.manifest, fun old hold => ?_⟩
    have hthere := ih.metadata old hold
    rw [hempty] at hthere
    cases hthere

/-! ### What operations write -/

/-- To set a name writes to its context alone. -/
theorem add_writes {name value : String} (h : r.add c name value = .ok r') : Writes c r r' := by
  unfold add at h
  split at h
  · rename_i table _
    cases h
    exact .table r table .nothing
  · cases h

/-- To set names writes to their context alone. -/
theorem addAll_writes {pairs : List (String × String)} (h : r.addAll c pairs = .ok r') :
    Writes c r r' := by
  unfold addAll at h
  split at h
  · rename_i table _
    cases h
    exact .table r table .nothing
  · cases h

/-- To apply an instance writes to its context alone. -/
theorem apply_writes {i : Instance} (h : r.apply c i = .ok r') : Writes c r r' := by
  unfold apply at h
  split at h
  · rename_i added hadded
    cases h
    exact .plugin added i (addAll_writes hadded)
  · cases h

/-- An operation that fails writes nothing. -/
theorem stepWith_writes {answer : Answer} {result : Except BuildError Registry}
    (h : ∀ next, result = .ok next → Writes c r next) :
    Writes c r (r.stepWith answer result).1 := by
  cases result with
  | ok next => exact h next rfl
  | error e => exact .nothing

/-- To load the manifest writes to its context alone. -/
theorem versionManifest_writes (r : Registry) (site : Site) (c : Context) :
    Writes c r (r.versionManifest site c).1 := by
  have hrun := versionManifest_run r site c
  generalize r.versionManifest site c = outcome at hrun
  cases hrun with
  | there | noPlace | notLoaded => exact .nothing
  | loaded hempty => exact .manifest r _ .nothing hempty

/-- The manifest may be written also where the document of the version then cannot be loaded. -/
theorem versionMetadata_writes (r : Registry) (site : Site) (c : Context) :
    Writes c r (r.versionMetadata site c).1 := by
  have hrun := versionMetadata_run r site c
  have hwrites := versionManifest_writes r site c
  generalize r.versionMetadata site c = outcome at hrun
  cases hrun with
  | there | noInstance => exact .nothing
  | noManifest _ _ hmanifest | noPlace _ _ hmanifest | notLoaded _ _ hmanifest =>
    rw [hmanifest] at hwrites
    exact hwrites
  | @loaded i r' left last manifest url path document hempty hplugin hmanifest hplace hload =>
    -- The manifest that was listed is the stored one, and it has the descriptor that was looked up.
    rw [hmanifest] at hwrites
    have hstate := stateOf_of_versionManifest_ok hmanifest
    obtain ⟨⟨descriptor, hfind, -⟩, hpath⟩ := metadataPlace_eq_ok_iff.mp hplace
    have hid : descriptor.id = i.extension.version := by simpa using List.find?_some hfind
    refine .metadata r' document hwrites (by rw [hstate, hempty]) ⟨i, by rw [hstate, hplugin]⟩ ?_
    refine ⟨manifest, by rw [hstate], descriptor, List.mem_of_find?_eq_some hfind,
      r'.table c, ?_⟩
    rw [hid, path_of_load hload]
    exact hpath

/-- Every operation but a reset writes to its own context, where it fills a document's slot only if
that is empty. -/
theorem step_writes {op : Operation} (r : Registry) (site : Site) (c : Context) (h : op ≠ .reset) :
    Writes c r (r.step site c op).1 := by
  cases op with
  | add name value =>
    show Writes c r (r.stepWith .done (r.add c name value)).1
    exact stepWith_writes fun _ => add_writes
  | addAll pairs =>
    show Writes c r (r.stepWith .done (r.addAll c pairs)).1
    exact stepWith_writes fun _ => addAll_writes
  | apply plugin =>
    show Writes c r (r.stepWith (.plugin plugin) (r.apply c plugin)).1
    exact stepWith_writes fun _ => apply_writes
  | setInstance plugin => exact .plugin r plugin .nothing
  | manifest => exact versionManifest_writes r site c
  | metadata => exact versionMetadata_writes r site c
  -- The others only look at the registry.
  | has | table | resolve | resolvePath | resolveUrl | getInstance | features => exact .nothing
  | reset => exact absurd rfl h

/-- No operation writes to another context. -/
theorem step_state?_of_ne (r : Registry) (site : Site) (op : Operation) (h : d ≠ c) :
    (r.step site c op).1.state? d = r.state? d := by
  by_cases hop : op = .reset
  · subst hop
    show (r.reset c).1.state? d = r.state? d
    exact state?_reset_of_ne r h
  · exact (step_writes r site c hop).state?_of_ne h

end ModBuild.Proofs.Registry
