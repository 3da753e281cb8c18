import ModBuild.Proofs.Registry.Memory

/-!
# `ModBuild.Proofs.Registry.Stored`: what is stored for a context fits together

The parts of a state are written at different times: the replacements and the instance whenever they
are registered, the manifest and the document of a version when they are first loaded. `Backed` says
that the last of these never stands alone. Instance and manifest can only go with it, and the
manifest that it was found in is the one that is still there, even if the instance is of another
version by now.

* `Writes.backed`: no write breaks this. `step_backed` and `run_backed` follow.
* `stored_fits`: what is known of every state that a registry can come to store.
-/

set_option autoImplicit false

namespace ModBuild.Proofs.Registry

open ModBuild ModBuild.Registry ModBuild.Proofs.Template

variable {r r' : Registry} {c d : Context}

/-- A state that has the document of a version has an instance, and a manifest that lists the
version. -/
def Backed (state : ContextState) : Prop :=
  ∀ document, state.metadata = some document →
    (∃ i, state.plugin = some i) ∧ Lists state document

/-- A context that nothing was done to has no document to back. -/
theorem backed_empty : Backed .empty :=
  fun _ h => nomatch h

/-- Whatever is written to a context, its document of a version is backed, if it was before. -/
theorem Writes.backed (h : Writes c r r') (hbacked : Backed (r.stateOf c)) :
    Backed (r'.stateOf c) := by
  induction h with
  | nothing => exact hbacked
  | table _ _ _ ih =>
    rw [stateOf_put]
    exact ih
  | plugin _ i _ ih =>
    rw [stateOf_put]
    exact fun document hdocument => ⟨⟨i, rfl⟩, (ih document hdocument).2⟩
  | manifest r' _ _ hempty ih =>
    rw [stateOf_put]
    intro document hdocument
    -- A document would have come with a manifest, but there was none.
    obtain ⟨-, manifest, hmanifest, -⟩ := ih document hdocument
    rw [hempty] at hmanifest
    cases hmanifest
  | metadata r' document _ _ hplugin hlists _ =>
    rw [stateOf_put]
    intro found hfound
    cases hfound
    exact ⟨hplugin, hlists⟩

/-- A step on any context keeps the document of a version backed. -/
theorem step_backed {op : Operation} (r : Registry) (site : Site) (d : Context)
    (h : Backed (r.stateOf c)) : Backed ((r.step site d op).1.stateOf c) := by
  by_cases hd : c = d
  · subst hd
    -- A reset is not a write, but the empty state has no document to speak of.
    by_cases hreset : op = .reset
    · subst hreset
      have hnone : (r.reset c).1.state? c = none := by simp [reset]
      show Backed ((r.reset c).1.stateOf c)
      rw [stateOf_of_none hnone]
      exact backed_empty
    · exact (step_writes r site c hreset).backed h
  · rw [stateOf_congr (step_state?_of_ne r site op hd)]
    exact h

/-- A run keeps the document of a version backed. -/
theorem run_backed (site : Site) (requests : List Request) (h : Backed (r.stateOf c)) :
    Backed ((run r site requests).1.stateOf c) := by
  induction requests generalizing r site with
  | nil => exact h
  | cons q rest ih => exact ih _ (step_backed r (q.change site) q.context h)

/-- Whatever is asked of a registry in which nothing was stored, each state that it comes to store
has tokens for names. If the state has the document of a version, then it has an instance, and a
manifest that lists a version to which the path of the document belongs. The path ends in the
segments for this version, unless the version has tokens, which were replaced. -/
theorem stored_fits (manifestUrl : String) (site : Site) (requests : List Request) (c : Context)
    (state : ContextState)
    (hstate : (run (.empty manifestUrl) site requests).1.state? c = some state) :
    (∀ name ∈ state.replacements.names, ∃ letters, letters ≠ [] ∧
      (∀ a ∈ letters, a = '_' ∨ 'A' ≤ a ∧ a ≤ 'Z') ∧ name.toList = '@' :: letters ++ ['@']) ∧
    ∀ document, state.metadata = some document →
      (∃ i, state.plugin = some i) ∧ ∃ manifest, state.manifest = some manifest ∧
        ∃ descriptor ∈ manifest.value.versions,
          (∃ table, Template.expand table (metadataLocation descriptor.id) = .ok document.path) ∧
          (TokenFree descriptor.id.toList →
            ∃ dir, document.path = dir ++ "/versions/" ++ descriptor.id ++ "/version.json") := by
  constructor
  · intro name hname
    obtain ⟨e, he, rfl⟩ := List.mem_map.mp hname
    obtain ⟨letters, hletters, htext⟩ := isName_iff.mp (state.replacements.named e he)
    obtain ⟨hne, hclass⟩ := isTokenLetters_iff.mp hletters
    exact ⟨letters, hne, hclass, htext⟩
  · intro document hdocument
    -- By induction over the run: only the load of a document writes one, and it needs an instance
    -- and a manifest.
    have hbacked : Backed ((run (.empty manifestUrl) site requests).1.stateOf c) :=
      run_backed site requests backed_empty
    rw [stateOf_of_some hstate] at hbacked
    obtain ⟨hplugin, manifest, hmanifest, descriptor, hmem, table, hpath⟩ :=
      hbacked document hdocument
    refine ⟨hplugin, manifest, hmanifest, descriptor, hmem, ⟨table, hpath⟩, fun hfree => ?_⟩
    obtain ⟨dir, -, heq⟩ := (expand_metadataLocation_iff table hfree).mp hpath
    exact ⟨dir, heq⟩

/-- The document of version 1 is loaded, and then the build changes to another version. -/
def loadsOne : List Request :=
  [⟨id, ⟨"build"⟩, .add "@CACHE_DIR@" "cache"⟩,
    ⟨fun _ => servesOne, ⟨"build"⟩, .setInstance (.ofDirs (.ofVersion "1") "" "cache")⟩,
    ⟨id, ⟨"build"⟩, .metadata⟩,
    ⟨id, ⟨"build"⟩, .apply (.ofDirs (.ofVersion "2") "" "elsewhere")⟩]

/-- The document stays with the manifest that it was found in. -/
theorem loadsOne_fits : ∃ state document,
    (run (.empty "http://[::1]/m") servesNothing loadsOne).1.state? ⟨"build"⟩ = some state ∧
      state.metadata = some document ∧ document.path = "cache/versions/1/version.json" ∧
      (∃ i, state.plugin = some i) ∧ ∃ manifest, state.manifest = some manifest ∧
        ∃ descriptor ∈ manifest.value.versions,
          (∃ table, Template.expand table (metadataLocation descriptor.id) = .ok document.path) ∧
          (TokenFree descriptor.id.toList →
            ∃ dir, document.path = dir ++ "/versions/" ++ descriptor.id ++ "/version.json") := by
  have hpath : (((run (.empty "http://[::1]/m") servesNothing loadsOne).1.state? ⟨"build"⟩).bind
      (·.metadata)).map (·.path) = some "cache/versions/1/version.json" := by decide +kernel
  obtain ⟨document, hdocument, hpath⟩ := Option.map_eq_some_iff.mp hpath
  obtain ⟨state, hstate, hdocument⟩ := Option.bind_eq_some_iff.mp hdocument
  have hfits := stored_fits "http://[::1]/m" servesNothing loadsOne ⟨"build"⟩ state hstate
  exact ⟨state, document, hstate, hdocument, hpath, hfits.2 document hdocument⟩

end ModBuild.Proofs.Registry
