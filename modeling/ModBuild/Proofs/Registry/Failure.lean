import ModBuild.Proofs.Registry.Memory

/-!
# `ModBuild.Proofs.Registry.Failure`: what is stored after a failure

An operation that writes goes through several steps that can fail. This module is about what is left
of the steps before.

* `step_of_failed`: nothing, in all operations but one.
* `step_metadata_of_failed`: where the document of a version cannot be had, the manifest that was
  loaded on the way to it stays.
* `step_failed`: both, and a context of which nothing is stored, for which no load gets as far as
  the network or the disk.
-/

set_option autoImplicit false

namespace ModBuild.Proofs.Registry

open ModBuild ModBuild.Registry

variable {r : Registry} {c : Context} {site : Site} {e : BuildError}

/-- An operation gives a new registry only when it succeeds. -/
theorem stepWith_of_failed (answer : Answer) (result : Except BuildError Registry)
    (hanswer : ∀ e, answer ≠ .failed e) (h : (r.stepWith answer result).2 = .failed e) :
    (r.stepWith answer result).1 = r := by
  cases result with
  | ok next => exact absurd h (hanswer e)
  | error e => rfl

/-- After a failure the registry is the same, unless the document of a version was asked for. -/
theorem step_of_failed {op : Operation} (hop : op ≠ .metadata)
    (h : (r.step site c op).2.2 = .failed e) : (r.step site c op).1 = r := by
  cases op with
  | add name value => exact stepWith_of_failed .done (r.add c name value) nofun h
  | addAll pairs => exact stepWith_of_failed .done (r.addAll c pairs) nofun h
  | apply i => exact stepWith_of_failed (.plugin i) (r.apply c i) nofun h
  | manifest =>
    rcases hload : r.versionManifest site c with ⟨r', left, e' | document⟩
    · have hsame := versionManifest_error hload
      simpa only [step, hload] using hsame
    · simp only [step, hload] at h
      cases h
  | metadata => exact absurd rfl hop
  | setInstance | reset => cases h
  -- The others only look at the registry, whatever they find.
  | has | table | resolve | resolvePath | resolveUrl | getInstance | features => rfl

/-- The other registry has one manifest more, which was not there before and which a call for it
loads. -/
def WithManifest (r : Registry) (site : Site) (c : Context) (r' : Registry) : Prop :=
  ∃ state manifest, r.state? c = some state ∧ state.manifest = none ∧
    (r.step site c .manifest).2.2 = .manifest manifest ∧
    r' = r.put c { state with manifest := some manifest }

/-- After the document of a version could not be had, the registry is the same, or a manifest was
loaded and stays. -/
theorem step_metadata_of_failed (h : (r.step site c .metadata).2.2 = .failed e) :
    (r.step site c .metadata).1 = r ∨
      WithManifest r site c (r.step site c .metadata).1 := by
  have hrun := versionMetadata_run r site c
  -- After the manifest was had, nothing is stored before the document is there.
  have hhad : ∀ {r' left manifest}, r.versionManifest site c = (r', left, .ok manifest) →
      r' = r ∨ WithManifest r site c r' := by
    intro r' left manifest hmanifest
    rcases versionManifest_ok hmanifest with ⟨-, hsame, -⟩ | ⟨state, hstate, hempty, hput⟩
    · exact .inl hsame
    · have hanswer : (r.step site c .manifest).2.2 = .manifest manifest := by
        simp only [step, hmanifest, Answer.of]
      exact .inr ⟨state, manifest, hstate, hempty, hanswer, hput⟩
  simp only [step] at h ⊢
  generalize r.versionMetadata site c = outcome at hrun h ⊢
  cases hrun with
  | there | loaded => cases h
  | noInstance => exact .inl rfl
  | noManifest _ _ hmanifest => exact .inl (versionManifest_error hmanifest)
  | noPlace _ _ hmanifest | notLoaded _ _ hmanifest => exact hhad hmanifest

/-- After a failure the registry is the same, but for a manifest that was loaded on the way to the
document of a version. For a context of which nothing is stored, to load a document fails without
anything being asked for, written or stored. -/
theorem step_failed (r : Registry) (site : Site) (c : Context) :
    (∀ op e, (r.step site c op).2.2 = .failed e → op ≠ .metadata → (r.step site c op).1 = r) ∧
    (∀ e, (r.step site c .metadata).2.2 = .failed e →
      (r.step site c .metadata).1 = r ∨
        ∃ state manifest, r.state? c = some state ∧ state.manifest = none ∧
          (r.step site c .manifest).2.2 = .manifest manifest ∧
          (r.step site c .metadata).1 = r.put c { state with manifest := some manifest }) ∧
    (r.state? c = none →
      (∃ e, r.step site c .manifest = (r, site, .failed e)) ∧
      ∃ e, r.step site c .metadata = (r, site, .failed e)) := by
  refine ⟨fun op e h hop => step_of_failed hop h, fun e h => step_metadata_of_failed h, ?_⟩
  intro habsent
  obtain ⟨e, hmanifest⟩ := versionManifest_of_absent habsent site
  have hmetadata := versionMetadata_of_absent habsent site
  constructor
  · exact ⟨e, by simp only [step, hmanifest, Answer.of]⟩
  · exact ⟨.notInitialized, by simp only [step, hmetadata, Answer.of]⟩

/-- A build of a version that is not listed. -/
def versionTwo : Registry :=
  versionOne.setInstance ⟨"build"⟩ (.ofDirs (.ofVersion "2") "" "cache")

/-- The manifest stays when it does not list the version, and a build that is not there stays
away. -/
theorem versionTwo_failed :
    (∃ similar, (versionTwo.step servesOne ⟨"build"⟩ .metadata).2.2 =
      .failed (.unknownVersion "2" similar)) ∧
    (∃ state manifest, versionTwo.state? ⟨"build"⟩ = some state ∧ state.manifest = none ∧
      (versionTwo.step servesOne ⟨"build"⟩ .manifest).2.2 = .manifest manifest ∧
      (versionTwo.step servesOne ⟨"build"⟩ .metadata).1 =
        versionTwo.put ⟨"build"⟩ { state with manifest := some manifest }) ∧
    versionTwo.state? ⟨"other"⟩ = none ∧
    ∃ e, versionTwo.step servesOne ⟨"other"⟩ .manifest = (versionTwo, servesOne, .failed e) := by
  have hunknown : (match (versionTwo.step servesOne ⟨"build"⟩ .metadata).2.2 with
      | .failed (.unknownVersion "2" _) => true
      | _ => false) = true := by decide +kernel
  obtain ⟨similar, hfailed⟩ : ∃ similar,
      (versionTwo.step servesOne ⟨"build"⟩ .metadata).2.2 =
        .failed (.unknownVersion "2" similar) := by
    split at hunknown
    · exact ⟨_, by assumption⟩
    · cases hunknown
  have hbuild := step_failed versionTwo servesOne ⟨"build"⟩
  have hother := step_failed versionTwo servesOne ⟨"other"⟩
  have habsent : versionTwo.state? ⟨"other"⟩ = none := by rfl
  refine ⟨⟨similar, hfailed⟩, ?_, habsent, (hother.2.2 habsent).1⟩
  rcases hbuild.2.1 _ hfailed with hsame | hmanifest
  · -- Before, no manifest was there.
    have hthere : (((versionTwo.step servesOne ⟨"build"⟩ .metadata).1.stateOf
        ⟨"build"⟩).manifest).isSome = true := by decide +kernel
    rw [hsame] at hthere
    cases hthere
  · exact hmanifest

end ModBuild.Proofs.Registry
