import ModBuild.Proofs.Registry.Writes

/-!
# `ModBuild.Proofs.Registry.Memory`: documents stay loaded

A document that a context has loaded is given again from memory, until the context is reset. In a
run of requests the network and the files can change before each of them, and the requests can be
about any context.

* `run_keeps`: a run without a reset of a context keeps the documents that the context has.
* `step_manifest_of_there` and `step_metadata_of_there`: a document that is there is the answer, and
  nothing else happens.
* `step_remembered`: once a document was the answer, it is the answer up to the next reset.
-/

set_option autoImplicit false

namespace ModBuild.Proofs.Registry

open ModBuild ModBuild.Registry

variable {r : Registry} {c : Context}

/-- None of the requests resets the context. -/
def NoReset (c : Context) (requests : List Request) : Prop :=
  ∀ q ∈ requests, q.context = c → q.operation ≠ .reset

/-! ### What a run keeps -/

/-- One operation keeps the documents of a context that it does not reset. -/
theorem step_keeps (r : Registry) (site : Site) {d : Context} {op : Operation}
    (h : d = c → op ≠ .reset) : Keeps (r.stateOf c) ((r.step site d op).1.stateOf c) := by
  -- Only a reset takes documents away, and only from the context that it is about.
  by_cases hd : d = c
  · subst hd
    exact (step_writes r site d (h rfl)).keeps
  · have hsame : (r.step site d op).1.state? c = r.state? c :=
      step_state?_of_ne r site op (Ne.symm hd)
    rw [stateOf_congr hsame]
    exact .refl _

/-- A run keeps the documents of a context that none of its requests resets. -/
theorem run_keeps (r : Registry) (site : Site) {requests : List Request}
    (h : NoReset c requests) : Keeps (r.stateOf c) ((run r site requests).1.stateOf c) := by
  induction requests generalizing r site with
  | nil => exact .refl _
  | cons q rest ih =>
    have hstep : Keeps (r.stateOf c) ((r.step (q.change site) q.context q.operation).1.stateOf c) :=
      step_keeps r _ (h q List.mem_cons_self)
    have hrest : NoReset c rest := fun p hp => h p (List.mem_cons_of_mem q hp)
    exact hstep.trans (ih _ _ hrest)

/-! ### Answers from memory -/

/-- Asked for a manifest that is there, a step gives it and changes nothing. -/
theorem step_manifest_of_there {document : Document VersionManifest}
    (h : (r.stateOf c).manifest = some document) (site : Site) :
    r.step site c .manifest = (r, site, .manifest document) := by
  simp only [step, versionManifest_of_there h, Answer.of]

/-- Asked for the document of a version that is there, a step gives it and changes nothing. -/
theorem step_metadata_of_there {document : Document VersionMetadata}
    (h : (r.stateOf c).metadata = some document) (site : Site) :
    r.step site c .metadata = (r, site, .metadata document) := by
  simp only [step, versionMetadata_of_there h, Answer.of]

/-- After a manifest was the answer, it is there. -/
theorem manifest_of_answer {site : Site} {document : Document VersionManifest}
    (h : (r.step site c .manifest).2.2 = .manifest document) :
    ((r.step site c .manifest).1.stateOf c).manifest = some document := by
  unfold step at *
  have hrun := versionManifest_run r site c
  generalize r.versionManifest site c = outcome at hrun h ⊢
  cases hrun with
  | there hthere =>
    cases h
    exact hthere
  | noPlace | notLoaded => cases h
  | loaded =>
    cases h
    rw [stateOf_put]

/-- After the document of a version was the answer, it is there. -/
theorem metadata_of_answer {site : Site} {document : Document VersionMetadata}
    (h : (r.step site c .metadata).2.2 = .metadata document) :
    ((r.step site c .metadata).1.stateOf c).metadata = some document := by
  unfold step at *
  have hrun := versionMetadata_run r site c
  generalize r.versionMetadata site c = outcome at hrun h ⊢
  cases hrun with
  | there hthere =>
    cases h
    exact hthere
  | noInstance | noManifest | noPlace | notLoaded => cases h
  | loaded =>
    cases h
    rw [stateOf_put]

/-- Up to the next reset of the context, an operation has the same answer after every run. At every
site it gives this answer and leaves the site as it is, so it neither asks the network nor reads or
writes a file. -/
def Remembered (r : Registry) (site : Site) (c : Context) (op : Operation) (answer : Answer) :
    Prop :=
  ∀ between, NoReset c between → ∀ later,
    let last := (run r site between).1
    last.step later c op = (last, later, answer)

/-- Once a document was the answer for a context, it stays the answer, whatever else is asked of
this and of other contexts, and whatever happens to the network and to the files. -/
theorem step_remembered (r : Registry) (site : Site) (c : Context) :
    (∀ document, (r.step site c .manifest).2.2 = .manifest document →
      Remembered (r.step site c .manifest).1 (r.step site c .manifest).2.1 c .manifest
        (.manifest document)) ∧
    ∀ document, (r.step site c .metadata).2.2 = .metadata document →
      Remembered (r.step site c .metadata).1 (r.step site c .metadata).2.1 c .metadata
        (.metadata document) := by
  constructor
  · intro document hanswer between hreset later
    have hloaded := manifest_of_answer hanswer
    have hkept := run_keeps (r.step site c .manifest).1 (r.step site c .manifest).2.1 hreset
    exact step_manifest_of_there (hkept.manifest document hloaded) later
  · intro document hanswer between hreset later
    have hloaded := metadata_of_answer hanswer
    have hkept := run_keeps (r.step site c .metadata).1 (r.step site c .metadata).2.1 hreset
    exact step_metadata_of_there (hkept.metadata document hloaded) later

/-- A site without network and files. -/
def servesNothing : Site :=
  ⟨FileTree.empty, [], .ofPages [] false⟩

/-- A build of version 1 with its cache beside it. -/
def versionOne : Registry :=
  (run (.empty "http://[::1]/m") servesNothing
    [⟨id, ⟨"build"⟩, .add "@CACHE_DIR@" "cache"⟩,
      ⟨id, ⟨"build"⟩, .setInstance (.ofDirs (.ofVersion "1") "" "cache")⟩]).1

/-- A site where version 1 is listed and its document is served. -/
def servesOne : Site :=
  ⟨FileTree.empty, [], .ofPages
    [("http://[::1]/m", manifestText [("1", "release", "u:1")]), ("u:1", "\x7b\x7d")] true⟩

/-- Another build is reset, and the build itself changes to a version that is not listed. -/
def changes : List Request :=
  [⟨fun _ => servesNothing, ⟨"other"⟩, .reset⟩,
    ⟨id, ⟨"build"⟩, .apply (.ofDirs (.ofVersion "2") "" "elsewhere")⟩]

/-- The document of version 1 stays the answer when the build changes, and the network and all files
are gone. -/
theorem versionOne_remembered :
    ∃ document, (versionOne.step servesOne ⟨"build"⟩ .metadata).2.2 = .metadata document ∧
      document.origin = .network ∧
      ((run (versionOne.step servesOne ⟨"build"⟩ .metadata).1
          (versionOne.step servesOne ⟨"build"⟩ .metadata).2.1 changes).1.step
        servesNothing ⟨"build"⟩ .metadata).2 = (servesNothing, .metadata document) := by
  have hloaded : (match (versionOne.step servesOne ⟨"build"⟩ .metadata).2.2 with
      | .metadata document => document.origin = .network
      | _ => false) = true := by decide +kernel
  have hreset : NoReset ⟨"build"⟩ changes := by simp [NoReset, changes]
  have hstays := (step_remembered versionOne servesOne ⟨"build"⟩).2
  -- All that is needed of the first step is that it gave a document.
  generalize versionOne.step servesOne ⟨"build"⟩ .metadata = first at *
  cases hanswer : first.2.2 with
  | metadata document =>
    rw [hanswer] at hloaded
    refine ⟨document, rfl, by simpa using hloaded, ?_⟩
    rw [hstays document hanswer changes hreset servesNothing]
  | _ =>
    rw [hanswer] at hloaded
    cases hloaded

end ModBuild.Proofs.Registry
