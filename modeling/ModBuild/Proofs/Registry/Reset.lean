import Mathlib.Data.Set.Function
import ModBuild.Proofs.Registry.Isolation
import ModBuild.Proofs.Registry.Requests

/-!
# `ModBuild.Proofs.Registry.Reset`: a context that was reset is a fresh one

A registry tells contexts apart by what it stores for them, and by nothing else. So what is answered
to one context would be answered to any other for which the same is stored, and a context that was
reset cannot be told from one that was never used. The theorems:

* `step_matches`: where one context has what another one has, an operation has the same answer for
  both, does the same at the site, and leaves the same behind.
* `run_renamed`: a run under other names, when no two contexts in use get one name.
* `run_reset`: the two together, for a context that is reset and a name that nobody uses.
* `reset_startsAnew`: what there was of a context before its reset does not come back.
* `run_after_reset`: all of this in the runs of a registry.
-/

set_option autoImplicit false

namespace ModBuild.Proofs.Registry

open ModBuild ModBuild.Registry ModBuild.Proofs.Documents

variable {r r' : Registry} {c d : Context}

/-! ### Contexts of which the same is stored -/

/-- One context has in one registry what the other context has in the other registry. -/
structure Matches (c d : Context) (r r' : Registry) : Prop where
  state?_eq : r'.state? d = r.state? c
  manifestUrl_eq : r'.manifestUrl = r.manifestUrl

namespace Matches

/-- Where contexts match, their states are equal. -/
theorem stateOf_eq (h : Matches c d r r') : r'.stateOf d = r.stateOf c := by
  rw [stateOf, stateOf, h.state?_eq]

/-- Where contexts match, their tables are equal. -/
theorem table_eq (h : Matches c d r r') : r'.table d = r.table c := by
  rw [table, table, h.stateOf_eq]

/-- Where contexts match, asking for the instance gives one answer. -/
theorem getInstance_eq (h : Matches c d r r') : r'.getInstance d = r.getInstance c := by
  rw [getInstance, getInstance, h.stateOf_eq]

/-- Where contexts match, a template resolves to one URL. -/
theorem resolveUrl_eq (h : Matches c d r r') (template : String) :
    r'.resolveUrl d template = r.resolveUrl c template := by
  rw [resolveUrl, resolveUrl, h.table_eq]

/-- Where contexts match, a template resolves to one path. -/
theorem resolvePath_eq (h : Matches c d r r') (template : String) :
    r'.resolvePath d template = r.resolvePath c template := by
  rw [resolvePath, resolvePath, h.table_eq]

/-- Where contexts match, the manifest has one place. -/
theorem manifestPlace_eq (h : Matches c d r r') : r'.manifestPlace d = r.manifestPlace c := by
  rw [manifestPlace, manifestPlace, h.manifestUrl_eq, h.resolveUrl_eq, h.resolvePath_eq]

/-- Where contexts match, a version has one place. -/
theorem metadataPlace_eq (h : Matches c d r r') (manifest : VersionManifest) (version : String) :
    r'.metadataPlace d manifest version = r.metadataPlace c manifest version := by
  rw [metadataPlace, metadataPlace, h.resolvePath_eq]

/-- To store the same for both. -/
theorem put (h : Matches c d r r') (state : ContextState) :
    Matches c d (r.put c state) (r'.put d state) :=
  ⟨by rw [state?_put_self, state?_put_self], h.manifestUrl_eq⟩

end Matches

/-- The same comes out for both contexts, and the same is left behind for them. -/
def MatchingOutcomes {α : Type} (c d : Context) (outcome outcome' : Registry × α) : Prop :=
  outcome'.2 = outcome.2 ∧ Matches c d outcome.1 outcome'.1

/-- The results of an operation that may fail: registries that match, or the same error. -/
inductive MatchingResults (c d : Context) :
    Except BuildError Registry → Except BuildError Registry → Prop where
  | ok {r r' : Registry} (h : Matches c d r r') : MatchingResults c d (.ok r) (.ok r')
  | error (e : BuildError) : MatchingResults c d (.error e) (.error e)

/-- To set a name gives matching results. -/
theorem add_matches (h : Matches c d r r') (name value : String) :
    MatchingResults c d (r.add c name value) (r'.add d name value) := by
  unfold add
  rw [h.table_eq, h.stateOf_eq]
  cases (r.table c).insert name value with
  | ok table => exact .ok (h.put _)
  | error e => exact .error e

/-- To set names gives matching results. -/
theorem addAll_matches (h : Matches c d r r') (pairs : List (String × String)) :
    MatchingResults c d (r.addAll c pairs) (r'.addAll d pairs) := by
  unfold addAll
  rw [h.table_eq, h.stateOf_eq]
  cases (r.table c).insertAll pairs with
  | ok table => exact .ok (h.put _)
  | error e => exact .error e

/-- One instance for both keeps contexts matching. -/
theorem setInstance_matches (h : Matches c d r r') (i : Instance) :
    Matches c d (r.setInstance c i) (r'.setInstance d i) := by
  unfold setInstance
  rw [h.stateOf_eq]
  exact h.put _

/-- To apply an instance gives matching results. -/
theorem apply_matches (h : Matches c d r r') (i : Instance) :
    MatchingResults c d (r.apply c i) (r'.apply d i) := by
  have hadded := addAll_matches h i.replacements
  unfold apply
  generalize r.addAll c i.replacements = added at hadded ⊢
  generalize r'.addAll d i.replacements = added' at hadded ⊢
  cases hadded with
  | ok h => exact .ok (setInstance_matches h i)
  | error e => exact .error e

/-- Matching results are matching steps with one answer. -/
theorem stepWith_matches {result result' : Except BuildError Registry} (h : Matches c d r r')
    (hresult : MatchingResults c d result result') (answer : Answer) :
    MatchingOutcomes c d (r.stepWith answer result) (r'.stepWith answer result') := by
  cases hresult with
  | ok hnext => exact ⟨rfl, hnext⟩
  | error e => exact ⟨rfl, h⟩

/-- To load the manifest gives matching outcomes. -/
theorem versionManifest_matches (h : Matches c d r r') (site : Site) :
    MatchingOutcomes c d (r.versionManifest site c) (r'.versionManifest site d) := by
  unfold versionManifest
  rw [h.stateOf_eq, h.manifestPlace_eq]
  cases (r.stateOf c).manifest with
  | some document => exact ⟨rfl, h⟩
  | none =>
    rcases r.manifestPlace c with e | ⟨url, path⟩
    · exact ⟨rfl, h⟩
    · rcases hload : site.load VersionManifest.ofText url path with ⟨left, e | document⟩
      · simp only [hload]
        exact ⟨rfl, h⟩
      · simp only [hload]
        exact ⟨rfl, h.put _⟩

/-- To load the document of a version gives matching outcomes. -/
theorem versionMetadata_matches (h : Matches c d r r') (site : Site) :
    MatchingOutcomes c d (r.versionMetadata site c) (r'.versionMetadata site d) := by
  unfold versionMetadata
  rw [h.stateOf_eq, h.getInstance_eq]
  cases (r.stateOf c).metadata with
  | some document => exact ⟨rfl, h⟩
  | none =>
    rcases r.getInstance c with e | i
    · exact ⟨rfl, h⟩
    · -- From here on it goes on in the registries that the call for the manifest leaves behind.
      obtain ⟨hsame, h⟩ := versionManifest_matches h site
      rcases hmanifest : r.versionManifest site c with ⟨next, left, result⟩
      rcases hmanifest' : r'.versionManifest site d with ⟨next', left', result'⟩
      rw [hmanifest, hmanifest'] at hsame h
      cases hsame
      cases result with
      | error e => exact ⟨rfl, h⟩
      | ok manifest =>
        have hplace := h.metadataPlace_eq manifest.value i.extension.version
        rcases hfound : next.metadataPlace c manifest.value i.extension.version with e | ⟨url, path⟩
        · simp only [hplace, hfound]
          exact ⟨rfl, h⟩
        · rcases hload : left.load metadataOfText url path with ⟨last, e | document⟩
          · simp only [hplace, hfound, hload]
            exact ⟨rfl, h⟩
          · simp only [hplace, hfound, hload, h.stateOf_eq]
            exact ⟨rfl, h.put _⟩

/-- An operation does not look at the name of its context. -/
theorem step_matches (h : Matches c d r r') (site : Site) (op : Operation) :
    MatchingOutcomes c d (r.step site c op) (r'.step site d op) := by
  cases op with
  | add name value =>
    obtain ⟨hanswer, hnext⟩ := stepWith_matches h (add_matches h name value) .done
    exact ⟨Prod.ext rfl hanswer, hnext⟩
  | addAll pairs =>
    obtain ⟨hanswer, hnext⟩ := stepWith_matches h (addAll_matches h pairs) .done
    exact ⟨Prod.ext rfl hanswer, hnext⟩
  | apply i =>
    obtain ⟨hanswer, hnext⟩ := stepWith_matches h (apply_matches h i) (.plugin i)
    exact ⟨Prod.ext rfl hanswer, hnext⟩
  | setInstance i => exact ⟨rfl, setInstance_matches h i⟩
  | manifest =>
    obtain ⟨hsame, hnext⟩ := versionManifest_matches h site
    refine ⟨?_, hnext⟩
    simp only [step, hsame]
  | metadata =>
    obtain ⟨hsame, hnext⟩ := versionMetadata_matches h site
    refine ⟨?_, hnext⟩
    simp only [step, hsame]
  | reset =>
    refine ⟨?_, ?_, h.manifestUrl_eq⟩
    · simp only [step, reset, h.state?_eq]
    · simp [step, reset]
  -- The others only look at the replacements or at the instance.
  | has | table | resolve | resolvePath | resolveUrl =>
    refine ⟨?_, h⟩
    simp only [step, resolve, resolvePath, resolveUrl, h.table_eq]
  | getInstance | features =>
    refine ⟨?_, h⟩
    simp only [step, features, h.getInstance_eq]

/-! ### Runs under other names -/

/-- Under its new name, every context in use has what it had under its old one. -/
structure Renamed (used : Set Context) (name : Context → Context) (r r' : Registry) : Prop where
  state?_eq : ∀ c ∈ used, r'.state? (name c) = r.state? c
  manifestUrl_eq : r'.manifestUrl = r.manifestUrl

/-- The request under another name. -/
def renamedRequest (name : Context → Context) (q : Request) : Request :=
  { q with context := name q.context }

section Renaming

variable {used : Set Context} {name : Context → Context}

/-- Each context in use matches the one that it is renamed to. -/
theorem Renamed.matches (h : Renamed used name r r') (hc : c ∈ used) :
    Matches c (name c) r r' :=
  ⟨h.state?_eq c hc, h.manifestUrl_eq⟩

/-- An operation on a context in use. -/
theorem Renamed.step (hname : Set.InjOn name used) (h : Renamed used name r r') (hd : d ∈ used)
    (site : Site) (op : Operation) :
    (r'.step site (name d) op).2 = (r.step site d op).2 ∧
      Renamed used name (r.step site d op).1 (r'.step site (name d) op).1 := by
  obtain ⟨hsame, hnext⟩ := step_matches (h.matches hd) site op
  refine ⟨hsame, fun c hc => ?_, hnext.manifestUrl_eq⟩
  by_cases hcd : c = d
  · subst hcd
    exact hnext.state?_eq
  · -- The operation writes to no other context, and the two have different names.
    have hne : name c ≠ name d := fun heq => hcd (hname hc hd heq)
    rw [step_state?_of_ne r site op hcd, step_state?_of_ne r' site op hne]
    exact h.state?_eq c hc

/-- What a run answers and does at the site, by its first request. -/
theorem run_cons_snd (r : Registry) (site : Site) (q : Request) (rest : List Request) :
    (run r site (q :: rest)).2 =
      let first := r.step (q.change site) q.context q.operation
      let last := run first.1 first.2.1 rest
      (last.2.1, first.2.2 :: last.2.2) := rfl

/-- A run of requests about contexts in use has the same answers, and does the same at the site. -/
theorem run_renamed (hname : Set.InjOn name used) (h : Renamed used name r r') (site : Site)
    {requests : List Request} (hused : ∀ q ∈ requests, q.context ∈ used) :
    (run r' site (requests.map (renamedRequest name))).2 = (run r site requests).2 := by
  induction requests generalizing r r' site with
  | nil => rfl
  | cons q rest ih =>
    obtain ⟨hsame, hnext⟩ :=
      h.step hname (hused q List.mem_cons_self) (q.change site) q.operation
    rcases hstep : r.step (q.change site) q.context q.operation with ⟨next, left, answer⟩
    rcases hstep' : r'.step (q.change site) (name q.context) q.operation with
      ⟨next', left', answer'⟩
    rw [hstep, hstep'] at hsame hnext
    cases hsame
    -- The first step leaves one site behind for both, from which the rest goes on.
    have hrest := ih hnext left (fun p hp => hused p (List.mem_cons_of_mem q hp))
    have hrun : (run r site (q :: rest)).2 =
        ((run next left rest).2.1, answer :: (run next left rest).2.2) := by
      rw [run_cons_snd, hstep]
    have hrun' : (run r' site (renamedRequest name q :: rest.map (renamedRequest name))).2 =
        ((run next' left (rest.map (renamedRequest name))).2.1,
          answer :: (run next' left (rest.map (renamedRequest name))).2.2) := by
      rw [run_cons_snd]
      simp only [renamedRequest, hstep']
    rw [List.map_cons, hrun, hrun', hrest]

end Renaming

/-! ### A fresh name for a context -/

/-- The contexts by their names, where a fresh one takes the place of a context. -/
def instead (c fresh : Context) (d : Context) : Context :=
  if d = c then fresh else d

/-- To use another context in place of one renames no two contexts to one. -/
theorem injOn_instead (c fresh : Context) : Set.InjOn (instead c fresh) {d | d ≠ fresh} := by
  intro d hd e he heq
  unfold instead at heq
  split at heq
  · rename_i hdc
    split at heq
    · rename_i hec
      rw [hdc, hec]
    · exact absurd heq.symm he
  · split at heq
    · exact absurd heq hd
    · exact heq

/-- After its reset a context has what a fresh one has, and the others have what they had. -/
theorem renamed_reset {fresh : Context} {start : Registry} (hfresh : start.state? fresh = none)
    (hothers : ∀ d ≠ c, start.state? d = r.state? d) (hurl : start.manifestUrl = r.manifestUrl) :
    Renamed {d | d ≠ fresh} (instead c fresh) (r.reset c).1 start where
  state?_eq d _ := by
    unfold instead
    split
    · rename_i hdc
      rw [hfresh, hdc]
      simp [reset]
    · rename_i hdc
      rw [hothers d hdc, state?_reset_of_ne r hdc]
  manifestUrl_eq := hurl

/-- A run after a reset is a run in which a fresh context takes the place of the one that was
reset. It makes no difference whether that one was reset at all, once it is not used. -/
theorem run_reset {fresh : Context} (hfresh : r.state? fresh = none) (site : Site)
    {requests : List Request} (hunused : ∀ q ∈ requests, q.context ≠ fresh) :
    ∀ start ∈ [(r.reset c).1, r],
      (run start site (requests.map (renamedRequest (instead c fresh)))).2 =
        (run (r.reset c).1 site requests).2 := by
  intro start hstart
  have hrenamed : Renamed {d | d ≠ fresh} (instead c fresh) (r.reset c).1 start := by
    rcases List.mem_cons.mp hstart with heq | hstart
    · subst heq
      refine renamed_reset ?_ (fun d hd => state?_reset_of_ne r hd) rfl
      by_cases hc : fresh = c
      · subst hc
        simp [reset]
      · rw [state?_reset_of_ne r hc, hfresh]
    · have heq : start = r := List.mem_singleton.mp hstart
      subst heq
      exact renamed_reset hfresh (fun _ _ => rfl) rfl
  exact run_renamed (injOn_instead c fresh) hrenamed site hunused

/-- Nothing is stored for a context that no request was about. -/
theorem run_state?_of_unused {requests : List Request} (h : ∀ q ∈ requests, q.context ≠ c)
    (r : Registry) (site : Site) : (run r site requests).1.state? c = r.state? c := by
  induction requests generalizing r site with
  | nil => rfl
  | cons q rest ih =>
    have hq : c ≠ q.context := Ne.symm (h q List.mem_cons_self)
    have hrest := ih (fun p hp => h p (List.mem_cons_of_mem q hp))
      (r.step (q.change site) q.context q.operation).1
      (r.step (q.change site) q.context q.operation).2.1
    exact hrest.trans (step_state?_of_ne r (q.change site) q.operation hq)

/-! ### What comes back after a reset -/

/-- The operation registers replacements. -/
def registers : Operation → Bool
  | .add _ _ | .addAll _ | .apply _ => true
  | _ => false

/-- The operation gives the context an instance. -/
def givesInstance : Operation → Bool
  | .apply _ | .setInstance _ => true
  | _ => false

/-- What an operation that is no reset leaves alone in the state of its context. -/
structure Leaves (op : Operation) (state state' : ContextState) : Prop where
  replacements : registers op = false → state'.replacements = state.replacements
  plugin : givesInstance op = false → state'.plugin = state.plugin
  manifest : loadsDocument op = false → state'.manifest = state.manifest
  metadata : op ≠ .metadata → state'.metadata = state.metadata

/-- An operation may leave a state as it is. -/
theorem Leaves.refl (op : Operation) (state : ContextState) : Leaves op state state :=
  ⟨fun _ => rfl, fun _ => rfl, fun _ => rfl, fun _ => rfl⟩

/-- An operation that may fail leaves alone what it leaves alone when it does not. -/
theorem leaves_stepWith {op : Operation} {answer : Answer} {result : Except BuildError Registry}
    (h : ∀ next, result = .ok next → Leaves op (r.stateOf c) (next.stateOf c)) :
    Leaves op (r.stateOf c) ((r.stepWith answer result).1.stateOf c) := by
  cases result with
  | ok next => exact h next rfl
  | error e => exact .refl op _

/-- To set names changes the table of the context alone. -/
theorem addAll_stateOf {pairs : List (String × String)} (h : r.addAll c pairs = .ok r') :
    ∃ table, r'.stateOf c = { r.stateOf c with replacements := table } := by
  unfold addAll at h
  split at h
  · rename_i table _
    cases h
    exact ⟨table, stateOf_put r c _⟩
  · cases h

/-- Any operation but a reset leaves what it does not set. -/
theorem step_leaves {op : Operation} (hop : op ≠ .reset) (r : Registry) (site : Site)
    (c : Context) : Leaves op (r.stateOf c) ((r.step site c op).1.stateOf c) := by
  cases op with
  | add name value =>
    show Leaves _ _ ((r.stepWith .done (r.add c name value)).1.stateOf c)
    refine leaves_stepWith fun next hnext => ?_
    unfold add at hnext
    split at hnext
    · cases hnext
      rw [stateOf_put]
      exact ⟨nofun, fun _ => rfl, fun _ => rfl, fun _ => rfl⟩
    · cases hnext
  | addAll pairs =>
    show Leaves _ _ ((r.stepWith .done (r.addAll c pairs)).1.stateOf c)
    refine leaves_stepWith fun next hnext => ?_
    obtain ⟨table, hstate⟩ := addAll_stateOf hnext
    rw [hstate]
    exact ⟨nofun, fun _ => rfl, fun _ => rfl, fun _ => rfl⟩
  | apply i =>
    show Leaves _ _ ((r.stepWith (.plugin i) (r.apply c i)).1.stateOf c)
    refine leaves_stepWith fun next hnext => ?_
    unfold Registry.apply at hnext
    split at hnext
    · rename_i added hadded
      cases hnext
      obtain ⟨table, hstate⟩ := addAll_stateOf hadded
      rw [setInstance, stateOf_put, hstate]
      exact ⟨nofun, nofun, fun _ => rfl, fun _ => rfl⟩
    · cases hnext
  | setInstance i =>
    show Leaves _ _ ((r.setInstance c i).stateOf c)
    rw [setInstance, stateOf_put]
    exact ⟨fun _ => rfl, nofun, fun _ => rfl, fun _ => rfl⟩
  | manifest =>
    show Leaves _ _ ((r.versionManifest site c).1.stateOf c)
    have hrun := versionManifest_run r site c
    generalize r.versionManifest site c = outcome at hrun
    cases hrun with
    | there | noPlace | notLoaded => exact .refl _ _
    | loaded =>
      rw [stateOf_put]
      exact ⟨fun _ => rfl, fun _ => rfl, nofun, fun _ => rfl⟩
  | metadata =>
    show Leaves _ _ ((r.versionMetadata site c).1.stateOf c)
    have hrun := versionMetadata_run r site c
    generalize r.versionMetadata site c = outcome at hrun
    cases hrun with
    | there | noInstance => exact .refl _ _
    | noManifest _ _ hmanifest =>
      rw [versionManifest_error hmanifest]
      exact .refl _ _
    | noPlace _ _ hmanifest | notLoaded _ _ hmanifest =>
      rw [stateOf_of_versionManifest_ok hmanifest]
      exact ⟨fun _ => rfl, fun _ => rfl, nofun, fun _ => rfl⟩
    | loaded _ _ hmanifest =>
      rw [stateOf_put, stateOf_of_versionManifest_ok hmanifest]
      exact ⟨fun _ => rfl, fun _ => rfl, nofun, nofun⟩
  -- The others only look at the registry.
  | has | table | resolve | resolvePath | resolveUrl | getInstance | features => exact .refl _ _
  | reset => exact absurd rfl hop

/-- The context is asked for no operation of a class. -/
def Without (c : Context) (inClass : Operation → Bool) (requests : List Request) : Prop :=
  ∀ q ∈ requests, q.context = c → inClass q.operation = false

/-- The property holds of the empty state, and an operation outside the class does not end it. -/
structure StaysOutside (inClass : Operation → Bool) (p : ContextState → Prop) : Prop where
  empty : p .empty
  keeps : ∀ op state state', inClass op = false → Leaves op state state' → p state → p state'

namespace StaysOutside

variable {inClass : Operation → Bool} {p : ContextState → Prop}

/-- After the reset of a context its state is the empty one. -/
theorem reset (h : StaysOutside inClass p) (r : Registry) (c : Context) :
    p ((r.reset c).1.stateOf c) := by
  have hnone : (r.reset c).1.state? c = none := by simp [Registry.reset]
  rw [stateOf_of_none hnone]
  exact h.empty

/-- A step outside the class on a context keeps what holds of its state. -/
theorem step (h : StaysOutside inClass p) (site : Site) {op : Operation}
    (hop : d = c → inClass op = false) (hstate : p (r.stateOf c)) :
    p ((r.step site d op).1.stateOf c) := by
  by_cases hd : d = c
  · subst hd
    by_cases hreset : op = .reset
    · subst hreset
      exact h.reset r d
    · exact h.keeps _ _ _ (hop rfl) (step_leaves hreset r site d) hstate
  · rw [stateOf_congr (step_state?_of_ne r site op (Ne.symm hd))]
    exact hstate

/-- A run in which the context is asked for no operation of the class. -/
theorem run (h : StaysOutside inClass p) (site : Site) {between : List Request}
    (hbetween : Without c inClass between) (hstate : p (r.stateOf c)) :
    p ((Registry.run r site between).1.stateOf c) := by
  induction between generalizing r site with
  | nil => exact hstate
  | cons q rest ih =>
    have hfirst := h.step (q.change site) (hbetween q List.mem_cons_self) hstate
    exact ih _ (fun q' hq' => hbetween q' (List.mem_cons_of_mem q hq')) hfirst

/-- A reset, and then such a run. -/
theorem run_reset (h : StaysOutside inClass p) (r : Registry) (site : Site)
    {between : List Request} (hbetween : Without c inClass between) :
    p ((Registry.run (r.reset c).1 site between).1.stateOf c) :=
  h.run site hbetween (h.reset r c)

end StaysOutside

/-- Before an instance is set there is none. -/
theorem staysOutside_plugin :
    StaysOutside givesInstance fun state => state.plugin = none where
  empty := rfl
  keeps _ _ _ hop hleaves hplugin := (hleaves.plugin hop).trans hplugin

/-- Before replacements are registered there are none. -/
theorem staysOutside_replacements :
    StaysOutside registers fun state => state.replacements = .empty where
  empty := rfl
  keeps _ _ _ hop hleaves htable := (hleaves.replacements hop).trans htable

/-- Before a document is asked for there is none. -/
theorem staysOutside_documents :
    StaysOutside loadsDocument fun state => state.manifest = none ∧ state.metadata = none where
  empty := ⟨rfl, rfl⟩
  keeps op _ _ hop hleaves hdocuments := by
    have hne : op ≠ .metadata := by
      rintro rfl
      cases hop
    exact ⟨(hleaves.manifest hop).trans hdocuments.1, (hleaves.metadata hne).trans hdocuments.2⟩

/-- What was known of a context does not come back. It has no instance until one is set, and no
replacements until some are registered. A document that it is asked for is then loaded, from the
network or from the disk as they are at that time, after one request for each document. -/
structure StartsAnew (r : Registry) (c : Context) : Prop where
  noInstance : ∀ site between, Without c givesInstance between →
    ∀ later, ∀ op ∈ [Operation.getInstance, .features],
      ((run r site between).1.step later c op).2.2 = .failed .notInitialized
  noReplacements : ∀ site between, Without c registers between →
    ∀ later, ((run r site between).1.step later c .table).2.2 = .table .empty
  manifest : ∀ site between, Without c loadsDocument between → ∀ later left document,
    ((run r site between).1.step later c .manifest).2 = (left, .manifest document) →
      ∃ url path, later.load VersionManifest.ofText url path = (left, .ok document) ∧
        left.network.requests = later.network.requests ++ [url]
  metadata : ∀ site between, Without c loadsDocument between → ∀ later left document,
    ((run r site between).1.step later c .metadata).2 = (left, .metadata document) →
      ∃ url path listed manifest url' path',
        later.load VersionManifest.ofText url path = (listed, .ok manifest) ∧
        listed.load metadataOfText url' path' = (left, .ok document) ∧
        left.network.requests = later.network.requests ++ [url, url']

/-- A manifest that is not there is loaded. -/
theorem load_of_versionManifest {site left : Site} {document : Document VersionManifest}
    (hempty : (r.stateOf c).manifest = none)
    (h : (r.versionManifest site c).2 = (left, .ok document)) :
    ∃ url path, site.load VersionManifest.ofText url path = (left, .ok document) ∧
      left.network.requests = site.network.requests ++ [url] := by
  have hrun := versionManifest_run r site c
  generalize r.versionManifest site c = outcome at hrun h
  cases hrun with
  | there hthere =>
    rw [hempty] at hthere
    cases hthere
  | noPlace | notLoaded => cases h
  | @loaded url path left' document' _ _ hload =>
    cases h
    have hrequests := load_requests VersionManifest.ofText site url path
    rw [hload] at hrequests
    exact ⟨url, path, hload, hrequests⟩

/-- Where neither document is there, both are loaded. -/
theorem load_of_versionMetadata {site left : Site} {document : Document VersionMetadata}
    (hmanifest : (r.stateOf c).manifest = none) (hmetadata : (r.stateOf c).metadata = none)
    (h : (r.versionMetadata site c).2 = (left, .ok document)) :
    ∃ url path listed manifest url' path',
      site.load VersionManifest.ofText url path = (listed, .ok manifest) ∧
      listed.load metadataOfText url' path' = (left, .ok document) ∧
      left.network.requests = site.network.requests ++ [url, url'] := by
  have hrun := versionMetadata_run r site c
  generalize r.versionMetadata site c = outcome at hrun h
  cases hrun with
  | there hthere =>
    rw [hmetadata] at hthere
    cases hthere
  -- A load that fails gives no document.
  | noInstance | noManifest | noPlace | notLoaded => cases h
  | @loaded i r' listed left' manifest url' path' document' _ _ hfirst _ hload =>
    cases h
    obtain ⟨url, path, hlisted, hasked⟩ :=
      load_of_versionManifest hmanifest (congrArg Prod.snd hfirst)
    have hrequests := load_requests metadataOfText listed url' path'
    rw [hload, hasked, List.append_assoc] at hrequests
    exact ⟨url, path, listed, manifest, url', path', hlisted, hload, hrequests⟩

/-- A document was the answer only if it was had. -/
theorem versionManifest_of_answer {site left : Site} {document : Document VersionManifest}
    (h : (r.step site c .manifest).2 = (left, .manifest document)) :
    (r.versionManifest site c).2 = (left, .ok document) := by
  rcases hcall : r.versionManifest site c with ⟨r', left', e | document'⟩
  · simp [step, hcall, Answer.of] at h
  · simp only [step, hcall, Answer.of, Prod.mk.injEq, Answer.manifest.injEq] at h
    rw [h.1, h.2]

/-- An answer with the document of a version is one that the load gave. -/
theorem versionMetadata_of_answer {site left : Site} {document : Document VersionMetadata}
    (h : (r.step site c .metadata).2 = (left, .metadata document)) :
    (r.versionMetadata site c).2 = (left, .ok document) := by
  rcases hcall : r.versionMetadata site c with ⟨r', left', e | document'⟩
  · simp [step, hcall, Answer.of] at h
  · simp only [step, hcall, Answer.of, Prod.mk.injEq, Answer.metadata.injEq] at h
    rw [h.1, h.2]

/-- After a reset, a context starts anew. -/
theorem reset_startsAnew (r : Registry) (c : Context) : StartsAnew (r.reset c).1 c := by
  constructor
  · intro site between hbetween later op hop
    have hget := getInstance_of_none (staysOutside_plugin.run_reset r site hbetween)
    simp only [List.mem_cons, List.not_mem_nil, or_false] at hop
    rcases hop with rfl | rfl
    · simp only [step, hget, Answer.of]
    · simp only [step, features, hget, Answer.of]
  · intro site between hbetween later
    have hempty : (run (r.reset c).1 site between).1.table c = .empty :=
      staysOutside_replacements.run_reset r site hbetween
    simp only [step, hempty]
  · intro site between hbetween later left document h
    obtain ⟨hempty, -⟩ := staysOutside_documents.run_reset r site hbetween
    exact load_of_versionManifest hempty (versionManifest_of_answer h)
  · intro site between hbetween later left document h
    obtain ⟨hmanifest, hmetadata⟩ := staysOutside_documents.run_reset r site hbetween
    exact load_of_versionMetadata hmanifest hmetadata (versionMetadata_of_answer h)

/-- Whatever was asked of a registry before, after the reset of a context every further run has the
answers, and does at the site, what it would if a handle that was never used took the place of the
context. Nothing is left of what was known of the context. -/
theorem run_after_reset (manifestUrl : String) (earlier site : Site) (before after : List Request)
    (c fresh : Context) (hbefore : ∀ q ∈ before, q.context ≠ fresh)
    (hafter : ∀ q ∈ after, q.context ≠ fresh) :
    let r := (run (.empty manifestUrl) earlier before).1
    (∀ start ∈ [(r.reset c).1, r],
      (run start site (after.map (renamedRequest (instead c fresh)))).2 =
        (run (r.reset c).1 site after).2) ∧
      StartsAnew (r.reset c).1 c := by
  intro r
  have hfresh : r.state? fresh = none := run_state?_of_unused hbefore _ earlier
  exact ⟨run_reset hfresh site hafter, reset_startsAnew r c⟩

/-- A build is set up, and its documents are loaded. -/
def usedBuild : List Request :=
  [⟨fun _ => servesOne, ⟨"build"⟩, .apply (.ofDirs (.ofVersion "1") "" "cache")⟩,
    ⟨id, ⟨"build"⟩, .metadata⟩]

/-- It is used again, when the network is gone. -/
def usedAgain : List Request :=
  [⟨id, ⟨"build"⟩, .getInstance⟩, ⟨id, ⟨"build"⟩, .table⟩,
    ⟨fun _ => servesNothing, ⟨"build"⟩, .add "@CACHE_DIR@" "cache"⟩, ⟨id, ⟨"build"⟩, .manifest⟩]

/-- There is no instance, there are no replacements, and no document can be loaded. -/
def answersNothing : List Answer → Bool
  | [.failed .notInitialized, .table table, .done, .failed (.network _ _)] => table = .empty
  | _ => false

/-- After its reset the build has no instance and no replacements, and its manifest is asked for in
vain, as it would be for a build that was never used. -/
theorem usedAgain_answers :
    (∀ q ∈ usedBuild, q.context ≠ ⟨"new"⟩) ∧ (∀ q ∈ usedAgain, q.context ≠ ⟨"new"⟩) ∧
      ∃ url reason,
        (run ((run (.empty "http://[::1]/m") servesNothing usedBuild).1.reset ⟨"build"⟩).1
          servesOne usedAgain).2.2 =
            [.failed .notInitialized, .table .empty, .done, .failed (.network url reason)] ∧
        (run (run (.empty "http://[::1]/m") servesNothing usedBuild).1 servesOne
          (usedAgain.map (renamedRequest (instead ⟨"build"⟩ ⟨"new"⟩)))).2.2 =
            [.failed .notInitialized, .table .empty, .done, .failed (.network url reason)] := by
  have hbefore : ∀ q ∈ usedBuild, q.context ≠ ⟨"new"⟩ := by simp [usedBuild]
  have hafter : ∀ q ∈ usedAgain, q.context ≠ ⟨"new"⟩ := by simp [usedAgain]
  have hruns := (run_after_reset "http://[::1]/m" servesNothing servesOne usedBuild usedAgain
    ⟨"build"⟩ ⟨"new"⟩ hbefore hafter).1
  have hreset : answersNothing (run ((run (.empty "http://[::1]/m") servesNothing usedBuild).1.reset
      ⟨"build"⟩).1 servesOne usedAgain).2.2 = true := by decide +kernel
  refine ⟨hbefore, hafter, ?_⟩
  -- The reason for the last failure is whatever the resolver says, so it is read off the run.
  unfold answersNothing at hreset
  split at hreset
  · rename_i url reason hanswers
    have hempty := of_decide_eq_true hreset
    rw [hempty] at hanswers
    exact ⟨url, reason, hanswers, by rw [hruns _ (by simp), hanswers]⟩
  · cases hreset

end ModBuild.Proofs.Registry
