import ModBuild.Proofs.Registry.Isolation
import ModBuild.Proofs.Template.Table

/-!
# `ModBuild.Proofs.Registry.Applied`: replacements and instance stay in step

An instance is applied in two writes: its seven replacements are registered, and then it is stored.
Both parts can be written again, in runs of any length and with failures in between. As long as
nothing but `apply` writes to the seven names, the replacements are those of the instance that is
stored. The theorems:

* `apply_applied`: an instance can always be applied, and this changes nothing else.
* `step_inStep` and `run_inStep`: what an operation and what a run keeps.
* `applied_in_step`: both, for every run that starts with an empty registry.
-/

set_option autoImplicit false

namespace ModBuild.Proofs.Registry

open ModBuild ModBuild.Registry ModBuild.Proofs.Template

variable {r r' : Registry} {c d : Context} {i : Instance}

/-! ### The standard names -/

/-- The names that every instance has a replacement for. -/
def standardNames : List String :=
  ["@CACHE_DIR@", "@PROJECT_DIR@", "@BUILD_DIR@", "@MC_VERSION@", "@MAPPING_CHANNEL@",
    "@MAPPING_VERSION@", "@RUN_DIRECTORY@"]

/-- An instance sets the standard names. -/
theorem map_fst_replacements (i : Instance) : i.replacements.map (·.1) = standardNames := rfl

/-- The names are tokens, whatever the instance says. -/
theorem isName_of_mem_replacements {e : String × String} (h : e ∈ i.replacements) :
    Template.isName e.1.toList = true := by
  have hall : ∀ name ∈ standardNames, Template.isName name.toList = true := by decide
  exact hall e.1 (map_fst_replacements i ▸ List.mem_map_of_mem h)

/-- The table has what the instance says under each of the names. -/
structure Shows (table : Template.Table) (i : Instance) : Prop where
  cacheDir : table.find? "@CACHE_DIR@" = some i.cacheDir
  projectDir : table.find? "@PROJECT_DIR@" = some i.projectDir
  buildDir : table.find? "@BUILD_DIR@" = some i.buildDir
  version : table.find? "@MC_VERSION@" = some i.extension.version
  mappingChannel : table.find? "@MAPPING_CHANNEL@" = some i.extension.mappingChannel
  mappingVersion : table.find? "@MAPPING_VERSION@" = some i.extension.mappingVersion
  runDirectory : table.find? "@RUN_DIRECTORY@" = some i.extension.runDirectory

/-- Both tables say the same about the names. -/
def SameStandard (table table' : Template.Table) : Prop :=
  ∀ name ∈ standardNames, table'.find? name = table.find? name

/-- A table shows an instance if it has the standard entries of one that does. -/
theorem Shows.of_sameStandard {table table' : Template.Table} (h : Shows table i)
    (hsame : SameStandard table table') : Shows table' i where
  cacheDir := (hsame _ (by decide)).trans h.cacheDir
  projectDir := (hsame _ (by decide)).trans h.projectDir
  buildDir := (hsame _ (by decide)).trans h.buildDir
  version := (hsame _ (by decide)).trans h.version
  mappingChannel := (hsame _ (by decide)).trans h.mappingChannel
  mappingVersion := (hsame _ (by decide)).trans h.mappingVersion
  runDirectory := (hsame _ (by decide)).trans h.runDirectory

/-- A table shows the instance whose entries were put there last. -/
theorem shows_insertAll {table table' : Template.Table}
    (h : table.insertAll i.replacements = .ok table') : Shows table' i := by
  -- Each name stands in the list once, so its last value is its only one.
  constructor
  all_goals
    rw [find?_insertAll h]
    rfl

/-- No value is registered for a name that is not among the names of the values. -/
theorem lookup_reverse_of_not_mem {pairs : List (String × String)} {name : String}
    (h : name ∉ pairs.map (·.1)) : pairs.reverse.lookup name = none := by
  rw [List.lookup_eq_none_iff]
  intro e he
  have hne : name ≠ e.1 := by
    rintro rfl
    exact h (List.mem_map_of_mem (List.mem_reverse.mp he))
  simpa using hne

/-! ### Applying -/

/-- What it means that an instance was applied to a context: it is stored, its replacements are
registered, and all else is as it was. -/
structure Applied (r : Registry) (c : Context) (i : Instance) (r' : Registry) : Prop where
  plugin : (r'.stateOf c).plugin = some i
  standard : Shows (r'.table c) i
  others : ∀ name, name ∉ standardNames → (r'.table c).find? name = (r.table c).find? name
  manifest : (r'.stateOf c).manifest = (r.stateOf c).manifest
  metadata : (r'.stateOf c).metadata = (r.stateOf c).metadata
  elsewhere : ∀ d, d ≠ c → r'.state? d = r.state? d
  manifestUrl : r'.manifestUrl = r.manifestUrl

/-- The replacements of an instance can be registered in every table. -/
theorem exists_insertAll (table : Template.Table) (i : Instance) :
    ∃ table', table.insertAll i.replacements = .ok table' := by
  unfold Template.Table.insertAll
  split
  · -- There is no name that is refused.
    rename_i name value hfind
    have hname := isName_of_mem_replacements (List.mem_of_find?_eq_some hfind)
    have hrefused := List.find?_some hfind
    simp [hname] at hrefused
  · exact ⟨_, rfl⟩

/-- An instance can be applied to every context of every registry. -/
theorem apply_applied (r : Registry) (c : Context) (i : Instance) :
    ∃ r', r.apply c i = .ok r' ∧ Applied r c i r' := by
  obtain ⟨table, hinsert⟩ := exists_insertAll (r.table c) i
  -- The state in between, with the replacements and without the instance.
  let state : ContextState := { r.stateOf c with replacements := table }
  have hadd : r.addAll c i.replacements = .ok (r.put c state) := by
    unfold addAll
    rw [hinsert]
  have happly : r.apply c i = .ok ((r.put c state).setInstance c i) := by
    unfold Registry.apply
    rw [hadd]
  have hstate : ((r.put c state).setInstance c i).stateOf c = { state with plugin := some i } := by
    rw [setInstance, stateOf_put, stateOf_put]
  have htable : ((r.put c state).setInstance c i).table c = table := by
    rw [Registry.table, hstate]
  refine ⟨_, happly, ?_⟩
  constructor
  · rw [hstate]
  · rw [htable]
    exact shows_insertAll hinsert
  · intro name hname
    rw [htable, find?_insertAll hinsert, lookup_reverse_of_not_mem hname, Option.none_or]
  · rw [hstate]
  · rw [hstate]
  · intro d hd
    rw [setInstance, state?_put_of_ne _ _ hd, state?_put_of_ne _ _ hd]
  · rfl

/-! ### In step -/

/-- A state that has an instance has the replacements of this instance. -/
def InStep (state : ContextState) : Prop :=
  ∀ i, state.plugin = some i → Shows state.replacements i

/-- A context that nothing was done to is in step. -/
theorem inStep_empty : InStep .empty :=
  fun _ h => nomatch h

/-- Whatever changes the table and keeps the standard names keeps the state in step. -/
theorem InStep.of_sameStandard {state state' : ContextState} (h : InStep state)
    (hplugin : state'.plugin = state.plugin)
    (hsame : SameStandard state.replacements state'.replacements) : InStep state' := by
  intro i hi
  exact (h i (hplugin ▸ hi)).of_sameStandard hsame

/-- Documents do not count. -/
theorem InStep.of_alike (h : InStep (r.stateOf c)) (halike : Alike c r' r) :
    InStep (r'.stateOf c) := by
  refine h.of_sameStandard halike.plugin_eq fun name _ => ?_
  show (r'.table c).find? name = (r.table c).find? name
  rw [halike.table_eq]

/-- The operation leaves the standard names and the instance to `apply`. -/
def LeavesStandard : Operation → Prop
  | .add name _ => name ∉ standardNames
  | .addAll pairs => ∀ e ∈ pairs, e.1 ∉ standardNames
  | .setInstance _ => False
  | _ => True

/-- To set another name leaves the standard entries. -/
theorem sameStandard_insert {table table' : Template.Table} {name value : String}
    (hname : name ∉ standardNames) (h : table.insert name value = .ok table') :
    SameStandard table table' := by
  intro other hother
  have hne : other ≠ name := ne_of_mem_of_not_mem hother hname
  unfold Template.Table.insert at h
  split at h
  · cases h
    rw [find?_put, if_neg hne]
  · cases h

/-- To set other names leaves the standard entries. -/
theorem sameStandard_insertAll {table table' : Template.Table} {pairs : List (String × String)}
    (hpairs : ∀ e ∈ pairs, e.1 ∉ standardNames) (h : table.insertAll pairs = .ok table') :
    SameStandard table table' := by
  intro name hname
  have hnone : name ∉ pairs.map (·.1) := by
    intro hmem
    obtain ⟨e, he, rfl⟩ := List.mem_map.mp hmem
    exact hpairs e he hname
  rw [find?_insertAll h, lookup_reverse_of_not_mem hnone, Option.none_or]

/-- A write of replacements that may fail keeps a state in step if the tables it can leave behind
agree on the standard names. -/
theorem inStep_stepWith {answer : Answer} {result : Except BuildError Template.Table}
    (h : InStep (r.stateOf c))
    (hsame : ∀ table, result = .ok table → SameStandard (r.table c) table) :
    InStep ((r.stepWith answer (result.map fun table =>
      r.put c { r.stateOf c with replacements := table })).1.stateOf c) := by
  cases result with
  | error e => exact h
  | ok table =>
    show InStep ((r.put c { r.stateOf c with replacements := table }).stateOf c)
    rw [stateOf_put]
    exact h.of_sameStandard rfl (hsame table rfl)

/-- To set a name is to set it in the table of the context. -/
theorem add_eq_map (r : Registry) (c : Context) (name value : String) :
    r.add c name value = ((r.table c).insert name value).map fun table =>
      r.put c { r.stateOf c with replacements := table } := by
  unfold add
  cases (r.table c).insert name value <;> rfl

/-- To set names is to set them in the table of the context. -/
theorem addAll_eq_map (r : Registry) (c : Context) (pairs : List (String × String)) :
    r.addAll c pairs = ((r.table c).insertAll pairs).map fun table =>
      r.put c { r.stateOf c with replacements := table } := by
  unfold addAll
  cases (r.table c).insertAll pairs <;> rfl

/-- One operation on the context itself. -/
theorem step_inStep {op : Operation} (site : Site) (hop : LeavesStandard op)
    (h : InStep (r.stateOf c)) : InStep ((r.step site c op).1.stateOf c) := by
  cases op with
  | add name value =>
    show InStep ((r.stepWith .done (r.add c name value)).1.stateOf c)
    rw [add_eq_map]
    exact inStep_stepWith h fun _ => sameStandard_insert hop
  | addAll pairs =>
    show InStep ((r.stepWith .done (r.addAll c pairs)).1.stateOf c)
    rw [addAll_eq_map]
    exact inStep_stepWith h fun _ => sameStandard_insertAll hop
  | apply i =>
    obtain ⟨r', happly, happlied⟩ := apply_applied r c i
    show InStep ((r.stepWith (.plugin i) (r.apply c i)).1.stateOf c)
    rw [happly]
    intro j hj
    -- Whatever was stored, the instance is the new one now.
    have hi : (r'.stateOf c).plugin = some i := happlied.plugin
    rw [show (r.stepWith (.plugin i) (.ok r')).1 = r' from rfl, hi] at hj
    cases hj
    exact happlied.standard
  | setInstance i => exact hop.elim
  | reset =>
    have hnone : (r.reset c).1.state? c = none := by simp [reset]
    show InStep ((r.reset c).1.stateOf c)
    rw [stateOf_of_none hnone]
    exact inStep_empty
  | manifest => exact h.of_alike (alike_versionManifest r site c)
  | metadata => exact h.of_alike (alike_versionMetadata r site c)
  -- The others only look at the registry.
  | has | table | resolve | resolvePath | resolveUrl | getInstance | features => exact h

/-- A run in which the requests about the context leave the standard names to `apply`. -/
theorem run_inStep (site : Site) {requests : List Request}
    (hrun : ∀ q ∈ requests, q.context = c → LeavesStandard q.operation)
    (h : InStep (r.stateOf c)) : InStep ((run r site requests).1.stateOf c) := by
  induction requests generalizing r site with
  | nil => exact h
  | cons q rest ih =>
    obtain ⟨hq, hrest⟩ := List.forall_mem_cons.mp hrun
    have hstep : InStep ((r.step (q.change site) q.context q.operation).1.stateOf c) := by
      by_cases hcontext : q.context = c
      · rw [hcontext]
        exact step_inStep _ (hq hcontext) h
      · rw [stateOf_congr (step_state?_of_ne r (q.change site) q.operation (Ne.symm hcontext))]
        exact h
    exact ih _ hrest hstep

/-- Take any run in which nothing but `apply` writes to the standard names of a context and to its
instance. Documents may be loaded, other names registered, and the context reset and used again;
requests may fail; and other contexts may be asked for anything. Then an instance that is stored for
the context has all its replacements registered, and the next instance can be applied, which changes
the instance and the standard names and nothing else. -/
theorem applied_in_step (manifestUrl : String) (site : Site) (requests : List Request) (c : Context)
    (h : ∀ q ∈ requests, q.context = c → LeavesStandard q.operation) :
    let r := (run (.empty manifestUrl) site requests).1
    (∀ i, (r.stateOf c).plugin = some i → Shows (r.table c) i) ∧
    ∀ i later, ∃ r', r.step later c (.apply i) = (r', later, .plugin i) ∧ Applied r c i r' := by
  intro r
  constructor
  · exact run_inStep site h inStep_empty
  · intro i later
    obtain ⟨r', happly, happlied⟩ := apply_applied r c i
    refine ⟨r', ?_, happlied⟩
    show ((r.stepWith (.plugin i) (r.apply c i)).1, later,
      (r.stepWith (.plugin i) (r.apply c i)).2) = _
    rw [happly]
    rfl

/-- A build of version 1 is reset while it is at work, and goes on with version 2. -/
def changesVersion : List Request :=
  [⟨id, ⟨"build"⟩, .apply (.ofDirs (.ofVersion "1") "/work" "cache")⟩,
    ⟨fun _ => servesOne, ⟨"build"⟩, .manifest⟩,
    ⟨id, ⟨"build"⟩, .addAll [("@MC@", "@MC_VERSION@"), ("mc", "no token")]⟩,
    ⟨id, ⟨"other"⟩, .add "@MC_VERSION@" "3"⟩, ⟨id, ⟨"build"⟩, .reset⟩,
    ⟨id, ⟨"build"⟩, .apply (.ofDirs (.ofVersion "1") "/work" "cache")⟩,
    ⟨id, ⟨"build"⟩, .apply (.ofDirs (.ofVersion "2") "/work" "/cache")⟩,
    ⟨fun _ => servesNothing, ⟨"build"⟩, .metadata⟩]

/-- The replacements are those of version 2. -/
theorem changesVersion_in_step :
    let r := (run (.empty "http://[::1]/m") servesNothing changesVersion).1
    (r.stateOf ⟨"build"⟩).plugin = some (.ofDirs (.ofVersion "2") "/work" "/cache") ∧
      (r.table ⟨"build"⟩).find? "@MC_VERSION@" = some "2" ∧
      (r.table ⟨"build"⟩).find? "@BUILD_DIR@" = some "/work/build" := by
  intro r
  have hbatch : LeavesStandard (.addAll [("@MC@", "@MC_VERSION@"), ("mc", "no token")]) := by
    have hnames : ∀ name ∈ ["@MC@", "mc"], name ∉ standardNames := by decide
    simpa [LeavesStandard] using hnames
  have hleaves : ∀ q ∈ changesVersion, q.context = ⟨"build"⟩ → LeavesStandard q.operation := by
    simp only [changesVersion, List.forall_mem_cons]
    exact ⟨fun _ => trivial, fun _ => trivial, fun _ => hbatch, fun hother => by simp at hother,
      fun _ => trivial, fun _ => trivial, fun _ => trivial, fun _ => trivial, nofun⟩
  have hplugin : (r.stateOf ⟨"build"⟩).plugin =
      some (.ofDirs (.ofVersion "2") "/work" "/cache") := by
    decide +kernel
  -- No request sets a standard name to anything else, so the table shows the instance there is.
  have hshows := (applied_in_step "http://[::1]/m" servesNothing changesVersion ⟨"build"⟩ hleaves).1
    _ hplugin
  refine ⟨hplugin, hshows.version, ?_⟩
  rw [hshows.buildDir]
  decide

end ModBuild.Proofs.Registry
