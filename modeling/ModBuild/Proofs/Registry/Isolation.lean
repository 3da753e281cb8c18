import ModBuild.Proofs.Registry.Memory

/-!
# `ModBuild.Proofs.Registry.Isolation`: a context answers as if it were alone

Contexts share one registry, one network and one disk. What a context answers when it is not asked
for a document still depends on nothing but what was asked of it before, and of that not on the
documents. The proof compares two registries that hold the same for the context as far as documents
go aside, which is `Alike`:

* `alike_step_of_ne` and `alike_step_of_load`: requests about other contexts and requests for
  documents lead to a registry that is alike.
* `step_alike`: alike registries give the same answer to any other request and stay alike, at any
  two sites.
* `run_answers_own`: the answers in a run are those of the run that has only these other requests.

To load a document never makes a state for a context that has none, and `reset` would tell.
-/

set_option autoImplicit false

namespace ModBuild.Proofs.Registry

open ModBuild ModBuild.Registry

variable {r r' : Registry} {c d : Context}

/-! ### Registries that are alike for a context -/

/-- A state without its documents. -/
def withoutDocuments (state : ContextState) : ContextState :=
  { state with manifest := none, metadata := none }

/-- Both registries hold the same for a context, apart from documents. -/
def Alike (c : Context) (r r' : Registry) : Prop :=
  (r.state? c).map withoutDocuments = (r'.state? c).map withoutDocuments

namespace Alike

/-- A registry is like itself for every context. -/
theorem refl (c : Context) (r : Registry) : Alike c r r := rfl

/-- Registries with one state for a context are alike for it. -/
theorem of_state?_eq (h : r.state? c = r'.state? c) : Alike c r r' := by
  rw [Alike, h]

/-- Registries that are like one in between are alike. -/
theorem trans {r'' : Registry} (h : Alike c r r') (h' : Alike c r' r'') : Alike c r r'' :=
  Eq.trans h h'

/-- A context has a state in both of two registries that are alike for it, or in neither. -/
theorem isSome (h : Alike c r r') : (r.state? c).isSome = (r'.state? c).isSome := by
  simpa using congrArg Option.isSome h

/-- Where registries are alike, the states differ in their documents at most. -/
theorem withoutDocuments_eq (h : Alike c r r') :
    withoutDocuments (r.stateOf c) = withoutDocuments (r'.stateOf c) := by
  have hget : ∀ state? : Option ContextState, withoutDocuments (state?.getD .empty) =
      (state?.map withoutDocuments).getD .empty := fun state? => by cases state? <;> rfl
  rw [stateOf, stateOf, hget, hget, h]

/-- Where registries are alike, the tables are equal. -/
theorem table_eq (h : Alike c r r') : r.table c = r'.table c := by
  show (withoutDocuments (r.stateOf c)).replacements =
    (withoutDocuments (r'.stateOf c)).replacements
  rw [h.withoutDocuments_eq]

/-- Where registries are alike, the instances are equal. -/
theorem plugin_eq (h : Alike c r r') : (r.stateOf c).plugin = (r'.stateOf c).plugin := by
  show (withoutDocuments (r.stateOf c)).plugin = (withoutDocuments (r'.stateOf c)).plugin
  rw [h.withoutDocuments_eq]

/-- Where registries are alike, asking for the instance gives one answer. -/
theorem getInstance_eq (h : Alike c r r') : r.getInstance c = r'.getInstance c := by
  rw [getInstance, getInstance, h.plugin_eq]

end Alike

/-- States that differ in their documents at most keep registries alike. -/
theorem alike_put {state state' : ContextState}
    (h : withoutDocuments state = withoutDocuments state') :
    Alike c (r.put c state) (r'.put c state') := by
  rw [Alike, state?_put_self, state?_put_self, Option.map_some, Option.map_some, h]

/-- To store a document for a context of which something is stored. -/
theorem alike_put_self {state state' : ContextState} (hstate : r.state? c = some state)
    (h : withoutDocuments state' = withoutDocuments state) : Alike c (r.put c state') r := by
  rw [Alike, state?_put_self, hstate, Option.map_some, Option.map_some, h]

/-- After a reset of a context, any two registries are alike for it. -/
theorem alike_reset (c : Context) (r r' : Registry) : Alike c (r.reset c).1 (r'.reset c).1 :=
  .of_state?_eq (by simp [reset])

/-! ### Requests that do not matter -/

/-- The operation loads a document. -/
def loadsDocument : Operation → Bool
  | .manifest | .metadata => true
  | _ => false

/-- An operation on another context leaves a registry like it was. -/
theorem alike_step_of_ne (r : Registry) (site : Site) (op : Operation) (h : c ≠ d) :
    Alike c (r.step site d op).1 r :=
  .of_state?_eq (step_state?_of_ne r site op h)

/-- To load the manifest leaves a registry like it was. -/
theorem alike_versionManifest (r : Registry) (site : Site) (c : Context) :
    Alike c (r.versionManifest site c).1 r := by
  have hrun := versionManifest_run r site c
  generalize r.versionManifest site c = outcome at hrun
  cases hrun with
  | there | noPlace | notLoaded => exact .refl c r
  | loaded _ hplace =>
    -- Only where there is a place was something stored before, so that no state is made here.
    obtain ⟨state, hstate⟩ := exists_state_of_manifestPlace hplace
    rw [stateOf_of_some hstate]
    exact alike_put_self hstate rfl

/-- To load the document of a version leaves a registry like it was. -/
theorem alike_versionMetadata (r : Registry) (site : Site) (c : Context) :
    Alike c (r.versionMetadata site c).1 r := by
  have hrun := versionMetadata_run r site c
  have hfirst := alike_versionManifest r site c
  generalize r.versionMetadata site c = outcome at hrun
  cases hrun with
  | there | noInstance => exact .refl c r
  -- What the load of the manifest leaves behind stays as it is.
  | noManifest _ _ hmanifest | noPlace _ _ hmanifest | notLoaded _ _ hmanifest =>
    rw [hmanifest] at hfirst
    exact hfirst
  | @loaded i r' left last manifest url path document hempty hplugin hmanifest =>
    rw [hmanifest] at hfirst
    cases hstate : r'.state? c with
    | some state =>
      rw [stateOf_of_some hstate]
      have hput : Alike c (r'.put c { state with metadata := some document }) r' :=
        alike_put_self hstate rfl
      exact hput.trans hfirst
    | none =>
      -- A context that has an instance has a state, before and after the manifest is loaded.
      have hnone := hfirst.plugin_eq
      rw [stateOf_of_none hstate, hplugin] at hnone
      cases hnone

/-- An operation that loads a document leaves a registry like it was. -/
theorem alike_step_of_load {op : Operation} (r : Registry) (site : Site) (c : Context)
    (h : loadsDocument op = true) : Alike c (r.step site c op).1 r := by
  cases op with
  | manifest => exact alike_versionManifest r site c
  | metadata => exact alike_versionMetadata r site c
  | _ => cases h

/-! ### Requests that matter -/

/-- The results of an operation that may fail: registries that are alike, or the same error. -/
inductive AlikeResults (c : Context) :
    Except BuildError Registry → Except BuildError Registry → Prop where
  | ok {r r' : Registry} (h : Alike c r r') : AlikeResults c (.ok r) (.ok r')
  | error (e : BuildError) : AlikeResults c (.error e) (.error e)

/-- To change what both hold for the context in a way that has nothing to do with documents. -/
theorem alike_put_change (h : Alike c r r') (change : ContextState → ContextState)
    (hchange : ∀ state, withoutDocuments (change state) = change (withoutDocuments state)) :
    Alike c (r.put c (change (r.stateOf c))) (r'.put c (change (r'.stateOf c))) := by
  apply alike_put
  rw [hchange, hchange, h.withoutDocuments_eq]

/-- One table for both keeps registries alike. -/
theorem alike_put_table (h : Alike c r r') (table : Template.Table) :
    Alike c (r.put c { r.stateOf c with replacements := table })
      (r'.put c { r'.stateOf c with replacements := table }) :=
  alike_put_change h (fun state => { state with replacements := table }) fun _ => rfl

/-- One instance for both keeps registries alike. -/
theorem alike_setInstance (h : Alike c r r') (i : Instance) :
    Alike c (r.setInstance c i) (r'.setInstance c i) :=
  alike_put_change h (fun state => { state with plugin := some i }) fun _ => rfl

/-- To set a name gives like results in registries that are alike. -/
theorem add_alike (h : Alike c r r') (name value : String) :
    AlikeResults c (r.add c name value) (r'.add c name value) := by
  unfold add
  rw [h.table_eq]
  cases (r'.table c).insert name value with
  | ok table => exact .ok (alike_put_table h table)
  | error e => exact .error e

/-- To set names gives like results in registries that are alike. -/
theorem addAll_alike (h : Alike c r r') (pairs : List (String × String)) :
    AlikeResults c (r.addAll c pairs) (r'.addAll c pairs) := by
  unfold addAll
  rw [h.table_eq]
  cases (r'.table c).insertAll pairs with
  | ok table => exact .ok (alike_put_table h table)
  | error e => exact .error e

/-- To apply an instance gives like results in registries that are alike. -/
theorem apply_alike (h : Alike c r r') (i : Instance) :
    AlikeResults c (r.apply c i) (r'.apply c i) := by
  have hadded := addAll_alike h i.replacements
  unfold apply
  generalize r.addAll c i.replacements = added at hadded ⊢
  generalize r'.addAll c i.replacements = added' at hadded ⊢
  cases hadded with
  | ok h => exact .ok (alike_setInstance h i)
  | error e => exact .error e

/-- Like results are like steps with one answer. -/
theorem stepWith_alike {result result' : Except BuildError Registry} (h : Alike c r r')
    (hresult : AlikeResults c result result') (answer : Answer) :
    (r.stepWith answer result).2 = (r'.stepWith answer result').2 ∧
      Alike c (r.stepWith answer result).1 (r'.stepWith answer result').1 := by
  cases hresult with
  | ok hnext => exact ⟨rfl, hnext⟩
  | error e => exact ⟨rfl, h⟩

/-- Alike registries answer alike, wherever they are asked, and stay alike. -/
theorem step_alike {op : Operation} (h : Alike c r r') (site site' : Site)
    (hop : loadsDocument op = false) :
    (r.step site c op).2.2 = (r'.step site' c op).2.2 ∧
      Alike c (r.step site c op).1 (r'.step site' c op).1 := by
  cases op with
  | add name value => exact stepWith_alike h (add_alike h name value) .done
  | addAll pairs => exact stepWith_alike h (addAll_alike h pairs) .done
  | apply i => exact stepWith_alike h (apply_alike h i) (.plugin i)
  | setInstance i => exact ⟨rfl, alike_setInstance h i⟩
  | reset =>
    refine ⟨?_, alike_reset c r r'⟩
    show Answer.flag (r.state? c).isSome = .flag (r'.state? c).isSome
    rw [h.isSome]
  -- The others only look at the replacements or at the instance.
  | has | table | resolve | resolvePath =>
    refine ⟨?_, h⟩
    simp only [step, resolve, resolvePath, h.table_eq]
  | resolveUrl template =>
    refine ⟨?_, h⟩
    simp only [step, resolveUrl, h.table_eq]
  | getInstance | features =>
    refine ⟨?_, h⟩
    simp only [step, features, h.getInstance_eq]
  | manifest | metadata => cases hop

/-! ### Runs -/

/-- The first answer of a run is that of its first request. -/
theorem answers_cons (r : Registry) (site : Site) (q : Request) (rest : List Request) :
    (run r site (q :: rest)).2.2 =
      (r.step (q.change site) q.context q.operation).2.2 ::
        (run (r.step (q.change site) q.context q.operation).1
          (r.step (q.change site) q.context q.operation).2.1 rest).2.2 := rfl

/-- A run can be taken in two parts. -/
theorem run_append (r : Registry) (site : Site) (before after : List Request) :
    (run r site (before ++ after)).1 =
      (run (run r site before).1 (run r site before).2.1 after).1 := by
  induction before generalizing r site with
  | nil => rfl
  | cons q rest ih => exact ih _ _

/-- The request is about the context and loads no document. -/
def isOwn (c : Context) (q : Request) : Bool :=
  q.context = c && !loadsDocument q.operation

/-- What a request asks, without what happens at the site before it. -/
def asked (q : Request) : Context × Operation :=
  (q.context, q.operation)

/-- The answers to some of the requests, given the answers to all of them. -/
def answersTo (p : Request → Bool) (requests : List Request) (answers : List Answer) :
    List Answer :=
  ((requests.zip answers).filter (p ·.1)).map (·.2)

/-- The answer to a request that is picked is the first of those picked. -/
theorem answersTo_cons_of_pos {p : Request → Bool} {q : Request} (h : p q = true)
    (rest : List Request) (answer : Answer) (answers : List Answer) :
    answersTo p (q :: rest) (answer :: answers) = answer :: answersTo p rest answers := by
  simp [answersTo, h]

/-- The answer to a request that is not picked is left out. -/
theorem answersTo_cons_of_neg {p : Request → Bool} {q : Request} (h : p q = false)
    (rest : List Request) (answer : Answer) (answers : List Answer) :
    answersTo p (q :: rest) (answer :: answers) = answersTo p rest answers := by
  simp [answersTo, h]

/-- A request that is not the context's own leads to a registry that is alike. -/
theorem alike_step_of_not_isOwn {q : Request} (r : Registry) (site : Site)
    (h : isOwn c q = false) : Alike c (r.step site q.context q.operation).1 r := by
  by_cases hcontext : q.context = c
  · have hload : loadsDocument q.operation = true := by simpa [isOwn, hcontext] using h
    rw [hcontext]
    exact alike_step_of_load r site c hload
  · exact alike_step_of_ne r site q.operation (Ne.symm hcontext)

/-- From alike registries, the own answers of a run are those of the run of the own requests. -/
theorem answersTo_run (c : Context) (site site' : Site) {requests requests' : List Request}
    (h : Alike c r r') (hown : requests'.map asked = (requests.filter (isOwn c)).map asked) :
    answersTo (isOwn c) requests (run r site requests).2.2 = (run r' site' requests').2.2 := by
  -- Along the longer run: at a request that is not the context's own, only that run takes a step.
  induction requests generalizing r r' site site' requests' with
  | nil =>
    have hnil : requests' = [] := by simpa using hown
    rw [hnil]
    rfl
  | cons q rest ih =>
    cases hq : isOwn c q with
    | false =>
      rw [List.filter_cons_of_neg (by simp [hq])] at hown
      have halike := (alike_step_of_not_isOwn r (q.change site) hq).trans h
      rw [answers_cons, answersTo_cons_of_neg hq]
      exact ih _ site' halike hown
    | true =>
      rw [List.filter_cons_of_pos hq, List.map_cons] at hown
      obtain ⟨q', rest', rfl, hq', hrest'⟩ := List.map_eq_cons_iff.mp hown
      obtain ⟨hcontext', hoperation'⟩ := Prod.mk.inj hq'
      obtain ⟨hcontext, hload⟩ : q.context = c ∧ loadsDocument q.operation = false := by
        simpa [isOwn] using hq
      have hstep := step_alike h (q.change site) (q'.change site') hload
      rw [answers_cons, answersTo_cons_of_pos hq, answers_cons, hcontext', hoperation', hcontext,
        hstep.1]
      exact congrArg _ (ih _ _ hstep.2 hrest')

/-- No request about another context changes what is stored for a context, and what the context
answers to requests for no document is what it answers in a run of just these requests. The second
run can be at another site, with other changes to the network and to the files. -/
theorem run_answers_own (r : Registry) (site site' : Site) (c : Context)
    (requests requests' : List Request)
    (hown : requests'.map asked = (requests.filter (isOwn c)).map asked) :
    (∀ before q, q.context ≠ c →
      (run r site (before ++ [q])).1.state? c = (run r site before).1.state? c) ∧
    answersTo (isOwn c) requests (run r site requests).2.2 = (run r site' requests').2.2 := by
  constructor
  · intro before q hother
    rw [run_append]
    exact step_state?_of_ne _ _ q.operation (Ne.symm hother)
  · exact answersTo_run c site site' (.refl c r) hown

/-- Two builds take turns, and one of them loads its documents. -/
def turns : List Request :=
  [⟨id, ⟨"other"⟩, .add "@OTHER@" "value"⟩, ⟨id, ⟨"build"⟩, .metadata⟩,
    ⟨id, ⟨"build"⟩, .has "@OTHER@"⟩, ⟨fun _ => servesNothing, ⟨"other"⟩, .reset⟩,
    ⟨id, ⟨"build"⟩, .reset⟩, ⟨id, ⟨"build"⟩, .manifest⟩, ⟨id, ⟨"build"⟩, .reset⟩]

/-- What that build is asked for besides documents. -/
def ownTurns : List Request :=
  [⟨id, ⟨"build"⟩, .has "@OTHER@"⟩, ⟨id, ⟨"build"⟩, .reset⟩, ⟨id, ⟨"build"⟩, .reset⟩]

/-- A build does not see what the other one registers. After its reset it is not there again, though
it is asked for a manifest. -/
theorem turns_answers :
    ownTurns.map asked = (turns.filter (isOwn ⟨"build"⟩)).map asked ∧
      answersTo (isOwn ⟨"build"⟩) turns (run versionOne servesOne turns).2.2 =
        [.flag false, .flag true, .flag false] := by
  have hown : ownTurns.map asked = (turns.filter (isOwn ⟨"build"⟩)).map asked := by
    simp [turns, ownTurns, isOwn, loadsDocument]
  refine ⟨hown, ?_⟩
  rw [(run_answers_own versionOne servesOne servesNothing ⟨"build"⟩ turns ownTurns hown).2]
  rfl

end ModBuild.Proofs.Registry
