import ModBuild.Error.Report

/-!
# `ModBuild.Proofs.Error.Report`: what a person is told of a failure

A failure is a root cause with what was put around it, and something may lie behind the root. Three
searches go through these causes. The first looks for an error of the library among the causes that
the failure holds itself, the second for a file fault among the same, and the third for an error of
the library behind the root. The theorems:

* `texts_eq` and `firstBuild?_eq`: the line of texts and the third search both go along
  `wholeChain`, which lists all causes, those behind the root included.
* `report_of_error`, `report_of_fault` and `report_of_others`: the report, by the search that finds
  something.
* `report_by_first_error`: the three together, for texts and errors around any root.
* `infix_display_of_details` and `infix_display_of_error`: both parts of a report that can hold the
  line of texts are shown.
* `display_tells_contexts`: the texts around a root are shown, unless the root has details of its
  own.
-/

set_option autoImplicit false

namespace ModBuild.Proofs.Error

open ModBuild

/-! ### The causes of a failure -/

/-- A cause and all that lies behind it, outermost first. -/
def withBehind : Cause → List Cause
  | .build (.fileSystem operation path fault) =>
    [.build (.fileSystem operation path fault), .file fault]
  | .foreign message behind => .foreign message behind :: withBehind behind
  | cause => [cause]

/-- All causes of a failure, outermost first. -/
def wholeChain (failure : Failure) : List Cause :=
  failure.contexts ++ withBehind failure.root

/-- The texts of a cause are those of the causes that it wraps, one behind the other. -/
theorem texts_withBehind (cause : Cause) : cause.texts = (withBehind cause).map Cause.head := by
  fun_induction withBehind cause with
  | case1 operation path fault => rfl
  | case2 message behind ih => rw [Cause.texts, ih, List.map_cons, Cause.head]
  | case3 cause hfile hforeign =>
    cases cause with
    | build error =>
      cases error with
      | fileSystem operation path fault => exact absurd rfl (hfile operation path fault)
      | _ => rfl
    | file fault => rfl
    | text message => rfl
    | foreign message behind => exact absurd rfl (hforeign message behind)

/-- The texts of a failure are those of all its causes. -/
theorem texts_eq (failure : Failure) : failure.texts = (wholeChain failure).map Cause.head := by
  rw [Failure.texts, texts_withBehind, wholeChain, List.map_append]

/-- The search behind a cause begins with the cause itself. -/
theorem firstBuild?_eq (cause : Cause) :
    cause.firstBuild? = (withBehind cause).findSome? Cause.build? := by
  fun_induction withBehind cause with
  | case1 operation path fault => rfl
  | case2 message behind ih =>
    rw [Cause.firstBuild?, ih, List.findSome?_cons_of_isNone]
    rfl
  | case3 cause hfile hforeign =>
    cases cause with
    | build error => rfl
    | file fault => rfl
    | text message => rfl
    | foreign message behind => exact absurd rfl (hforeign message behind)

/-! ### The first error among causes -/

/-- The first error of the library among some causes. -/
def IsFirstError (causes : List Cause) (error : BuildError) : Prop :=
  ∃ before after, causes = before ++ .build error :: after ∧ ∀ e, .build e ∉ before

/-- No cause is an error of the library. -/
def NoError (causes : List Cause) : Prop :=
  ∀ e, .build e ∉ causes

/-- A cause shows an error of the library exactly if it is one. -/
theorem build?_eq_some_iff {cause : Cause} {error : BuildError} :
    cause.build? = some error ↔ cause = .build error := by
  cases cause <;> simp [Cause.build?]

/-- No error is found among causes exactly if there is none. -/
theorem findSome?_build?_eq_none_iff {causes : List Cause} :
    causes.findSome? Cause.build? = none ↔ NoError causes := by
  rw [List.findSome?_eq_none_iff]
  constructor
  · intro h e he
    cases h _ he
  · intro h cause hcause
    cases hbuild : cause.build? with
    | none => rfl
    | some e =>
      rw [build?_eq_some_iff] at hbuild
      exact absurd (hbuild ▸ hcause) (h e)

/-- The error that is found among causes is the first of them. -/
theorem findSome?_build?_eq_some_iff {causes : List Cause} {error : BuildError} :
    causes.findSome? Cause.build? = some error ↔ IsFirstError causes error := by
  rw [List.findSome?_eq_some_iff]
  constructor
  · rintro ⟨before, cause, after, heq, hbuild, hbefore⟩
    rw [build?_eq_some_iff] at hbuild
    subst hbuild
    refine ⟨before, after, heq, ?_⟩
    exact findSome?_build?_eq_none_iff.mp (List.findSome?_eq_none_iff.mpr hbefore)
  · rintro ⟨before, after, heq, hbefore⟩
    refine ⟨before, .build error, after, heq, rfl, ?_⟩
    exact List.findSome?_eq_none_iff.mp (findSome?_build?_eq_none_iff.mpr hbefore)

/-! ### The report, by what is found -/

section

variable {failure : Failure}

/-- The outermost error of the library is the one that is reported. -/
theorem report_of_error {error : BuildError} (h : IsFirstError failure.values error) :
    failure.report =
      ⟨error, error.suggestion?, error.ownDetails?.or failure.chainDetails?⟩ := by
  rw [Failure.report, findSome?_build?_eq_some_iff.mpr h]

/-- A file fault at the root is reported where nothing around it is an error or a fault. -/
theorem report_of_fault {fault : FileFault} (hnone : NoError failure.values)
    (hcontexts : ∀ c ∈ failure.contexts, c.file? = none) (hroot : failure.root = .file fault) :
    failure.report =
      ⟨.fileSystem "file access" "unknown" (.custom fault.kind fault.message),
        Failure.fileSuggestion? fault.kind, failure.chainDetails?⟩ := by
  have hfault : failure.values.findSome? Cause.file? = some fault := by
    rw [Failure.values, List.findSome?_append, List.findSome?_eq_none_iff.mpr hcontexts, hroot]
    rfl
  rw [Failure.report, findSome?_build?_eq_none_iff.mpr hnone]
  simp only [hfault]

/-- Where neither is found, all texts are reported, with what the first error behind the root
suggests. -/
theorem report_of_others (hnone : NoError failure.values)
    (hcontexts : ∀ c ∈ failure.contexts, c.file? = none) (hroot : failure.root.file? = none) :
    failure.report =
      ⟨.config failure.chain, failure.root.firstBuild?.bind BuildError.suggestion?, none⟩ := by
  have hfault : failure.values.findSome? Cause.file? = none := by
    rw [Failure.values, List.findSome?_append, List.findSome?_eq_none_iff.mpr hcontexts,
      Option.none_or, List.findSome?_singleton, hroot]
  rw [Failure.report, findSome?_build?_eq_none_iff.mpr hnone]
  simp only [hfault]

end

/-- A text or an error of the library, as commands put them around causes. -/
def IsExplanation (cause : Cause) : Prop :=
  (∃ text, cause = .text text) ∨ ∃ error, cause = .build error

/-- An explanation is no file fault. -/
theorem IsExplanation.file? {cause : Cause} (h : IsExplanation cause) : cause.file? = none := by
  rcases h with ⟨text, rfl⟩ | ⟨error, rfl⟩
  · rfl
  · rfl

/-- There is something to suggest for two classes of file faults. -/
theorem isSome_fileSuggestion?_iff {kind : FileFault.Kind} :
    (Failure.fileSuggestion? kind).isSome = true ↔
      kind = .permissionDenied ∨ kind = .notFound := by
  cases kind <;> simp [Failure.fileSuggestion?]

/-- What texts and errors around a root cause make of a report. The outermost error of the library
among them and the root is the one reported, with its own suggestion. Without one, a file fault at
the root is reported as an error of a file operation, with its class and its text. Anything else is
reported as an error of the configuration with the texts of all causes, and the first error behind
the root suggests what to do. -/
theorem report_by_first_error (failure : Failure)
    (hcontexts : ∀ c ∈ failure.contexts, IsExplanation c) :
    (∀ error, IsFirstError failure.values error →
      failure.report.error = error ∧ failure.report.suggestion = error.suggestion?) ∧
    (NoError failure.values → ∀ fault, failure.root = .file fault →
      ∃ shown, failure.report.error = .fileSystem "file access" "unknown" shown ∧
        shown.kind = fault.kind ∧ shown.message = fault.message ∧
        (failure.report.suggestion.isSome = true ↔
          fault.kind = .permissionDenied ∨ fault.kind = .notFound)) ∧
    (NoError failure.values → (∀ fault, failure.root ≠ .file fault) →
      failure.report.error =
        .config (String.intercalate ": " ((wholeChain failure).map Cause.head)) ∧
      failure.report.details = none ∧
      (∀ error, IsFirstError (wholeChain failure) error →
        failure.report.suggestion = error.suggestion?) ∧
      (NoError (wholeChain failure) → failure.report.suggestion = none)) := by
  have hnoFault : ∀ c ∈ failure.contexts, c.file? = none := fun c hc => (hcontexts c hc).file?
  refine ⟨fun error herror => ?_, fun hnone fault hroot => ?_, fun hnone hroot => ?_⟩
  · rw [report_of_error herror]
    exact ⟨rfl, rfl⟩
  · rw [report_of_fault hnone hnoFault hroot]
    exact ⟨_, rfl, rfl, rfl, isSome_fileSuggestion?_iff⟩
  · have hfile : failure.root.file? = none := by
      cases hcause : failure.root with
      | file fault => exact absurd hcause (hroot fault)
      | _ => rfl
    -- The search along the whole chain finds nothing in front of the root.
    have hsearch : (wholeChain failure).findSome? Cause.build? = failure.root.firstBuild? := by
      have hfront : failure.contexts.findSome? Cause.build? = none :=
        findSome?_build?_eq_none_iff.mpr fun e he => hnone e (List.mem_append_left _ he)
      rw [wholeChain, List.findSome?_append, hfront, Option.none_or, firstBuild?_eq]
    rw [report_of_others hnone hnoFault hfile, Failure.chain, texts_eq, ← hsearch]
    refine ⟨rfl, rfl, fun error herror => ?_, fun hchain => ?_⟩
    · rw [findSome?_build?_eq_some_iff.mpr herror]
      rfl
    · rw [findSome?_build?_eq_none_iff.mpr hchain]
      rfl

/-- A command that could not load a version, with a hint in between that is an error itself. -/
def hinted : Failure :=
  ⟨[.text "Failed to load metadata", .build (.unknownVersion "1.14" ["1.13"]), .text "retried"],
    .foreign "worker failed" (.build .notInitialized)⟩

/-- The same failure without the hint. -/
def unhinted : Failure :=
  ⟨[.text "Failed to load metadata", .text "retried"],
    .foreign "worker failed" (.build .notInitialized)⟩

/-- A file that could not be written because the disk is full. -/
def unwritten : Failure :=
  ⟨[.text "Failed to keep a copy"], .file (.os 28)⟩

/-- The hint is reported although an error of the library lies behind the root. Without the hint
that error is not reported, and all the same says what to do. A full disk is reported as such. -/
theorem report_hinted :
    (∀ c ∈ hinted.contexts, IsExplanation c) ∧ (∀ c ∈ unhinted.contexts, IsExplanation c) ∧
      (∀ c ∈ unwritten.contexts, IsExplanation c) ∧
      hinted.report.error = .unknownVersion "1.14" ["1.13"] ∧
      hinted.report.suggestion = some "Did you mean: 1.13?" ∧
      unhinted.report.error = .config
        "Failed to load metadata: retried: worker failed: Build context is not set up yet" ∧
      unhinted.report.suggestion =
        some "Make sure mcgradle.toml exists and has a [minecraft] version" ∧
      (∃ shown, unwritten.report.error = .fileSystem "file access" "unknown" shown ∧
        shown.kind = .storageFull ∧ shown.message = "No space left on device (os error 28)") ∧
      unwritten.report.suggestion = none := by
  have hhinted : ∀ c ∈ hinted.contexts, IsExplanation c := by
    simp [hinted, IsExplanation]
  have hunhinted : ∀ c ∈ unhinted.contexts, IsExplanation c := by
    simp [unhinted, IsExplanation]
  have hunwritten : ∀ c ∈ unwritten.contexts, IsExplanation c := by
    simp [unwritten, IsExplanation]
  have hfirst : IsFirstError hinted.values (.unknownVersion "1.14" ["1.13"]) :=
    ⟨[.text "Failed to load metadata"], _, rfl, by simp⟩
  have hnone : NoError unhinted.values := by
    simp [NoError, unhinted, Failure.values]
  have hbehind : IsFirstError (wholeChain unhinted) .notInitialized :=
    ⟨[.text "Failed to load metadata", .text "retried",
      .foreign "worker failed" (.build .notInitialized)], [], rfl, by simp⟩
  -- Each failure is one of the three kinds: with an error of its own, without any, and with a fault
  -- of a file.
  obtain ⟨herror, hsuggestion⟩ := (report_by_first_error hinted hhinted).1 _ hfirst
  obtain ⟨hmessage, -, hfound, -⟩ :=
    (report_by_first_error unhinted hunhinted).2.2 hnone (by simp [unhinted])
  obtain ⟨shown, hshown, hkind, htext, hsome⟩ :=
    (report_by_first_error unwritten hunwritten).2.1 (by simp [NoError, unwritten, Failure.values])
      _ rfl
  refine ⟨hhinted, hunhinted, hunwritten, herror, hsuggestion.trans (by decide +kernel),
    hmessage.trans (by decide +kernel), hfound _ hbehind, ⟨shown, hshown, ?_, ?_⟩, ?_⟩
  · exact hkind.trans (by decide)
  · exact htext.trans (by decide +kernel)
  · rw [← Option.not_isSome_iff_eq_none, hsome]
    decide

/-! ### What is shown -/

/-- A text is part of the line that it is joined into. -/
theorem infix_intercalate {separator text : List Char} {texts : List (List Char)}
    (h : text ∈ texts) : text <:+: separator.intercalate texts := by
  induction texts with
  | nil => cases h
  | cons first rest ih =>
    cases rest with
    | nil =>
      rw [List.intercalate_singleton]
      exact List.mem_singleton.mp h ▸ List.infix_rfl
    | cons second rest =>
      rw [List.intercalate_cons_cons]
      rcases List.mem_cons.mp h with rfl | h
      · rw [List.append_assoc]
        exact (List.prefix_append _ _).isInfix
      · exact (ih h).trans (List.suffix_append _ _).isInfix

section

variable {failure : Failure} {report : Report} {text : String}

/-- Each text of a failure is part of the line of all of them. -/
theorem infix_chain (h : text ∈ failure.texts) : text.toList <:+: failure.chain.toList := by
  rw [Failure.chain, String.toList_intercalate]
  exact infix_intercalate (List.mem_map_of_mem h)

/-- What is in the message is shown. -/
theorem infix_display_of_error (h : text.toList <:+: report.error.message.toList) :
    text.toList <:+: report.display.toList := by
  rw [Report.display, String.toList_append, String.toList_append, List.append_assoc]
  exact h.trans (List.prefix_append _ _).isInfix

/-- What is in the details is shown. -/
theorem infix_display_of_details {details : String} (hdetails : report.details = some details)
    (h : text.toList <:+: details.toList) : text.toList <:+: report.display.toList := by
  have hline : details.toList <:+: ("\nDetails: " ++ details).toList :=
    ⟨"\nDetails: ".toList, [], by rw [String.toList_append, List.append_nil]⟩
  rw [Report.display, hdetails, String.toList_append, String.toList_append]
  exact (h.trans hline).trans (List.infix_append _ _ _)

/-- With something around the root, the texts of a failure are more than one. -/
theorem chainDetails?_of_mem {cause : Cause} (h : cause ∈ failure.contexts) :
    failure.chainDetails? = some failure.chain := by
  have hcontexts : 0 < failure.contexts.length := List.length_pos_of_mem h
  have hroot : 0 < failure.root.texts.length := by
    rw [texts_withBehind, List.length_map]
    unfold withBehind
    split <;> exact Nat.succ_pos _
  have hlength : failure.texts.length > 1 := by
    rw [Failure.texts, List.length_append, List.length_map]
    omega
  rw [Failure.chainDetails?, if_pos hlength]

/-- Nothing but texts was put around the root. -/
def OnlyTexts (failure : Failure) : Prop :=
  ∀ c ∈ failure.contexts, ∃ text, c = .text text

/-- Nothing stands around a cause at first. -/
theorem onlyTexts_of (root : Cause) : OnlyTexts (Failure.of root) :=
  nofun

/-- A text around a failure is one more text. -/
theorem OnlyTexts.explain (h : OnlyTexts failure) (text : String) :
    OnlyTexts (failure.explain text) := by
  intro c hc
  rcases List.mem_cons.mp hc with rfl | hc
  · exact ⟨text, rfl⟩
  · exact h c hc

/-- Texts around an error of the library are none themselves. -/
theorem OnlyTexts.isFirstError {error : BuildError} (h : OnlyTexts failure)
    (hroot : failure.root = .build error) : IsFirstError failure.values error := by
  refine ⟨failure.contexts, [], by rw [Failure.values, hroot], fun e he => ?_⟩
  obtain ⟨text, htext⟩ := h _ he
  cases htext

/-- Among texts around another cause there is no error of the library. -/
theorem OnlyTexts.noError (h : OnlyTexts failure) (hroot : failure.root.build? = none) :
    NoError failure.values := by
  intro e he
  rcases List.mem_append.mp he with he | he
  · obtain ⟨text, htext⟩ := h _ he
    cases htext
  · rw [← List.mem_singleton.mp he] at hroot
    cases hroot

/-- Texts are no file faults. -/
theorem OnlyTexts.noFault (h : OnlyTexts failure) : ∀ c ∈ failure.contexts, c.file? = none := by
  intro c hc
  obtain ⟨text, rfl⟩ := h c hc
  rfl

end

/-- Errors of file operations and of expansions that meet a limit say more than their message. -/
def HasOwnDetails : Cause → Prop
  | .build (.fileSystem _ _ _) => True
  | .build (.expansionLimit _ _) => True
  | _ => False

/-- An error of the library has details of its own where it gives some. -/
theorem hasOwnDetails_build_iff {error : BuildError} :
    HasOwnDetails (.build error) ↔ error.ownDetails? ≠ none := by
  cases error <;> simp [HasOwnDetails, BuildError.ownDetails?]

/-- The line of texts is shown, as the details or in the message, unless the root has details of
its own. -/
theorem infix_display_of_context {failure : Failure} (h : OnlyTexts failure)
    (hplain : ¬ HasOwnDetails failure.root) {cause : Cause} (hcause : cause ∈ failure.contexts) :
    failure.chain.toList <:+: failure.report.display.toList := by
  have hdetails : failure.chainDetails? = some failure.chain := chainDetails?_of_mem hcause
  -- A root that is neither an error nor a fault leaves the line of texts to the message.
  have hmessage : failure.root.build? = none → failure.root.file? = none →
      failure.chain.toList <:+: failure.report.display.toList := by
    intro hbuild hfile
    have herror : failure.report.error = .config failure.chain := by
      rw [report_of_others (h.noError hbuild) h.noFault hfile]
    have htext : (BuildError.config failure.chain).message =
        "Configuration error: " ++ failure.chain := rfl
    refine infix_display_of_error ⟨"Configuration error: ".toList, [], ?_⟩
    rw [herror, htext, String.toList_append, List.append_nil]
  cases hroot : failure.root with
  | build error =>
    rw [hroot, hasOwnDetails_build_iff, Classical.not_not] at hplain
    refine infix_display_of_details ?_ List.infix_rfl
    rw [report_of_error (h.isFirstError hroot), hplain, hdetails]
    rfl
  | file fault =>
    have hbuild : failure.root.build? = none := by rw [hroot]; rfl
    refine infix_display_of_details ?_ List.infix_rfl
    rw [report_of_fault (h.noError hbuild) h.noFault hroot, hdetails]
  | text message => exact hmessage (by rw [hroot]; rfl) (by rw [hroot]; rfl)
  | foreign message behind => exact hmessage (by rw [hroot]; rfl) (by rw [hroot]; rfl)

/-- Details of its own make a root the only thing that is reported. -/
theorem report_of_hasOwnDetails {failure : Failure} (h : OnlyTexts failure)
    (hown : HasOwnDetails failure.root) : failure.report = (Failure.of failure.root).report := by
  cases hroot : failure.root with
  | build error =>
    rw [hroot, hasOwnDetails_build_iff] at hown
    obtain ⟨details, hdetails⟩ := Option.ne_none_iff_exists'.mp hown
    have halone := onlyTexts_of (.build error)
    rw [report_of_error (h.isFirstError hroot), report_of_error (halone.isFirstError rfl), hdetails]
    rfl
  | _ =>
    rw [hroot] at hown
    cases hown

/-- Every text that was put around a root cause is shown, unless the root is an error of a file
operation or of an expansion that met a limit. Such an error has details of its own, which take the
place of the texts, and what is reported is the root alone. -/
theorem display_tells_contexts (failure : Failure)
    (hcontexts : ∀ c ∈ failure.contexts, ∃ text, c = .text text) :
    (¬ HasOwnDetails failure.root → ∀ text, .text text ∈ failure.contexts →
      text.toList <:+: failure.report.display.toList) ∧
    (HasOwnDetails failure.root → failure.report = (Failure.of failure.root).report) := by
  refine ⟨fun hplain text hmem => ?_, report_of_hasOwnDetails hcontexts⟩
  have htext : text ∈ failure.texts :=
    List.mem_append_left _ (List.mem_map.mpr ⟨.text text, hmem, rfl⟩)
  exact (infix_chain htext).trans (infix_display_of_context hcontexts hplain hmem)

/-- A document that could not be read from its copy, in a command that says what it was doing. -/
def deniedCopy : Failure :=
  (Failure.ofError (.fileSystem "read file" "cache/version_manifest.json" (.os 13))).explain
    "Failed to load the version manifest"

/-- A context without an instance, in the same command. -/
def missingInstance : Failure :=
  (Failure.ofError .notInitialized).explain "Failed to load the version manifest"

/-- What the command was doing is shown for the one, and not for the other. -/
theorem display_missingInstance :
    (∀ c ∈ missingInstance.contexts, ∃ text, c = .text text) ∧
      ¬ HasOwnDetails missingInstance.root ∧
      "Failed to load the version manifest".toList <:+: missingInstance.report.display.toList ∧
      (∀ c ∈ deniedCopy.contexts, ∃ text, c = .text text) ∧ HasOwnDetails deniedCopy.root ∧
      deniedCopy.report = (Failure.of deniedCopy.root).report := by
  have hmissing : ∀ c ∈ missingInstance.contexts, ∃ text, c = .text text :=
    (onlyTexts_of _).explain _
  have hdenied : ∀ c ∈ deniedCopy.contexts, ∃ text, c = .text text :=
    (onlyTexts_of _).explain _
  have hplain : ¬ HasOwnDetails missingInstance.root := nofun
  have hown : HasOwnDetails deniedCopy.root := trivial
  exact ⟨hmissing, hplain,
    (display_tells_contexts missingInstance hmissing).1 hplain _ (List.mem_singleton_self _),
    hdenied, hown, (display_tells_contexts deniedCopy hdenied).2 hown⟩

/-- Details of its own hide what a command says around an error. -/
theorem not_tellsContexts :
    ¬ ∀ failure : Failure, (∀ c ∈ failure.contexts, ∃ text, c = .text text) →
      ∀ text, .text text ∈ failure.contexts → text.toList <:+: failure.report.display.toList := by
  intro h
  have hcontexts : ∀ c ∈ deniedCopy.contexts, ∃ text, c = .text text :=
    (onlyTexts_of _).explain _
  have hshown := h deniedCopy hcontexts _ (List.mem_singleton_self _)
  exact absurd hshown (by decide +kernel)

end ModBuild.Proofs.Error
