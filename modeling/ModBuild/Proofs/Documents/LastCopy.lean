import ModBuild.Proofs.Documents.Fetch

/-!
# `ModBuild.Proofs.Documents.LastCopy`: the copy is the last text received

A run of fetches works on many copies, and several paths can lead to one of them. This module
follows one place through a run in which only the fetches write there.

* `written_run`: one call leaves the text that it stored at the place, or what file was there.
* `written_after`: a run leaves the last text that one of its calls stored there, or what file was
  there at the start.
* `fetch_keeps_last_copy`: what each call of a run gives and does to the files, in every pattern of
  failures of the network and of the file system.
-/

set_option autoImplicit false

namespace ModBuild.Proofs.Documents

open ModBuild ModBuild.Proofs.Files

namespace Call

/-- The text of which a call kept a copy at a place. -/
def storedAt? (place : Place) (call : Call) (site : Site) : Option String :=
  let left := (call.run site).1
  if (fileAt? left.files left.cwd call.path).map (·.1) = some place then call.kept? site else none

/-- What happens before a call leaves a place alone. -/
def Spares (place : Place) (call : Call) (site : Site) : Prop :=
  (call.found site).files.entry? place = site.files.entry? place

/-- To serve a page is nothing to the files. -/
theorem spares_ofPage (place : Place) (body? : Option String) (path : String) (site : Site) :
    (ofPage body? path).Spares place site := rfl

/-- A full disk has the files that it had. -/
theorem Spares.onFullDisk {place : Place} {call : Call} {site : Site}
    (h : call.Spares place site) : call.onFullDisk.Spares place site := h

end Call

/-! ### One place -/

/-- At a place stands the text that was stored there, or otherwise the file that was there. -/
def Written (place : Place) (stored? : Option String) (tree tree' : FileTree) : Prop :=
  match stored? with
  | some text => tree'.entry? place = some (.file text.toUTF8)
  | none => ∀ content,
      tree'.entry? place = some (.file content) ↔ tree.entry? place = some (.file content)

/-- What was stored last is what stands there after two parts of a run. -/
theorem Written.trans {place : Place} {first? second? : Option String}
    {tree tree' tree'' : FileTree} (h : Written place first? tree tree')
    (h' : Written place second? tree' tree'') :
    Written place (second?.or first?) tree tree'' := by
  cases second? with
  | some text => exact h'
  | none =>
    cases first? with
    | some text => exact (h' _).mpr h
    | none => exact fun content => (h' content).trans (h content)

/-- What happens elsewhere in front of a run does not matter for a place. -/
theorem Written.of_entry?_eq {place : Place} {stored? : Option String} {tree tree' left : FileTree}
    (hsame : tree'.entry? place = tree.entry? place) (h : Written place stored? tree' left) :
    Written place stored? tree left := by
  have hspared : Written place none tree tree' := fun content => by rw [hsame]
  simpa using hspared.trans h

/-- One call leaves at a place what it stored there, or the file that was there. -/
theorem written_run {place : Place} {call : Call} {site : Site} (h : call.Spares place site) :
    Written place (call.storedAt? place site) site.files (call.run site).1.files := by
  refine Written.of_entry?_eq h ?_
  rcases call.kept?_cases site with ⟨body, target, hkept, hat, hgrown⟩ | ⟨hkept, hgrown⟩
  · by_cases htarget : target = place
    · subst htarget
      have hstored : call.storedAt? target site = some body := by simp [Call.storedAt?, hat, hkept]
      rw [hstored]
      exact entry?_of_fileAt? hat
    · -- The text went elsewhere. Here at most a directory was made.
      have hstored : call.storedAt? place site = none := by simp [Call.storedAt?, hat, htarget]
      rw [hstored]
      exact (hgrown place (Ne.symm htarget)).file_iff
  · have hstored : call.storedAt? place site = none := by simp [Call.storedAt?, hkept]
    rw [hstored]
    exact (hgrown place).file_iff

/-! ### Whole runs -/

/-- A run leaves at a place what one of its calls stored there last, or the file that was there. -/
theorem written_after {place : Place} {site : Site} {calls : List Call}
    (h : Throughout (Call.Spares place) site calls) :
    Written place (last? (Call.storedAt? place) site calls) site.files
      (after site calls).files := by
  induction calls generalizing site with
  | nil => exact fun content => Iff.rfl
  | cons call rest ih =>
    obtain ⟨hcall, hrest⟩ := h
    exact (written_run hcall).trans (ih hrest)

/-- What a call gives and does after any run of calls, on disks that stop any writes. Without an
answer from the network no file changes, and the result is the last text that was stored in the
copy, or the file that was there before the run, as long as only the calls wrote there. Without such
a file it is the failure of the network. With an answer it is the answer if the copy can be written,
and then the path leads to the answer and no other file is touched. If the copy cannot be written,
an error of the file system is reported and no file is touched. -/
theorem fetch_keeps_last_copy (start : Site) (before : List Call) (call : Call) (site left : Site)
    (result : Except BuildError (String × Origin))
    (hsite : call.found (after start before) = site)
    (hrun : call.run (after start before) = (left, result)) :
    (∀ e, (site.network.ask call.url).2 = .error e →
      left.files = site.files ∧
      (∀ place content, fileAt? site.files site.cwd call.path = some (place, content) →
        Throughout (Call.Spares place) start (before ++ [call]) →
        match last? (Call.storedAt? place) start before with
        | some body => content = body.toUTF8 ∧ result = .ok (body, .disk)
        | none => start.files.entry? place = some (.file content) ∧
            result = ofCopy call.path content) ∧
      (fileAt? site.files site.cwd call.path = none → result = .error e)) ∧
    ∀ body, (site.network.ask call.url).2 = .ok body →
      (∃ place, (site.disk.replaceFile site.cwd call.path body.toUTF8).2 = .ok () ∧
        result = .ok (body, .network) ∧
        fileAt? left.files left.cwd call.path = some (place, body.toUTF8) ∧
        ∀ p ≠ place, GrownAt site.files left.files p) ∨
      ∃ e, (site.disk.replaceFile site.cwd call.path body.toUTF8).2 = .error e ∧
        result = .error e ∧ IsFileError e ∧ Grown site.files left.files := by
  subst hsite
  obtain ⟨rfl, rfl⟩ : left = (call.run (after start before)).1 ∧
      result = (call.run (after start before)).2 := by rw [hrun]; exact ⟨rfl, rfl⟩
  constructor
  · intro e hanswer
    refine ⟨fetch_unanswered_files hanswer, ?_, fetch_unanswered_of_noFile hanswer⟩
    intro place content hfile hspared
    have hresult : (call.run (after start before)).2 = ofCopy call.path content :=
      fetch_unanswered_of_file hanswer hfile
    obtain ⟨hbefore, hcall, -⟩ := throughout_append.mp hspared
    -- What the call finds in the copy is what the run before it left there.
    have hentry : (after start before).files.entry? place = some (.file content) := by
      rw [← hcall]
      exact entry?_of_fileAt? hfile
    have hwritten := written_after hbefore
    cases hlast : last? (Call.storedAt? place) start before with
    | none =>
      rw [hlast] at hwritten
      exact ⟨(hwritten content).mp hentry, hresult⟩
    | some body =>
      rw [hlast] at hwritten
      have hcontent : content = body.toUTF8 := by
        have hsame := hentry.symm.trans hwritten
        simpa using hsame
      refine ⟨hcontent, ?_⟩
      rw [hresult, hcontent, ofCopy_toUTF8]
  · intro body hanswer
    rw [Call.run_cwd]
    exact fetch_answered_cases hanswer call.path

/-- A site with an old copy of a document. -/
def oldCopy : Site :=
  ⟨FileTree.mk [(["doc.json"], .file "old".toUTF8)], [], .ofPages [] false⟩

/-- One answer takes the place of the old copy. The next finds the disk full: it is an error, which
touches no file. So without an answer the first one is had, also for another path to the copy. -/
theorem fetch_oldCopy :
    let before := [Call.ofPage (some "new") "doc.json"]
    let full := (Call.ofPage (some "newest") "doc.json").onFullDisk
    let last := Call.ofPage none "./doc.json"
    ((full.run (after oldCopy before)).2 =
        .error (.fileSystem "write temp file" "./.tmp0" (.os 28)) ∧
      Grown (after oldCopy before).files (full.run (after oldCopy before)).1.files) ∧
    (last.run (after oldCopy (before ++ [full]))).2 = .ok ("new", .disk) := by
  intro before full last
  constructor
  · -- The write fails, so of what may become of an answer only the second is left.
    have hfails : (full.run (after oldCopy before)).2 =
        .error (.fileSystem "write temp file" "./.tmp0" (.os 28)) := by decide +kernel
    have hfetch := fetch_keeps_last_copy oldCopy before full _ _ _ rfl (Prod.eta _).symm
    rcases hfetch.2 "newest" (Call.ask_ofPage_some _ "doc.json" (after oldCopy before)) with
      ⟨place, -, hresult, -⟩ | ⟨e, -, -, -, hgrown⟩
    · rw [hfails] at hresult
      cases hresult
    · exact ⟨hfails, hgrown⟩
  · have hfetch := fetch_keeps_last_copy oldCopy (before ++ [full]) last _ _ _ rfl
      (Prod.eta _).symm
    obtain ⟨-, hcopy, -⟩ := hfetch.1 _ (Call.ask_ofPage_none _ _)
    have hfile : fileAt? (last.found (after oldCopy (before ++ [full]))).files
        (last.found (after oldCopy (before ++ [full]))).cwd last.path =
        some (["doc.json"], "new".toUTF8) := by decide +kernel
    have hlast : last? (Call.storedAt? ["doc.json"]) oldCopy (before ++ [full]) = some "new" := by
      decide +kernel
    -- No call writes anything to the place but the copy.
    have hspared : Throughout (Call.Spares ["doc.json"]) oldCopy (before ++ [full] ++ [last]) :=
      ⟨Call.spares_ofPage _ _ _ _, (Call.spares_ofPage _ _ _ _).onFullDisk,
        Call.spares_ofPage _ _ _ _, trivial⟩
    have hresult := hcopy ["doc.json"] "new".toUTF8 hfile hspared
    rw [hlast] at hresult
    exact hresult.2

end ModBuild.Proofs.Documents
