import ModBuild.Json.Reader
import ModBuild.Proofs.Documents.Fetch

/-!
# `ModBuild.Proofs.Documents.Offline`: what a document is when the network fails

A text is kept before anyone has looked into it. So the copy of a document that could be read once
is there whenever the network fails, but it need not be a document any more. This module is about
runs of loads at one path, between which nobody else touches the copy.

* `copy_run` and `copy_after`: once there is a copy, it is the last text that was kept.
* `load_of_last_kept`: a load without an answer reads the last text that was kept since a load that
  succeeded, or gives the document of that load again.
* `not_usableOffline`: an answer that is no document takes the copy away from later loads.
-/

set_option autoImplicit false

namespace ModBuild.Proofs.Documents

open ModBuild ModBuild.Proofs.Files

variable {α : Type} {read : String → Except String α}

namespace Call

/-- Loads at the site that the call finds. -/
def load (read : String → Except String α) (call : Call) (site : Site) :
    Site × Except BuildError (Document α) :=
  (call.found site).load read call.url call.path

/-- A call at a path, which leads to the same file with the same content as the call before left. -/
def At (path : String) (call : Call) (site : Site) : Prop :=
  call.path = path ∧ fileAt? (call.found site).files (call.found site).cwd path =
    fileAt? site.files site.cwd path

/-- To serve a page leaves the copy alone. -/
theorem at_ofPage (body? : Option String) (path : String) (site : Site) :
    (ofPage body? path).At path site := ⟨rfl, rfl⟩

/-- What a text is read as. -/
def readFrom (read : String → Except String α) (call : Call) (body : String) (origin : Origin) :
    Except BuildError (Document α) :=
  match read body with
  | .ok value => .ok ⟨value, call.path, origin⟩
  | .error reason => .error (.invalidDocument (Site.reported call.url call.path origin) reason)

/-- To read a text does nothing to the site. -/
theorem load_fst (read : String → Except String α) (call : Call) (site : Site) :
    (call.load read site).1 = (call.run site).1 := by
  unfold load run Site.load
  split
  · rename_i hfetch
    rw [hfetch]
  · rename_i hfetch
    rw [hfetch]
    split <;> rfl

/-- A load gives what is read from the text that its fetch gives. -/
theorem load_snd (read : String → Except String α) (call : Call) (site : Site) :
    (call.load read site).2 = (call.run site).2.bind fun got => call.readFrom read got.1 got.2 := by
  unfold load run Site.load readFrom
  split
  · rename_i hfetch
    rw [hfetch]
    rfl
  · rename_i left body origin hfetch
    rw [hfetch]
    simp only [Except.bind]
    cases read body <;> rfl

/-- A document is read from a text that the fetch gives. -/
theorem run_of_load {call : Call} {site : Site} {document : Document α}
    (h : (call.load read site).2 = .ok document) :
    ∃ body, (call.run site).2 = .ok (body, document.origin) ∧ read body = .ok document.value := by
  rw [load_snd] at h
  cases hrun : (call.run site).2 with
  | error e =>
    rw [hrun] at h
    cases h
  | ok got =>
    obtain ⟨body, origin⟩ := got
    rw [hrun] at h
    simp only [Except.bind, readFrom] at h
    split at h
    · rename_i value hread
      cases h
      exact ⟨body, rfl, hread⟩
    · cases h

end Call

/-! ### The copy in a run -/

/-- Whatever a fetch gives, the path leads to it afterwards. -/
theorem copy_of_run {call : Call} {site : Site} {body : String} {origin : Origin}
    (h : (call.run site).2 = .ok (body, origin)) :
    ∃ place, fileAt? (call.run site).1.files (call.run site).1.cwd call.path =
      some (place, body.toUTF8) := by
  rw [Call.run_cwd]
  cases hanswer : ((call.found site).network.ask call.url).2 with
  | ok text =>
    rcases fetch_answered_cases hanswer call.path with
      ⟨place, -, hresult, hat, -⟩ | ⟨e, -, hresult, -⟩
    · cases h.symm.trans hresult
      exact ⟨place, hat⟩
    · cases h.symm.trans hresult
  | error e =>
    -- The fetch gave the copy itself, which was there before and still is.
    have hfiles : (call.run site).1.files = (call.found site).files :=
      fetch_unanswered_files hanswer
    rw [hfiles]
    cases hfile : fileAt? (call.found site).files (call.found site).cwd call.path with
    | none => cases h.symm.trans (fetch_unanswered_of_noFile hanswer hfile)
    | some copy =>
      have hsame := h.symm.trans (fetch_unanswered_of_file hanswer hfile)
      rw [toUTF8_of_ofCopy hsame.symm]
      exact ⟨copy.1, rfl⟩

/-- Once there is a copy, a call leaves the text that it kept, or the copy as it was. -/
theorem copy_run {path text : String} {place : Place} {call : Call} {site : Site}
    (h : call.At path site) (hcopy : fileAt? site.files site.cwd path = some (place, text.toUTF8)) :
    ∃ place, fileAt? (call.run site).1.files (call.run site).1.cwd path =
      some (place, ((call.kept? site).getD text).toUTF8) := by
  obtain ⟨rfl, hfound⟩ := h
  rcases call.kept?_cases site with ⟨body, target, hkept, hat, -⟩ | ⟨hkept, hgrown⟩
  · rw [hkept]
    exact ⟨target, hat⟩
  · rw [hkept, Call.run_cwd]
    exact ⟨place, hgrown.fileAt? (hfound.trans hcopy)⟩

/-- Once there is a copy, a run leaves the last text that it kept, or the copy as it was. -/
theorem copy_after {path text : String} {place : Place} {site : Site} {calls : List Call}
    (h : Throughout (Call.At path) site calls)
    (hcopy : fileAt? site.files site.cwd path = some (place, text.toUTF8)) :
    ∃ place, fileAt? (after site calls).files (after site calls).cwd path =
      some (place, ((last? Call.kept? site calls).getD text).toUTF8) := by
  induction calls generalizing site place text with
  | nil => exact ⟨place, hcopy⟩
  | cons call rest ih =>
    obtain ⟨hcall, hrest⟩ := h
    obtain ⟨next, hnext⟩ := copy_run hcall hcopy
    have hgetD : (last? Call.kept? site (call :: rest)).getD text =
        (last? Call.kept? (call.run site).1 rest).getD ((call.kept? site).getD text) := by
      simp [last?, Option.getD_or]
    rw [hgetD]
    exact ih hrest hnext

/-! ### Loads without an answer -/

/-- Once a load has succeeded, a load without an answer reads the last text that was kept since. If
none was kept, it gives the same document again, from the disk. -/
theorem load_of_last_kept (read : String → Except String α) (site : Site) (good call : Call)
    (between : List Call) (document : Document α) (e : BuildError)
    (hgood : (good.load read site).2 = .ok document)
    (hat : Throughout (Call.At good.path) (good.load read site).1 (between ++ [call]))
    (hanswer : ((call.found (after (good.load read site).1 between)).network.ask call.url).2 =
      .error e) :
    (call.load read (after (good.load read site).1 between)).2 =
      match last? Call.kept? (good.load read site).1 between with
      | none => .ok ⟨document.value, good.path, .disk⟩
      | some body =>
        match read body with
        | .ok value => .ok ⟨value, good.path, .disk⟩
        | .error reason => .error (.invalidDocument good.path reason) := by
  rw [Call.load_fst] at *
  obtain ⟨text, hrun, hread⟩ := Call.run_of_load hgood
  obtain ⟨place, hcopy⟩ := copy_of_run hrun
  obtain ⟨hbetween, ⟨hpath, hfound⟩, -⟩ := throughout_append.mp hat
  obtain ⟨last, hlast⟩ := copy_after hbetween hcopy
  -- The load finds the copy as the run left it, and reads it.
  have hresult : (call.run (after (good.run site).1 between)).2 =
      .ok ((last? Call.kept? (good.run site).1 between).getD text, .disk) := by
    rw [← hpath] at hfound hlast
    rw [Call.run, fetch_unanswered_of_file hanswer (hfound.trans hlast), ofCopy_toUTF8]
  rw [Call.load_snd, hresult]
  simp only [Except.bind, Call.readFrom, Site.reported, hpath]
  cases last? Call.kept? (good.run site).1 between with
  | none => simp only [Option.getD_none, hread]
  | some body => simp only [Option.getD_some]

/-- A site without files. -/
def noCopy : Site :=
  ⟨FileTree.empty, [], .ofPages [] false⟩

/-- The page "1" is loaded from the network. -/
theorem load_one :
    ((Call.ofPage (some "1") "doc.json").load Json.Value.ofText noCopy).2 =
      .ok ⟨.number (.natural 1), "doc.json", .network⟩ := by
  have hkept : (Call.ofPage (some "1") "doc.json").kept? noCopy = some "1" := by decide +kernel
  have hread : Json.Value.ofText "1" = .ok (.number (.natural 1)) := by rfl
  rw [Call.load_snd, Call.run_of_kept? hkept, Except.bind, Call.readFrom, hread]
  rfl

/-- After a page that is no document, the next one that is one can be loaded again. -/
theorem load_second_copy :
    ((Call.ofPage none "doc.json").load Json.Value.ofText
        (after ((Call.ofPage (some "1") "doc.json").load Json.Value.ofText noCopy).1
          [.ofPage (some "<html>") "doc.json", .ofPage (some "2") "doc.json"])).2 =
      .ok ⟨.number (.natural 2), "doc.json", .disk⟩ := by
  have hlast : last? Call.kept?
      ((Call.ofPage (some "1") "doc.json").load Json.Value.ofText noCopy).1
      [.ofPage (some "<html>") "doc.json", .ofPage (some "2") "doc.json"] = some "2" := by
    decide +kernel
  have hread : Json.Value.ofText "2" = .ok (.number (.natural 2)) := by rfl
  rw [load_of_last_kept Json.Value.ofText noCopy (.ofPage (some "1") "doc.json")
    (.ofPage none "doc.json") [.ofPage (some "<html>") "doc.json", .ofPage (some "2") "doc.json"]
    _ _ load_one ⟨Call.at_ofPage _ _ _, Call.at_ofPage _ _ _, Call.at_ofPage _ _ _, trivial⟩
    (Call.ask_ofPage_none _ _), hlast]
  simp only [hread]
  rfl

/-- A document that was loaded once can be loaded whenever the network fails. -/
def UsableOffline (read : String → Except String α) : Prop :=
  ∀ (site : Site) (good call : Call) (between : List Call) (document : Document α)
    (e : BuildError),
    (good.load read site).2 = .ok document →
    Throughout (Call.At good.path) (good.load read site).1 (between ++ [call]) →
    ((call.found (after (good.load read site).1 between)).network.ask call.url).2 = .error e →
    ∃ later, (call.load read (after (good.load read site).1 between)).2 = .ok later ∧
      later.origin = .disk

/-- One page that is no document takes the copy away. -/
theorem not_usableOffline : ¬ UsableOffline Json.Value.ofText := by
  intro husable
  obtain ⟨later, hlater, -⟩ := husable noCopy (.ofPage (some "1") "doc.json")
    (.ofPage none "doc.json") [.ofPage (some "<html>") "doc.json"] _ _ load_one
    ⟨Call.at_ofPage _ _ _, Call.at_ofPage _ _ _, trivial⟩ (Call.ask_ofPage_none _ _)
  have hfails : (((Call.ofPage none "doc.json").load Json.Value.ofText
      (after ((Call.ofPage (some "1") "doc.json").load Json.Value.ofText noCopy).1
        [.ofPage (some "<html>") "doc.json"])).2).toOption.isSome = false := by decide +kernel
  rw [hlater] at hfails
  cases hfails

end ModBuild.Proofs.Documents
