import ModBuild.Documents.Copy
import ModBuild.Proofs.Files.Replace

/-!
# `ModBuild.Proofs.Documents.Fetch`: what a fetch leads to

A fetch asks the network once. With an answer it replaces the copy, and without one it reads the
copy. The first section is about one fetch:

* `fetch_answered_cases`: with an answer the path leads to the text afterwards, or an error of the
  file system is reported. The copy that was there is never the result.
* `fetch_unanswered_files`, `fetch_unanswered_of_file` and `fetch_unanswered_of_noFile`: without an
  answer no file changes, and the copy is the result if there is one.
* `fetch_network` and `load_network`: the network is asked once.

The second section has the vocabulary for fetches one after the other. A `Call` is a fetch together
with all that happens to the site before it, so a list of calls is a run in which the network comes
and goes and other programs do their work. `last?` looks back in a run, and `Throughout` says what
all calls of a run have in common. `Call.kept?_cases` is what one call does to the files.
-/

set_option autoImplicit false

namespace ModBuild.Proofs.Documents

open ModBuild ModBuild.Proofs.Files

/-! ### One fetch -/

section One

variable {site : Site} {url path : String}

/-- What the copy is read as when the network fails. -/
def ofCopy (path : String) (content : ByteArray) : Except BuildError (String × Origin) :=
  match String.fromUTF8? content with
  | some text => .ok (text, .disk)
  | none => .error (.fileSystem "read file" path .notUtf8)

/-- A copy that holds a text is read as that text. -/
theorem ofCopy_toUTF8 (path text : String) : ofCopy path text.toUTF8 = .ok (text, .disk) := by
  rw [ofCopy, fromUTF8?_toUTF8]

/-- A text that was read from a copy is all that the copy holds. -/
theorem toUTF8_of_ofCopy {path text : String} {content : ByteArray} {origin : Origin}
    (h : ofCopy path content = .ok (text, origin)) : text.toUTF8 = content := by
  unfold ofCopy at h
  split at h
  · rename_i found hfound
    cases h
    unfold String.fromUTF8? at hfound
    split at hfound
    · cases hfound
      rfl
    · cases hfound
  · cases h

/-- A fetch leaves the working directory. -/
theorem fetch_cwd (site : Site) (url path : String) : (site.fetch url path).1.cwd = site.cwd := by
  unfold Site.fetch
  split
  · split <;> rfl
  · simp only
    split
    · split <;> rfl
    · rfl

/-- A fetch asks the network once. -/
theorem fetch_network (site : Site) (url path : String) :
    (site.fetch url path).1.network = (site.network.ask url).1 := by
  unfold Site.fetch
  split
  · rename_i hask
    rw [hask]
    split <;> rfl
  · rename_i hask
    rw [hask]
    simp only
    split
    · split <;> rfl
    · rfl

/-- A fetch without an answer, told by the copy. -/
theorem fetch_unanswered {e : BuildError} (h : (site.network.ask url).2 = .error e)
    (path : String) :
    site.fetch url path = ({ site with network := (site.network.ask url).1 },
      if site.files.isFile site.cwd path then
        (site.files.readText site.cwd path).map fun body => (body, .disk)
      else .error e) := by
  have hask : site.network.ask url = ((site.network.ask url).1, .error e) := Prod.ext rfl h
  unfold Site.fetch
  rw [hask]
  simp only [Site.files]
  cases site.disk.files.isFile site.cwd path with
  | false => rfl
  | true => cases site.disk.files.readText site.cwd path <;> rfl

/-- Without an answer no file changes. -/
theorem fetch_unanswered_files {e : BuildError} (h : (site.network.ask url).2 = .error e) :
    (site.fetch url path).1.files = site.files := by
  rw [fetch_unanswered h]

/-- Without an answer the copy is the result. -/
theorem fetch_unanswered_of_file {e : BuildError} {place : Place} {content : ByteArray}
    (h : (site.network.ask url).2 = .error e)
    (hfile : fileAt? site.files site.cwd path = some (place, content)) :
    (site.fetch url path).2 = ofCopy path content := by
  rw [fetch_unanswered h, isFile_of_fileAt? hfile, if_pos rfl]
  unfold FileTree.readText FileTree.readText? ofCopy
  rw [read_of_fileAt? hfile]
  cases hread : String.fromUTF8? content <;> simp [hread, Except.map]

/-- Without an answer and without a copy the failure stands. -/
theorem fetch_unanswered_of_noFile {e : BuildError} (h : (site.network.ask url).2 = .error e)
    (hfile : fileAt? site.files site.cwd path = none) :
    (site.fetch url path).2 = .error e := by
  rw [fetch_unanswered h, isFile_of_fileAt?_none hfile]
  rfl

/-- A fetch with an answer writes it to the copy, and fails if that does. -/
theorem fetch_answered {body : String} (h : (site.network.ask url).2 = .ok body)
    (path : String) :
    site.fetch url path =
      let written := site.disk.replaceFile site.cwd path body.toUTF8
      ({ site with disk := written.1, network := (site.network.ask url).1 },
        written.2.map fun _ => (body, .network)) := by
  have hask : site.network.ask url = ((site.network.ask url).1, .ok body) := Prod.ext rfl h
  unfold Site.fetch
  rw [hask]
  simp only
  split
  · rename_i hwritten
    rw [hwritten]
    rfl
  · rename_i hwritten
    rw [hwritten]
    rfl

/-- With an answer the path leads to the text afterwards, or the copy cannot be written and an error
of the file system is reported. No other file is touched in either case. -/
theorem fetch_answered_cases {body : String} (h : (site.network.ask url).2 = .ok body)
    (path : String) :
    (∃ place, (site.disk.replaceFile site.cwd path body.toUTF8).2 = .ok () ∧
      (site.fetch url path).2 = .ok (body, .network) ∧
      fileAt? (site.fetch url path).1.files site.cwd path = some (place, body.toUTF8) ∧
      ∀ p ≠ place, GrownAt site.files (site.fetch url path).1.files p) ∨
    ∃ e, (site.disk.replaceFile site.cwd path body.toUTF8).2 = .error e ∧
      (site.fetch url path).2 = .error e ∧ IsFileError e ∧
      Grown site.files (site.fetch url path).1.files := by
  rw [fetch_answered h path]
  rcases replaceFile_cases site.disk site.cwd path body.toUTF8 with
    ⟨tree, place, hreplace, hat, hgrown⟩ | ⟨tree, e, hreplace, he, hgrown⟩
  · rw [hreplace]
    exact .inl ⟨place, rfl, rfl, hat, hgrown⟩
  · rw [hreplace]
    exact .inr ⟨e, rfl, rfl, he, hgrown⟩

/-- A load leaves the site as its fetch does. -/
theorem load_site {α : Type} (read : String → Except String α) (site : Site) (url path : String) :
    (site.load read url path).1 = (site.fetch url path).1 := by
  unfold Site.load
  split
  · rename_i hfetch
    rw [hfetch]
  · rename_i hfetch
    rw [hfetch]
    split <;> rfl

/-- A load asks the network once. -/
theorem load_network {α : Type} (read : String → Except String α) (site : Site)
    (url path : String) :
    (site.load read url path).1.network = (site.network.ask url).1 := by
  rw [load_site, fetch_network]

/-- A document that is loaded has the path of its copy. -/
theorem path_of_load {α : Type} {read : String → Except String α} {left : Site}
    {document : Document α} (h : site.load read url path = (left, .ok document)) :
    document.path = path := by
  unfold Site.load at h
  split at h
  · cases h
  · split at h <;> cases h
    rfl

end One

/-! ### Fetches one after the other -/

/-- A fetch, and what happens to the site before it: the network comes and goes, and other programs
work with the files. -/
structure Call where
  change : Site → Site
  url : String
  path : String

namespace Call

/-- The site that a call finds. -/
def found (call : Call) (site : Site) : Site :=
  call.change site

/-- Fetches at the site that the call finds. -/
def run (call : Call) (site : Site) : Site × Except BuildError (String × Origin) :=
  (call.found site).fetch call.url call.path

/-- The text that a call got from the network and kept a copy of. -/
def kept? (call : Call) (site : Site) : Option String :=
  match (call.run site).2 with
  | .ok (body, .network) => some body
  | _ => none

/-- A text that is kept is the result of its call. -/
theorem run_of_kept? {call : Call} {site : Site} {body : String}
    (h : call.kept? site = some body) : (call.run site).2 = .ok (body, .network) := by
  unfold kept? at h
  split at h
  · rename_i text hrun
    cases h
    exact hrun
  · cases h

/-- A call leaves the working directory as it found it. -/
theorem run_cwd (call : Call) (site : Site) : (call.run site).1.cwd = (call.found site).cwd :=
  fetch_cwd _ _ _

/-- A call without an answer keeps nothing: what it gives comes from the disk. -/
theorem kept?_of_unanswered {call : Call} {site : Site} {e : BuildError}
    (h : ((call.found site).network.ask call.url).2 = .error e) : call.kept? site = none := by
  unfold kept? run
  cases hfile : fileAt? (call.found site).files (call.found site).cwd call.path with
  | none => rw [fetch_unanswered_of_noFile h hfile]
  | some copy =>
    rw [fetch_unanswered_of_file h hfile, ofCopy]
    cases String.fromUTF8? copy.2 <;> rfl

/-- A call keeps a text where its path leads and touches nothing else, or it touches nothing. -/
theorem kept?_cases (call : Call) (site : Site) :
    (∃ body place, call.kept? site = some body ∧
      fileAt? (call.run site).1.files (call.run site).1.cwd call.path =
        some (place, body.toUTF8) ∧
      ∀ p ≠ place, GrownAt (call.found site).files (call.run site).1.files p) ∨
    call.kept? site = none ∧ Grown (call.found site).files (call.run site).1.files := by
  cases hanswer : ((call.found site).network.ask call.url).2 with
  | error e =>
    have hfiles : (call.run site).1.files = (call.found site).files :=
      fetch_unanswered_files hanswer
    exact .inr ⟨kept?_of_unanswered hanswer, hfiles ▸ Grown.refl _⟩
  | ok body =>
    rcases fetch_answered_cases hanswer call.path with
      ⟨place, -, hresult, hat, hgrown⟩ | ⟨e, -, hresult, -, hgrown⟩
    · have hkept : call.kept? site = some body := by rw [kept?, run, hresult]
      exact .inl ⟨body, place, hkept, by rw [run_cwd]; exact hat, hgrown⟩
    · have hkept : call.kept? site = none := by rw [kept?, run, hresult]
      exact .inr ⟨hkept, hgrown⟩

/-- A call on a sound disk, for a page that the network serves with a text or does not serve. -/
def ofPage (body? : Option String) (path : String) : Call :=
  ⟨fun site => ⟨site.files, site.cwd, .ofPages (body?.toList.map ("http://d/x", ·)) body?.isSome⟩,
    "http://d/x", path⟩

/-- A page that is served is the answer. -/
theorem ask_ofPage_some (body path : String) (site : Site) :
    (((ofPage (some body) path).found site).network.ask "http://d/x").2 = .ok body := by
  simp [Network.ask, Call.found, ofPage, Network.ofPages, Network.answerOfPages]

/-- A page that is not served is an error. -/
theorem ask_ofPage_none (path : String) (site : Site) :
    (((ofPage none path).found site).network.ask "http://d/x").2 =
      .error (.network "http://d/x" "network unavailable") := rfl

/-- A call that finds the disk full. -/
def onFullDisk (call : Call) : Call :=
  { call with change := fun site => { call.found site with disk.stops := fun _ => noSpace } }

end Call

/-- The site after some calls. -/
def after (site : Site) : List Call → Site
  | [] => site
  | call :: rest => after (call.run site).1 rest

/-- What the last of some calls gave that gave anything. -/
def last? (given? : Call → Site → Option String) (site : Site) : List Call → Option String
  | [] => none
  | call :: rest => (last? given? (call.run site).1 rest).or (given? call site)

/-- Every call of a run meets a condition at the site where it is made. -/
def Throughout (condition : Call → Site → Prop) (site : Site) : List Call → Prop
  | [] => True
  | call :: rest => condition call site ∧ Throughout condition (call.run site).1 rest

/-- All calls of a run meet a condition if those of its first part do, and then those of the rest
from there. -/
theorem throughout_append {condition : Call → Site → Prop} {site : Site} {calls rest : List Call} :
    Throughout condition site (calls ++ rest) ↔
      Throughout condition site calls ∧ Throughout condition (after site calls) rest := by
  induction calls generalizing site with
  | nil => simp [Throughout, after]
  | cons call calls ih => simp only [List.cons_append, Throughout, after, ih, and_assoc]

end ModBuild.Proofs.Documents
