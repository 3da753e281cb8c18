import ModBuild.Files.Store
import ModBuild.Proofs.Files.Tree

/-!
# `ModBuild.Proofs.Files.Remove`: files that go

To remove files takes entries out of a tree and changes nothing else, and directories stay. So paths
lead where they led, and a path that leads nowhere goes on to do so. The theorems:

* `Thinned` is the relation between a tree and what is left of it. `Thinned.fileAt?_back` and
  `Thinned.missing` say what it keeps.
* `Removes` says whose files are gone. `Removes.fileAt?_apart` and `fileAt?_of_leadTogether` tell
  what becomes of another path: it leads where it led, or nowhere if that was one of these files.
* `removed_of_removeIfThere` and `Removable.exists_removed`: what a removal does at its path, and
  where it succeeds.
-/

set_option autoImplicit false

namespace ModBuild.Proofs.Files

open ModBuild ModBuild.FileTree

variable {tree tree' tree'' : FileTree} {cwd : Place} {path : String}

/-! ### What is left of a tree -/

/-- The second tree is the first without some files. -/
def Thinned (tree tree' : FileTree) : Prop :=
  ∀ p, tree'.entry? p = tree.entry? p ∨
    tree'.entry? p = none ∧ ∃ content, tree.entry? p = some (.file content)

/-- The path leads to nothing, and there is nothing wrong with it otherwise. -/
def Missing (tree : FileTree) (cwd : Place) (path : String) : Prop :=
  ∃ fault, tree.stat cwd path = .error fault ∧ fault.kind = .notFound

/-- The path leads to a file, or to nothing. -/
def Removable (tree : FileTree) (cwd : Place) (path : String) : Prop :=
  tree.isFile cwd path = true ∨ Missing tree cwd path

/-- Nothing is there where a path leads to nothing. -/
theorem Missing.isThere (h : Missing tree cwd path) : tree.isThere cwd path = false := by
  obtain ⟨fault, hstat, -⟩ := h
  simp only [FileTree.isThere, hstat]
  rfl

namespace Thinned

/-- What still stands stood there before. -/
theorem entry?_back (h : Thinned tree tree') {p : Place} {entry : Entry}
    (hentry : tree'.entry? p = some entry) : tree.entry? p = some entry := by
  rcases h p with hsame | ⟨hnone, -⟩
  · rwa [← hsame]
  · rw [hnone] at hentry
    cases hentry

/-- Directories stay. -/
theorem dirsKept (h : Thinned tree tree') : DirsKept tree tree' := by
  intro p hdir
  rcases h p with hsame | ⟨-, content, hfile⟩
  · rwa [hsame]
  · rw [hdir] at hfile
    cases hfile

/-- What is a directory still was one before. -/
theorem dirsKept_back (h : Thinned tree tree') : DirsKept tree' tree :=
  fun _ => h.entry?_back

/-- A path that leads to a file led to it before. -/
theorem fileAt?_back (h : Thinned tree tree') {file : Place × ByteArray}
    (hfile : fileAt? tree' cwd path = some file) : fileAt? tree cwd path = some file := by
  obtain ⟨place, content⟩ := file
  obtain ⟨dir, name, hlocate, hchild, rfl⟩ := fileAt?_eq_some_iff.mp hfile
  obtain ⟨hsize, hentry⟩ := child_eq_ok_iff.mp hchild
  exact fileAt?_eq_some_iff.mpr ⟨dir, name, locate_of_dirsKept h.dirsKept_back hlocate,
    child_eq_ok_iff.mpr ⟨hsize, h.entry?_back hentry⟩, rfl⟩

/-- A path leads to the file that it led to if that still stands. -/
theorem fileAt? (h : Thinned tree tree') {place : Place} {content : ByteArray}
    (hfile : Files.fileAt? tree cwd path = some (place, content))
    (hkept : tree'.entry? place = tree.entry? place) :
    Files.fileAt? tree' cwd path = some (place, content) := by
  obtain ⟨dir, name, hlocate, hchild, rfl⟩ := fileAt?_eq_some_iff.mp hfile
  obtain ⟨hsize, hentry⟩ := child_eq_ok_iff.mp hchild
  exact fileAt?_eq_some_iff.mpr ⟨dir, name, locate_of_dirsKept h.dirsKept hlocate,
    child_eq_ok_iff.mpr ⟨hsize, hkept.trans hentry⟩, rfl⟩

/-- A name that leads to no entry goes on to do so. -/
theorem child (h : Thinned tree tree') {dir : Place} {name : String} {fault : FileFault}
    (hchild : tree.child dir name = .error fault) : tree'.child dir name = .error fault := by
  unfold FileTree.child at hchild ⊢
  split at hchild
  · rename_i hlong
    rw [if_pos hlong]
    exact hchild
  · rename_i hshort
    split at hchild
    · cases hchild
    · rename_i hnone
      rw [if_neg hshort]
      rcases h (dir ++ [name]) with hsame | ⟨hgone, -⟩
      · simpa only [hsame, hnone] using hchild
      · simpa only [hgone] using hchild

/-- A walk that meets nothing meets nothing again. -/
theorem walk (h : Thinned tree tree') {dir : Place} {names : List String} {fault : FileFault}
    (hwalk : tree.walk dir names = .error fault) (hkind : fault.kind = .notFound) :
    tree'.walk dir names = .error fault := by
  fun_induction FileTree.walk tree dir names with
  | case1 | case2 | case3 | case4 => cases hwalk
  | case5 dir rest hrest ih =>
    rw [FileTree.walk]
    · exact ih hwalk
    · exact hrest
  | case6 dir rest hrest ih =>
    rw [FileTree.walk]
    · exact ih hwalk
    · exact hrest
  | case7 dir name rest h1 h2 h3 h4 h5 hchild ih =>
    have hstep : tree'.walk dir (name :: rest) = tree'.walk (dir ++ [name]) rest := by
      rw [FileTree.walk, child_of_dirsKept h.dirsKept hchild] <;> assumption
    rw [hstep]
    exact ih hwalk
  | case8 =>
    -- A file in the way is another fault.
    cases hwalk
    cases hkind
  | case9 dir name rest h1 h2 h3 h4 h5 found hchild =>
    cases hwalk
    rw [FileTree.walk, h.child hchild] <;> assumption

/-- A path with nothing on its way goes on to have nothing there. -/
theorem locate (h : Thinned tree tree') {fault : FileFault}
    (hlocate : tree.locate cwd path = .error fault) (hkind : fault.kind = .notFound) :
    tree'.locate cwd path = .error fault := by
  unfold FileTree.locate at hlocate ⊢
  split at hlocate
  · cases hlocate
    cases hkind
  · split at hlocate
    · rename_i hnul hempty
      rw [if_neg hnul, if_pos hempty]
      exact hlocate
    · split at hlocate
      · cases hlocate
        cases hkind
      · split at hlocate
        · cases hlocate
        · rename_i hnul hempty hlong _ found hwalk
          cases hlocate
          rw [if_neg hnul, if_neg hempty, if_neg hlong, h.walk hwalk hkind]

/-- Where nothing was, nothing is. -/
theorem missing (h : Thinned tree tree') (hmissing : Missing tree cwd path) :
    Missing tree' cwd path := by
  obtain ⟨fault, hstat, hkind⟩ := hmissing
  refine ⟨fault, ?_, hkind⟩
  -- The walk goes the same way, as directories stay, and a name that led nowhere still does.
  unfold stat at hstat ⊢
  split at hstat
  · rename_i target hlocate
    rw [locate_of_dirsKept h.dirsKept hlocate]
    unfold statTarget at hstat ⊢
    split at hstat
    · rename_i name hlast
      split at hstat
      · split at hstat
        · cases hstat
          cases hkind
        · cases hstat
      · rename_i hnofile
        simp only [hlast, h.child hstat]
    · cases hstat
  · rename_i found hlocate
    cases hstat
    rw [h.locate hlocate hkind]

/-- A path that leads to a directory does so still. -/
theorem stat_directory (h : Thinned tree tree') (hstat : tree.stat cwd path = .ok .directory) :
    tree'.stat cwd path = .ok .directory := by
  unfold stat at hstat ⊢
  split at hstat
  · rename_i target hlocate
    simp only [locate_of_dirsKept h.dirsKept hlocate]
    unfold statTarget at hstat ⊢
    cases hlast : target.last with
    | name name =>
      simp only [hlast] at hstat ⊢
      split at hstat
      · split at hstat <;> cases hstat
      · simp only [child_of_dirsKept h.dirsKept hstat]
    | here | above | root => rfl
  · cases hstat

/-- Where nothing is left, there was a file or nothing. -/
theorem isThere_eq_isFile (h : Thinned tree tree') (hmissing : Missing tree' cwd path) :
    tree.isThere cwd path = tree.isFile cwd path := by
  cases hstat : tree.stat cwd path with
  | error fault =>
    simp only [FileTree.isThere, FileTree.isFile, hstat]
    rfl
  | ok entry =>
    cases entry with
    | file content =>
      simp only [FileTree.isThere, FileTree.isFile, hstat]
      rfl
    | directory =>
      obtain ⟨fault, hgone, -⟩ := hmissing
      rw [h.stat_directory hstat] at hgone
      cases hgone

end Thinned

/-! ### Files that are gone -/

/-- The paths lead to one file. -/
def LeadTogether (tree : FileTree) (cwd : Place) (path path' : String) : Prop :=
  ∃ file, fileAt? tree cwd path = some file ∧ fileAt? tree cwd path' = some file

/-- Only files that the paths lead to are gone. -/
def Removes (tree : FileTree) (cwd : Place) (paths : List String) (tree' : FileTree) : Prop :=
  ∀ p, tree'.entry? p = tree.entry? p ∨
    tree'.entry? p = none ∧ ∃ path ∈ paths, ∃ content, fileAt? tree cwd path = some (p, content)

/-- There is a file at the end of a path exactly if the path leads to one. -/
theorem isFile_eq_isSome : tree.isFile cwd path = (fileAt? tree cwd path).isSome := by
  cases hfile : fileAt? tree cwd path with
  | none => exact isFile_of_fileAt?_none hfile
  | some file => exact isFile_of_fileAt? hfile

/-- A path that leads to nothing leads to no file. -/
theorem Missing.isFile (h : Missing tree cwd path) : tree.isFile cwd path = false := by
  obtain ⟨fault, hstat, -⟩ := h
  simp only [FileTree.isFile, hstat]

/-- Paths that lead to files of their own still do. -/
theorem Thinned.pairwise_apart (h : Thinned tree tree') {paths : List String}
    (hapart : paths.Pairwise fun path other => ¬ LeadTogether tree cwd path other) :
    paths.Pairwise fun path other => ¬ LeadTogether tree' cwd path other := by
  refine hapart.imp fun hpair htogether => hpair ?_
  obtain ⟨file, hfile, hfile'⟩ := htogether
  exact ⟨file, h.fileAt?_back hfile, h.fileAt?_back hfile'⟩

namespace Removes

variable {paths : List String}

/-- Where nothing changes, only files of the paths are gone. -/
theorem refl (tree : FileTree) (cwd : Place) (paths : List String) :
    Removes tree cwd paths tree :=
  fun _ => .inl rfl

/-- A tree without the files of some paths is the tree without some files. -/
theorem thinned (h : Removes tree cwd paths tree') : Thinned tree tree' := by
  intro p
  rcases h p with hsame | ⟨hnone, path, -, content, hfile⟩
  · exact .inl hsame
  · exact .inr ⟨hnone, content, entry?_of_fileAt? hfile⟩

/-- Files of one path and then of others are gone, so files of all of them are. -/
theorem cons (h : Removes tree cwd [path] tree') (h' : Removes tree' cwd paths tree'') :
    Removes tree cwd (path :: paths) tree'' := by
  intro p
  rcases h' p with hsame' | ⟨hnone, other, hother, content, hfile⟩
  · rcases h p with hsame | ⟨hnone, other, hother, content, hfile⟩
    · exact .inl (hsame'.trans hsame)
    · rw [List.mem_singleton.mp hother] at hfile
      exact .inr ⟨hsame'.trans hnone, path, List.mem_cons_self, content, hfile⟩
  · exact .inr ⟨hnone, other, List.mem_cons_of_mem _ hother, content,
      h.thinned.fileAt?_back hfile⟩

/-- What leads to another file leads to it still. -/
theorem fileAt?_apart (h : Removes tree cwd paths tree') {other : String}
    (hapart : ∀ path ∈ paths, ¬ LeadTogether tree cwd path other) :
    Files.fileAt? tree' cwd other = Files.fileAt? tree cwd other := by
  cases hfile : Files.fileAt? tree cwd other with
  | none =>
    cases hfile' : Files.fileAt? tree' cwd other with
    | none => rfl
    | some file =>
      rw [h.thinned.fileAt?_back hfile'] at hfile
      cases hfile
  | some file =>
    obtain ⟨place, content⟩ := file
    refine h.thinned.fileAt? hfile ?_
    rcases h place with hsame | ⟨-, path, hmem, content', hpath⟩
    · exact hsame
    · -- The files at one place are one file.
      have hentry := entry?_of_fileAt? hfile
      rw [entry?_of_fileAt? hpath] at hentry
      cases hentry
      exact absurd ⟨_, hpath, hfile⟩ (hapart path hmem)

/-- What could be removed still can be, unless it led to one of the files that are gone. -/
theorem removable_apart (h : Removes tree cwd paths tree') {other : String}
    (hapart : ∀ path ∈ paths, ¬ LeadTogether tree cwd path other)
    (hother : Removable tree cwd other) : Removable tree' cwd other := by
  rcases hother with hfile | hmissing
  · left
    rwa [isFile_eq_isSome, h.fileAt?_apart hapart, ← isFile_eq_isSome]
  · exact .inr (h.thinned.missing hmissing)

end Removes

/-- A file that two paths lead to is gone for both of them. -/
theorem fileAt?_of_leadTogether (h : Thinned tree tree') {other : String}
    (htogether : LeadTogether tree cwd path other) (hmissing : Missing tree' cwd path) :
    fileAt? tree' cwd other = none := by
  cases hleft : fileAt? tree' cwd other with
  | none => rfl
  | some found =>
    -- Otherwise the first path would lead to it still.
    obtain ⟨⟨place, content⟩, hpath, hother⟩ := htogether
    have hback := h.fileAt?_back hleft
    rw [hother] at hback
    cases hback
    have hkept := (entry?_of_fileAt? hleft).trans (entry?_of_fileAt? hpath).symm
    have hstill := isFile_of_fileAt? (h.fileAt? hpath hkept)
    rw [hmissing.isFile] at hstill
    cases hstill

/-! ### One path -/

/-- What it means to have removed the file that a path leads to, if there is one. -/
structure Removed (tree : FileTree) (cwd : Place) (path : String) (tree' : FileTree)
    (was : Bool) : Prop where
  was_eq : was = tree.isFile cwd path
  missing : Missing tree' cwd path
  removes : Removes tree cwd [path] tree'

/-- To remove the file that a path leads to takes away its place. -/
theorem unlink_eq_ok_iff :
    tree.unlink cwd path = .ok tree' ↔
      ∃ place content, fileAt? tree cwd path = some (place, content) ∧
        tree' = tree.erase place := by
  constructor
  · intro h
    unfold unlink at h
    split at h
    · cases h
    · -- A path that ends in a slash, or at a directory, is not removed.
      rename_i target hlocate
      obtain ⟨dir, last, slash⟩ := target
      simp only at h
      split at h
      · rename_i name
        split at h
        · cases h
        · rename_i content hchild
          split at h
          · cases h
          · rename_i hslash
            cases h
            have hslash : slash = false := by simpa using hslash
            subst hslash
            exact ⟨_, content, fileAt?_eq_some_iff.mpr ⟨dir, name, hlocate, hchild, rfl⟩, rfl⟩
        · cases h
      · cases h
  · rintro ⟨place, content, hfile, rfl⟩
    obtain ⟨dir, name, hlocate, hchild, rfl⟩ := fileAt?_eq_some_iff.mp hfile
    simp only [unlink, hlocate, hchild]
    rfl

/-- To remove what is not there fails as to look at it does, and the other way round. -/
theorem unlink_eq_error_iff {fault : FileFault} (hkind : fault.kind = .notFound) :
    tree.unlink cwd path = .error fault ↔ tree.stat cwd path = .error fault := by
  unfold unlink stat
  cases hlocate : tree.locate cwd path with
  | error found => simp
  | ok target =>
    obtain ⟨dir, last, slash⟩ := target
    unfold statTarget
    cases last with
    | name name =>
      simp only
      cases hchild : tree.child dir name with
      | error found => simp
      | ok entry =>
        -- A slash behind the name of a file, and a directory, are other faults.
        cases entry with
        | directory =>
          simp only [Except.error.injEq, reduceCtorEq, iff_false]
          rintro rfl
          cases hkind
        | file content =>
          cases slash with
          | true => simp
          | false => simp
    | here | above | root =>
      simp only [Except.error.injEq, reduceCtorEq, iff_false]
      rintro rfl
      cases hkind

/-- Where nothing is there is nothing to remove. -/
theorem Missing.removeIfThere (h : Missing tree cwd path) :
    tree.removeIfThere cwd path = .ok (tree, false) := by
  obtain ⟨fault, hstat, hkind⟩ := h
  unfold FileTree.removeIfThere
  rw [(unlink_eq_error_iff hkind).mpr hstat]
  simp [hkind]

/-- The file that a path leads to can be taken away with its place. -/
theorem removed_erase {place : Place} {content : ByteArray}
    (hfile : fileAt? tree cwd path = some (place, content)) :
    Removed tree cwd path (tree.erase place) true := by
  have hremoves : Removes tree cwd [path] (tree.erase place) := by
    intro p
    by_cases hp : p = place
    · subst hp
      obtain ⟨dir, name, -, -, hplace⟩ := fileAt?_eq_some_iff.mp hfile
      have hgone := entry?_erase_self tree (p := p) (by simp [hplace])
      exact .inr ⟨hgone, path, List.mem_singleton_self _, content, hfile⟩
    · exact .inl (entry?_erase_of_ne tree hp)
  refine ⟨(isFile_of_fileAt? hfile).symm, ⟨.os Errno.noEntry, ?_, rfl⟩, hremoves⟩
  -- The path leads to the same name, and nothing stands there.
  obtain ⟨dir, name, hlocate, hchild, rfl⟩ := fileAt?_eq_some_iff.mp hfile
  have hshort : ¬ name.utf8ByteSize > maxName := Nat.not_lt.mpr (child_eq_ok_iff.mp hchild).1
  have hgone : (tree.erase (dir ++ [name])).child dir name = .error (.os Errno.noEntry) := by
    unfold FileTree.child
    rw [if_neg hshort, entry?_erase_self tree (by simp)]
  unfold stat
  rw [locate_of_dirsKept hremoves.thinned.dirsKept hlocate]
  simp only [statTarget, hgone]

/-- A removal that succeeds has removed the file that its path led to, if there was one. -/
theorem removed_of_removeIfThere {was : Bool}
    (h : tree.removeIfThere cwd path = .ok (tree', was)) : Removed tree cwd path tree' was := by
  unfold removeIfThere at h
  split at h
  · rename_i left hunlink
    cases h
    obtain ⟨place, content, hfile, rfl⟩ := unlink_eq_ok_iff.mp hunlink
    exact removed_erase hfile
  · rename_i fault hunlink
    split at h
    · rename_i hkind
      cases h
      have hmissing : Missing tree cwd path :=
        ⟨fault, (unlink_eq_error_iff hkind).mp hunlink, hkind⟩
      exact ⟨hmissing.isFile.symm, hmissing, .refl tree cwd [path]⟩
    · cases h

/-- A removal succeeds where a path leads to a file or to nothing. -/
theorem Removable.exists_removed (h : Removable tree cwd path) :
    ∃ tree' was, tree.removeIfThere cwd path = .ok (tree', was) := by
  rcases h with hfile | hmissing
  · rw [isFile_eq_isSome, Option.isSome_iff_exists] at hfile
    obtain ⟨⟨place, content⟩, hfile⟩ := hfile
    refine ⟨tree.erase place, true, ?_⟩
    unfold removeIfThere
    rw [unlink_eq_ok_iff.mpr ⟨place, content, hfile, rfl⟩]
  · exact ⟨tree, false, hmissing.removeIfThere⟩

end ModBuild.Proofs.Files
