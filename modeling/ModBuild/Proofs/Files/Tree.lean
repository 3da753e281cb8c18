import ModBuild.Files.Store

/-!
# `ModBuild.Proofs.Files.Tree`: what a change leaves as it was

A tree is read through `entry?`, one place at a time, and through paths that lead to places. The
theorems:

* `entry?_set_of_ne`, `entry?_erase_of_ne`: a change at one place is none at any other.
* `locate_of_dirsKept`: paths lead where they led before as long as no directory goes.
* `fileAt?` is the file that a path leads to, and `stat_eq_file_iff` ties it to the operations that
  look at a path.
-/

set_option autoImplicit false

namespace ModBuild.Proofs.Files

open ModBuild ModBuild.FileTree

/-! ### Places after a change -/

/-- Another place is found as before among the entries without one place. -/
theorem lookup_filter_of_ne (entries : List (Place × Entry)) {p q : Place} (h : q ≠ p) :
    (entries.filter (·.1 ≠ p)).lookup q = entries.lookup q := by
  induction entries with
  | nil => rfl
  | cons e rest ih =>
    rw [List.filter_cons]
    split
    · rw [List.lookup_cons, List.lookup_cons, ih]
    · rename_i hdropped
      have hp : (q == e.1) = false := by
        have heq : e.1 = p := by simpa using hdropped
        simpa [heq] using h
      rw [List.lookup_cons, hp, ih]

/-- A place is not found among the entries without it. -/
theorem lookup_filter_self (entries : List (Place × Entry)) (p : Place) :
    (entries.filter (·.1 ≠ p)).lookup p = none := by
  rw [List.lookup_eq_none_iff]
  intro e he
  have hne : e.1 ≠ p := by simpa using (List.mem_filter.mp he).2
  simpa using Ne.symm hne

/-- To take an entry away changes no other place. -/
theorem entry?_erase_of_ne (tree : FileTree) {p q : Place} (h : q ≠ p) :
    FileTree.entry? (tree.erase p) q = tree.entry? q := by
  unfold entry? erase
  rw [lookup_filter_of_ne tree.entries h]

/-- Nothing stands where an entry was taken away. -/
theorem entry?_erase_self (tree : FileTree) {p : Place} (h : p ≠ []) :
    FileTree.entry? (tree.erase p) p = none := by
  unfold entry? erase
  rw [if_neg h, lookup_filter_self]

/-- To set an entry changes no other place. -/
theorem entry?_set_of_ne (tree : FileTree) {p q : Place} (entry : Entry) (h : q ≠ p) :
    FileTree.entry? (tree.set p entry) q = tree.entry? q := by
  have hq : (q == p) = false := by simpa using h
  rw [← entry?_erase_of_ne tree h]
  unfold entry? FileTree.set
  rw [List.lookup_cons, hq]

/-- An entry stands where it was set. -/
theorem entry?_set_self (tree : FileTree) {p : Place} (entry : Entry) (h : p ≠ []) :
    FileTree.entry? (tree.set p entry) p = some entry := by
  unfold entry? FileTree.set
  rw [if_neg h, List.lookup_cons_self]

/-- A name that a directory leads somewhere by is short enough, and something stands there. -/
theorem child_eq_ok_iff {tree : FileTree} {dir : Place} {name : String} {entry : Entry} :
    tree.child dir name = .ok entry ↔
      name.utf8ByteSize ≤ maxName ∧ tree.entry? (dir ++ [name]) = some entry := by
  unfold child
  by_cases hlong : name.utf8ByteSize > maxName
  · rw [if_pos hlong]
    simp [Nat.not_le.mpr hlong]
  · rw [if_neg hlong]
    cases h : tree.entry? (dir ++ [name]) with
    | none => simp
    | some found => simp [Nat.le_of_not_lt hlong]

/-- Where nothing is found in a directory, nothing stands. -/
theorem entry?_of_child_noEntry {tree : FileTree} {dir : Place} {name : String}
    (h : tree.child dir name = .error (.os Errno.noEntry)) :
    tree.entry? (dir ++ [name]) = none := by
  unfold child at h
  split at h
  · simp [Errno.nameTooLong, Errno.noEntry] at h
  · split at h
    · cases h
    · assumption

/-! ### Walks -/

/-- Every directory of the first tree is one of the second. -/
def DirsKept (tree tree' : FileTree) : Prop :=
  ∀ p, tree.entry? p = some .directory → tree'.entry? p = some .directory

/-- A name that leads to a directory does so where directories are kept. -/
theorem child_of_dirsKept {tree tree' : FileTree} (h : DirsKept tree tree') {dir : Place}
    {name : String} (hchild : tree.child dir name = .ok .directory) :
    tree'.child dir name = .ok .directory := by
  obtain ⟨hsize, hentry⟩ := child_eq_ok_iff.mp hchild
  exact child_eq_ok_iff.mpr ⟨hsize, h _ hentry⟩

/-- A walk only asks for directories on its way, so it goes on as before where those are kept. -/
theorem walk_of_dirsKept {tree tree' : FileTree} (h : DirsKept tree tree') {dir : Place}
    {names : List String} {found : Place × LastName} (hwalk : tree.walk dir names = .ok found) :
    tree'.walk dir names = .ok found := by
  fun_induction FileTree.walk tree dir names with
  | case1 | case2 | case3 => exact hwalk
  | case4 dir name hdot hdots =>
    rw [FileTree.walk]
    · exact hwalk
    · exact hdot
    · exact hdots
  -- `.` and `..` ask for nothing, so the two walks make the same step.
  | case5 dir rest hrest ih =>
    rw [FileTree.walk]
    · exact ih hwalk
    · exact hrest
  | case6 dir rest hrest ih =>
    rw [FileTree.walk]
    · exact ih hwalk
    · exact hrest
  -- A name asks for a directory, which is kept.
  | case7 dir name rest h1 h2 h3 h4 h5 hchild ih =>
    have hstep : tree'.walk dir (name :: rest) = tree'.walk (dir ++ [name]) rest := by
      rw [FileTree.walk, child_of_dirsKept h hchild] <;> assumption
    rw [hstep]
    exact ih hwalk
  | case8 | case9 => cases hwalk

/-- A path leads where a walk along its names ends, if it is a path that can be asked for. -/
theorem walk_of_locate {tree : FileTree} {cwd : Place} {path : String} {target : Target}
    (h : tree.locate cwd path = .ok target) :
    tree.walk (startOf cwd path) (Path.parts path) = .ok (target.dir, target.last) := by
  unfold locate at h
  split at h
  · cases h
  · split at h
    · cases h
    · split at h
      · cases h
      · split at h
        · rename_i hwalk
          cases h
          exact hwalk
        · cases h

/-- Where a path leads does not depend on more than the directories. -/
theorem locate_of_dirsKept {tree tree' : FileTree} (h : DirsKept tree tree') {cwd : Place}
    {path : String} {target : Target} (hlocate : tree.locate cwd path = .ok target) :
    tree'.locate cwd path = .ok target := by
  have hwalk := walk_of_locate hlocate
  have hwalk' := walk_of_dirsKept h hwalk
  -- What is asked of the path itself does not depend on the tree.
  unfold locate at hlocate ⊢
  rw [hwalk] at hlocate
  rw [hwalk']
  exact hlocate

/-! ### The file at the end of a path -/

/-- The place and the content of the file that a path leads to, if it leads to one. -/
def fileAt? (tree : FileTree) (cwd : Place) (path : String) : Option (Place × ByteArray) :=
  match tree.locate cwd path with
  | .ok ⟨dir, .name name, false⟩ =>
    match tree.child dir name with
    | .ok (.file content) => some (dir ++ [name], content)
    | _ => none
  | _ => none

/-- A path leads to a file where its walk ends at a name that is one, without a slash behind. -/
theorem fileAt?_eq_some_iff {tree : FileTree} {cwd : Place} {path : String} {place : Place}
    {content : ByteArray} :
    fileAt? tree cwd path = some (place, content) ↔
      ∃ dir name, tree.locate cwd path = .ok ⟨dir, .name name, false⟩ ∧
        tree.child dir name = .ok (.file content) ∧ place = dir ++ [name] := by
  unfold fileAt?
  constructor
  · intro h
    split at h
    · rename_i dir name hlocate
      split at h
      · rename_i found hchild
        simp only [Option.some.injEq, Prod.mk.injEq] at h
        obtain ⟨rfl, rfl⟩ := h
        exact ⟨dir, name, hlocate, hchild, rfl⟩
      · cases h
    · cases h
  · rintro ⟨dir, name, hlocate, hchild, rfl⟩
    simp [hlocate, hchild]

/-- The file that a path leads to stands at its place. -/
theorem entry?_of_fileAt? {tree : FileTree} {cwd : Place} {path : String} {place : Place}
    {content : ByteArray} (h : fileAt? tree cwd path = some (place, content)) :
    tree.entry? place = some (.file content) := by
  obtain ⟨dir, name, -, hchild, rfl⟩ := fileAt?_eq_some_iff.mp h
  exact (child_eq_ok_iff.mp hchild).2

/-- To look at the end of a path finds a file exactly if the path leads to one. -/
theorem stat_eq_file_iff {tree : FileTree} {cwd : Place} {path : String} {content : ByteArray} :
    tree.stat cwd path = .ok (.file content) ↔
      ∃ place, fileAt? tree cwd path = some (place, content) := by
  constructor
  · intro h
    unfold stat at h
    split at h
    · rename_i target hlocate
      obtain ⟨dir, last, slash⟩ := target
      unfold statTarget at h
      split at h
      · rename_i name hlast
        simp only at hlast
        subst hlast
        split at h
        · rename_i found hchild
          split at h
          · cases h
          · rename_i hslash
            cases h
            -- A slash behind the name would have asked for a directory.
            have hslash : slash = false := by simpa using hslash
            subst hslash
            exact ⟨_, fileAt?_eq_some_iff.mpr ⟨dir, name, hlocate, hchild, rfl⟩⟩
        · rename_i hother
          exact absurd h (hother content)
      · cases h
    · cases h
  · rintro ⟨place, h⟩
    obtain ⟨dir, name, hlocate, hchild, rfl⟩ := fileAt?_eq_some_iff.mp h
    have hchild' : tree.child (Target.dir ⟨dir, .name name, false⟩) name =
        .ok (.file content) := hchild
    simp [stat, hlocate, statTarget, hchild']

/-- A path without a file leads to none that could be looked at. -/
theorem isFile_of_fileAt?_none {tree : FileTree} {cwd : Place} {path : String}
    (h : fileAt? tree cwd path = none) : tree.isFile cwd path = false := by
  unfold isFile
  split
  · rename_i content hstat
    obtain ⟨place, hsome⟩ := stat_eq_file_iff.mp hstat
    rw [h] at hsome
    cases hsome
  · rfl

/-- A file is there where a path leads to one. -/
theorem isFile_of_fileAt? {tree : FileTree} {cwd : Place} {path : String} {place : Place}
    {content : ByteArray} (h : fileAt? tree cwd path = some (place, content)) :
    tree.isFile cwd path = true := by
  simp [isFile, stat_eq_file_iff.mpr ⟨place, h⟩]

/-- The file that a path leads to can be read. -/
theorem read_of_fileAt? {tree : FileTree} {cwd : Place} {path : String} {place : Place}
    {content : ByteArray} (h : fileAt? tree cwd path = some (place, content)) :
    tree.read cwd path = .ok content := by
  simp [FileTree.read, stat_eq_file_iff.mpr ⟨place, h⟩]

/-- Where something can be read, the path leads to it. -/
theorem fileAt?_of_read {tree : FileTree} {cwd : Place} {path : String} {content : ByteArray}
    (h : tree.read cwd path = .ok content) :
    ∃ place, fileAt? tree cwd path = some (place, content) := by
  unfold FileTree.read at h
  split at h
  · rename_i hstat
    cases h
    exact stat_eq_file_iff.mp hstat
  · cases h
  · cases h

/-- Every text can be read back from its bytes. -/
theorem fromUTF8?_toUTF8 (text : String) : String.fromUTF8? text.toUTF8 = some text := by
  have hvalid : text.toUTF8.IsValidUTF8 := text.isValidUTF8
  rw [String.fromUTF8?, dif_pos hvalid]
  rfl

/-- The text of the file that a path leads to can be read. -/
theorem readText_of_fileAt? {tree : FileTree} {cwd : Place} {path text : String} {place : Place}
    (h : fileAt? tree cwd path = some (place, text.toUTF8)) :
    tree.readText cwd path = .ok text := by
  simp only [readText, readText?, read_of_fileAt? h, fromUTF8?_toUTF8]

end ModBuild.Proofs.Files
