import Mathlib.Data.List.Nodup
import Mathlib.Data.List.Perm.Subperm
import ModBuild.Files.Replace
import ModBuild.Proofs.Files.Tree

/-!
# `ModBuild.Proofs.Files.Replace`: what replacing a file leaves behind

A replacement works beside the files that are there: it adds directories, and one temporary file
under a name that nothing has. `Prepared` says so of the state between two steps. The theorems:

* `Prepared.grow`, `Prepared.make` and `Prepared.write`: the steps before the last keep `Prepared`.
* `Prepared.stops`: so does a step that fails or stops on its way.
* `Prepared.rename`: the last step puts the content in place and the temporary file away.
* `Prepared.grown_cleaned`: a replacement that fails before that leaves added directories only.
* `endsWell_replaceSteps`: all of this for a run of all steps, in which any step may be broken.
* `replaceFile_cases`: after a replacement the path leads to the content, or an error of the file
  system is reported. No other file is touched in either case, and no temporary file is left.
-/

set_option autoImplicit false

namespace ModBuild.Proofs.Files

open ModBuild ModBuild.FileTree

/-! ### Adding directories -/

/-- At this place stands what stood there, unless a directory was made where nothing was. -/
def GrownAt (tree tree' : FileTree) (p : Place) : Prop :=
  tree'.entry? p = tree.entry? p ∨ tree.entry? p = none ∧ tree'.entry? p = some .directory

/-- Nothing but directories was added. -/
def Grown (tree tree' : FileTree) : Prop :=
  ∀ p, GrownAt tree tree' p

/-- What stays or becomes a directory, twice, has done so in all. -/
theorem GrownAt.trans {tree tree' tree'' : FileTree} {p : Place} (h : GrownAt tree tree' p)
    (h' : GrownAt tree' tree'' p) : GrownAt tree tree'' p := by
  unfold GrownAt at *
  grind

/-- Files are no directories, so growing keeps them and makes none. -/
theorem GrownAt.file_iff {tree tree' : FileTree} {p : Place} (h : GrownAt tree tree' p)
    (content : ByteArray) :
    tree'.entry? p = some (.file content) ↔ tree.entry? p = some (.file content) := by
  unfold GrownAt at h
  grind

/-- A tree has grown if nothing changes. -/
theorem Grown.refl (tree : FileTree) : Grown tree tree :=
  fun _ => .inl rfl

/-- A tree that grows twice has grown in all. -/
theorem Grown.trans {tree tree' tree'' : FileTree} (h : Grown tree tree')
    (h' : Grown tree' tree'') : Grown tree tree'' :=
  fun p => (h p).trans (h' p)

/-- A path that leads to a file still does once directories were added. -/
theorem Grown.fileAt? {tree tree' : FileTree} (h : Grown tree tree') {cwd : Place} {path : String}
    {copy : Place × ByteArray} (hat : fileAt? tree cwd path = some copy) :
    fileAt? tree' cwd path = some copy := by
  obtain ⟨dir, name, hlocate, hchild, hplace⟩ := fileAt?_eq_some_iff.mp hat
  obtain ⟨hsize, hentry⟩ := child_eq_ok_iff.mp hchild
  have hkept : DirsKept tree tree' := by
    intro p hp
    rcases h p with hsame | ⟨hnone, -⟩
    · rw [hsame, hp]
    · rw [hnone] at hp
      cases hp
  have hlocate' := locate_of_dirsKept hkept hlocate
  have hchild' := child_eq_ok_iff.mpr ⟨hsize, ((h _).file_iff _).mpr hentry⟩
  exact fileAt?_eq_some_iff.mpr ⟨dir, name, hlocate', hchild', hplace⟩

/-- A directory is made only where nothing stands. -/
theorem grown_of_makeDir {tree tree' : FileTree} {cwd : Place} {path : String}
    (h : tree.makeDir cwd path = .ok tree') : Grown tree tree' := by
  unfold makeDir at h
  split at h
  · cases h
  · rename_i target _
    split at h
    · rename_i name _
      split at h
      · cases h
      · rename_i hchild
        cases h
        intro p
        by_cases hp : p = target.dir ++ [name]
        · subst hp
          exact .inr ⟨entry?_of_child_noEntry hchild, entry?_set_self tree _ (by simp)⟩
        · exact .inl (entry?_set_of_ne tree _ hp)
      · cases h
    · cases h

/-- To make directories touches nothing that is there, also where it stops. -/
theorem grown_makeDirs (cwd : Place) (paths : List String) (tree : FileTree) :
    Grown tree (makeDirs cwd paths tree).1 := by
  induction paths generalizing tree with
  | nil => exact .refl tree
  | cons path above ih =>
    unfold makeDirs
    split
    · rename_i hmake
      exact grown_of_makeDir hmake
    · -- The directories above are made first, and then this one is tried again.
      have habove := ih tree
      split
      · rename_i hrest
        rwa [hrest] at habove
      · rename_i hrest
        rw [hrest] at habove
        split
        · rename_i hmake
          exact habove.trans (grown_of_makeDir hmake)
        · exact habove
    · exact .refl tree

/-- To make sure of a directory touches nothing that is there. -/
theorem grown_ensureDir (tree : FileTree) (cwd : Place) (path : String) :
    Grown tree (tree.ensureDir cwd path).1 := by
  have hmake := grown_makeDirs cwd (Path.ancestors path) tree
  unfold ensureDir
  split
  · exact .refl tree
  · exact .refl tree
  · split <;> simp_all

/-! ### A name that nothing has -/

/-- Different numbers give different names. -/
theorem temporaryName_injective {m n : Nat} (h : temporaryName m = temporaryName n) : m = n := by
  have hrepr : Nat.repr m = Nat.repr n := by simpa [temporaryName] using h
  have hdigits : Nat.toDigits 10 m = Nat.toDigits 10 n := by
    rw [← Nat.toList_repr, hrepr, Nat.toList_repr]
  rw [← Nat.ofDigitChars_ten_toDigits (n := m), hdigits, Nat.ofDigitChars_ten_toDigits]

/-- Where something stands below the root, there is an entry. -/
theorem mem_places_of_entry? {tree : FileTree} {p : Place} (hp : p ≠ [])
    (h : tree.entry? p ≠ none) : p ∈ tree.entries.map (·.1) := by
  unfold entry? at h
  rw [if_neg hp] at h
  obtain ⟨entry, hlookup⟩ := Option.ne_none_iff_exists'.mp h
  obtain ⟨before, after, heq, -⟩ := List.lookup_eq_some_iff.mp hlookup
  simp [heq]

/-- There are more numbers to choose from than entries in the tree and the name that is wanted. -/
theorem exists_unused (tree : FileTree) (dir : Place) (wanted? : Option String) :
    ∃ n ∈ List.range (tree.entries.length + 2),
      tree.entry? (dir ++ [temporaryName n]) = none ∧ wanted? ≠ some (temporaryName n) := by
  by_contra hall
  -- All these numbers would be in use, and so by more places than there are.
  have hdistinct : ((List.range (tree.entries.length + 2)).map
      fun n => dir ++ [temporaryName n]).Nodup := by
    refine List.Nodup.map (fun m n h => temporaryName_injective ?_) List.nodup_range
    simpa using h
  have hused : (List.range (tree.entries.length + 2)).map (fun n => dir ++ [temporaryName n]) ⊆
      wanted?.toList.map (fun name => dir ++ [name]) ++ tree.entries.map (·.1) := by
    intro place hplace
    obtain ⟨n, hn, rfl⟩ := List.mem_map.mp hplace
    by_cases hwanted : wanted? = some (temporaryName n)
    · exact List.mem_append_left _ (by simp [hwanted])
    · refine List.mem_append_right _ ?_
      exact mem_places_of_entry? (by simp) fun hnone => hall ⟨n, hn, hnone, hwanted⟩
  have hle := (hdistinct.subperm hused).length_le
  have hone : wanted?.toList.length ≤ 1 := by cases wanted? <;> simp
  simp only [List.length_map, List.length_range, List.length_append] at hle
  omega

/-- The temporary file gets a name that nothing has, and that is not the one that is wanted. -/
theorem freshName_unused (tree : FileTree) (dir : Place) (wanted? : Option String) :
    tree.entry? (dir ++ [tree.freshName dir wanted?]) = none ∧
      wanted? ≠ some (tree.freshName dir wanted?) := by
  obtain ⟨n, hn, hunused, hwanted⟩ := exists_unused tree dir wanted?
  unfold freshName
  simp only
  cases hfind : (List.range (tree.entries.length + 2)).find? fun n =>
      (tree.entry? (dir ++ [temporaryName n])).isNone && wanted? ≠ some (temporaryName n) with
  | none =>
    have hnot := List.find?_eq_none.mp hfind n hn
    simp [hunused, hwanted] at hnot
  | some found =>
    have hfound := List.find?_some hfind
    simpa using hfound

/-! ### Before the last step -/

/-- The state differs from the tree that a replacement started with by added directories, and by the
temporary file where nothing stood. That file does not have the name of the file that is replaced.
-/
structure Prepared (tree : FileTree) (r : Replacement) (state : Replacing) : Prop where
  places : ∀ p, if state.temporary = some p then
      tree.entry? p = none ∧ ∃ content, state.tree.entry? p = some (.file content)
    else GrownAt tree state.tree p
  apart : ∀ place, state.temporary = some place → place.getLast? ≠ r.name?

namespace Prepared

variable {tree tree' : FileTree} {r : Replacement} {state : Replacing} {place : Place}

/-- At the start nothing has happened and there is no temporary file. -/
theorem start (tree : FileTree) (r : Replacement) : Prepared tree r ⟨tree, none⟩ where
  places p := by simpa using Grown.refl tree p
  apart := nofun

/-- The temporary file stands where nothing stood before. -/
theorem entry?_temporary (h : Prepared tree r state) (ht : state.temporary = some place) :
    tree.entry? place = none ∧ ∃ content, state.tree.entry? place = some (.file content) := by
  have hplace := h.places place
  rwa [if_pos ht] at hplace

/-- Away from the temporary file nothing that was there is touched. -/
theorem grownAt {p : Place} (h : Prepared tree r state) (hp : state.temporary ≠ some p) :
    GrownAt tree state.tree p := by
  have hplace := h.places p
  rwa [if_neg hp] at hplace

/-- The root is a directory, so the temporary file is elsewhere. -/
theorem temporary_ne_nil (h : Prepared tree r state) (ht : state.temporary = some place) :
    place ≠ [] := by
  rintro rfl
  have hnone := (h.entry?_temporary ht).1
  cases hnone

/-- Adding directories does not touch the temporary file. -/
theorem grow (h : Prepared tree r state) (hgrown : Grown state.tree tree') :
    Prepared tree r ⟨tree', state.temporary⟩ where
  places p := by
    split
    · rename_i ht
      obtain ⟨hnone, content, hfile⟩ := h.entry?_temporary ht
      exact ⟨hnone, content, ((hgrown p).file_iff content).mpr hfile⟩
    · rename_i ht
      exact (h.grownAt ht).trans (hgrown p)
  apart := h.apart

/-- A file at a place of its own becomes the temporary file. -/
theorem make (h : Prepared tree r state) (hfree : state.temporary = none)
    (hunused : state.tree.entry? place = none) (hname : place.getLast? ≠ r.name?)
    (content : ByteArray) :
    Prepared tree r ⟨state.tree.set place (.file content), some place⟩ where
  places := by
    have hplace : place ≠ [] := by
      rintro rfl
      cases hunused
    intro p
    have hp := h.grownAt (p := p) (by simp [hfree])
    split
    · rename_i heq
      cases heq
      -- Growing leaves no place empty that was not, so nothing stood here at the start.
      refine ⟨?_, content, entry?_set_self _ _ hplace⟩
      rcases hp with hsame | ⟨hnone, -⟩
      · rw [← hsame, hunused]
      · exact hnone
    · rename_i hne
      have hpne : p ≠ place := fun heq => hne (by rw [heq])
      unfold GrownAt
      rw [entry?_set_of_ne _ _ hpne]
      exact hp
  apart := by
    rintro _ ⟨⟩
    exact hname

/-- Writing to the temporary file touches nothing else. -/
theorem write (h : Prepared tree r state) (ht : state.temporary = some place)
    (content : ByteArray) :
    Prepared tree r ⟨state.tree.set place (.file content), some place⟩ where
  places := by
    intro p
    split
    · rename_i heq
      cases heq
      have hplace := h.temporary_ne_nil ht
      exact ⟨(h.entry?_temporary ht).1, content, entry?_set_self _ _ hplace⟩
    · rename_i hne
      have hpne : p ≠ place := fun heq => hne (by rw [heq])
      unfold GrownAt
      rw [entry?_set_of_ne _ _ hpne]
      exact h.grownAt (by rwa [ht])
  apart := by
    rintro _ ⟨⟩
    exact h.apart _ ht

/-- Once the temporary file is removed, nothing but directories was added. -/
theorem grown_cleaned (h : Prepared tree r state) : Grown tree state.cleaned.tree := by
  intro p
  unfold Replacing.cleaned
  split
  · rename_i place ht
    by_cases hp : p = place
    · subst hp
      left
      rw [entry?_erase_self _ (h.temporary_ne_nil ht), (h.entry?_temporary ht).1]
    · have hgrown := h.grownAt (p := p) (by simpa [ht, eq_comm] using hp)
      unfold GrownAt
      rwa [entry?_erase_of_ne _ hp]
  · rename_i ht
    exact h.grownAt (by simp [ht])

end Prepared

/-- There is no temporary file once it is removed. -/
theorem temporary_cleaned (state : Replacing) : state.cleaned.temporary = none := by
  unfold Replacing.cleaned
  split
  · rfl
  · assumption

/-! ### The steps -/

/-- The error comes from the file system. -/
def IsFileError (e : BuildError) : Prop :=
  ∃ operation path fault, e = .fileSystem operation path fault

/-- What a step reports of a fault. -/
def stepError (r : Replacement) (state : Replacing) (s : ReplaceStep) (fault : FileFault) :
    BuildError :=
  .fileSystem (Replacing.stepName s) (Replacing.stepPath r state s) fault

/-- To make a directory fails with an error of the file system. -/
theorem isFileError_ensureDir {tree : FileTree} {cwd : Place} {path : String} {e : BuildError}
    (h : (tree.ensureDir cwd path).2 = .error e) : IsFileError e := by
  unfold ensureDir at h
  split at h
  · cases h
  · cases h
    exact ⟨_, _, _, rfl⟩
  · split at h
    · cases h
    · cases h
      exact ⟨_, _, _, rfl⟩

section Steps

variable {r : Replacement} {state next : Replacing} {place : Place} {e : BuildError}

/-- The first step makes the directory. -/
theorem step_findDir (r : Replacement) (state : Replacing) :
    state.step r .findDir = (⟨(state.tree.ensureDir r.cwd r.dir).1, state.temporary⟩,
      (state.tree.ensureDir r.cwd r.dir).2) := by
  unfold Replacing.step
  simp only

/-- The content is written to the temporary file. -/
theorem step_write (ht : state.temporary = some place) :
    state.step r .write = (⟨state.tree.set place (.file r.content), some place⟩, .ok ()) := by
  obtain ⟨tree, temporary⟩ := state
  cases ht
  rfl

/-- To wait for the disk changes nothing that can be seen. -/
theorem step_sync (r : Replacement) (state : Replacing) :
    state.step r .sync = (state, .ok ()) := by
  rfl

/-- Without a temporary file there is nothing to write and nothing to move. -/
theorem step_of_noTemporary (ht : state.temporary = none) :
    state.step r .write = (state, .ok ()) ∧ state.step r .move = (state, .ok ()) := by
  obtain ⟨tree, temporary⟩ := state
  cases ht
  exact ⟨rfl, rfl⟩

/-- The temporary file is made where nothing stands, under another name than that of the file, or
there is no directory for it. -/
theorem step_makeTemporary_cases (r : Replacement) (state : Replacing) :
    (∃ place, state.tree.entry? place = none ∧ place.getLast? ≠ r.name? ∧
      state.step r .makeTemporary =
        (⟨state.tree.set place (.file .empty), some place⟩, .ok ())) ∨
    ∃ fault, state.step r .makeTemporary =
      (state, .error (stepError r state .makeTemporary fault)) := by
  cases hdir : state.tree.dirPlace r.cwd r.dir with
  | ok dir =>
    left
    -- A name is fresh for the whole directory, so no other replacement uses it either.
    obtain ⟨hunused, hname⟩ := freshName_unused state.tree dir r.name?
    refine ⟨dir ++ [state.tree.freshName dir r.name?], hunused, ?_, ?_⟩
    · rw [List.getLast?_concat]
      exact hname.symm
    · unfold Replacing.step
      simp only [hdir]
  | error fault =>
    right
    refine ⟨fault, ?_⟩
    unfold Replacing.step
    simp only [hdir, stepError]

/-- The content goes to where the path leads and the temporary file goes away, or everything stays
as it is. -/
theorem step_move_cases (ht : state.temporary = some place) :
    (∃ tree, state.tree.rename r.cwd place r.path = .ok tree ∧
      state.step r .move = (⟨tree, none⟩, .ok ())) ∨
    ∃ fault, state.step r .move = (state, .error (stepError r state .move fault)) := by
  cases hmove : state.tree.rename r.cwd place r.path with
  | ok tree =>
    left
    refine ⟨tree, rfl, ?_⟩
    unfold Replacing.step
    simp only [ht, hmove]
  | error fault =>
    right
    refine ⟨fault, ?_⟩
    unfold Replacing.step
    simp only [ht, hmove, stepError]

/-- A step ends a run: it fails, or it stops on its way for a reason of its own. -/
def Stops (r : Replacement) (state : Replacing) (s : ReplaceStep) (next : Replacing)
    (e : BuildError) : Prop :=
  state.step r s = (next, .error e) ∨
    ∃ stop : StepFault, next = state.stopped r s stop.left ∧ e = stepError r state s stop.fault

/-- A step that fails has added directories, if it is the first, and otherwise done nothing. -/
theorem step_error_cases {s : ReplaceStep} (h : state.step r s = (next, .error e)) :
    IsFileError e ∧
      (next = ⟨(state.tree.ensureDir r.cwd r.dir).1, state.temporary⟩ ∨ next = state) := by
  -- Only the first step does something before it fails.
  cases s with
  | findDir =>
    rw [step_findDir, Prod.mk.injEq] at h
    exact ⟨isFileError_ensureDir h.2, .inl h.1.symm⟩
  | makeTemporary =>
    rcases step_makeTemporary_cases r state with ⟨place, -, -, hstep⟩ | ⟨fault, hstep⟩
    · rw [hstep] at h
      cases h
    · rw [hstep] at h
      cases h
      exact ⟨⟨_, _, _, rfl⟩, .inr rfl⟩
  | write =>
    cases ht : state.temporary with
    | some place =>
      rw [step_write ht] at h
      cases h
    | none =>
      rw [(step_of_noTemporary ht).1] at h
      cases h
  | sync =>
    rw [step_sync] at h
    cases h
  | move =>
    cases ht : state.temporary with
    | some place =>
      rcases step_move_cases (r := r) ht with ⟨tree, -, hstep⟩ | ⟨fault, hstep⟩
      · rw [hstep] at h
        cases h
      · rw [hstep] at h
        cases h
        exact ⟨⟨_, _, _, rfl⟩, .inr rfl⟩
    | none =>
      rw [(step_of_noTemporary ht).2] at h
      cases h

/-- A step that stops on its way has made some of the directories, or written a part of the content
to the temporary file, and otherwise done nothing. -/
theorem stopped_cases (r : Replacement) (state : Replacing) (s : ReplaceStep) (left : Nat) :
    state.stopped r s left =
        ⟨(makeDirs r.cwd ((Path.ancestors r.dir).drop left) state.tree).1, state.temporary⟩ ∨
    (∃ place content, state.temporary = some place ∧
      state.stopped r s left = ⟨state.tree.set place (.file content), some place⟩) ∨
    state.stopped r s left = state := by
  obtain ⟨tree, temporary⟩ := state
  cases s with
  | findDir => exact .inl rfl
  | write =>
    cases temporary with
    | some place => exact .inr (.inl ⟨place, _, rfl, rfl⟩)
    | none => exact .inr (.inr rfl)
  | makeTemporary | sync | move => exact .inr (.inr (by cases temporary <;> rfl))

/-- A step that ends a run has touched no file but the temporary one. -/
theorem Prepared.stops {tree : FileTree} {s : ReplaceStep} (h : Prepared tree r state)
    (hstops : Stops r state s next e) : Prepared tree r next ∧ IsFileError e := by
  rcases hstops with hfailed | ⟨stop, rfl, rfl⟩
  · obtain ⟨he, rfl | rfl⟩ := step_error_cases hfailed
    · exact ⟨h.grow (grown_ensureDir _ _ _), he⟩
    · exact ⟨h, he⟩
  · refine ⟨?_, ⟨_, _, _, rfl⟩⟩
    rcases stopped_cases r state s stop.left with hdirs | ⟨place, content, ht, hpart⟩ | hsame
    · rw [hdirs]
      exact h.grow (grown_makeDirs _ _ _)
    · rw [hpart]
      exact h.write ht content
    · rwa [hsame]

end Steps

/-! ### The last step -/

/-- A move that succeeds takes a file, and ends at a name that no directory has. -/
theorem rename_ok {tree tree' : FileTree} {cwd source : Place} {path : String}
    (h : tree.rename cwd source path = .ok tree') :
    ∃ content dir name, tree.entry? source = some (.file content) ∧
      tree.locate cwd path = .ok ⟨dir, .name name, false⟩ ∧
      name.utf8ByteSize ≤ maxName ∧ tree.entry? (dir ++ [name]) ≠ some .directory ∧
      tree' = (tree.erase source).set (dir ++ [name]) (.file content) := by
  unfold rename at h
  split at h
  · rename_i content target hsource hlocate
    obtain ⟨dir, last, slash⟩ := target
    simp only at h
    split at h
    · rename_i name
      split at h
      · cases h
      · rename_i hlong
        -- A name that is too long has no entry, so it was refused above.
        have hsize : name.utf8ByteSize ≤ maxName := by
          by_contra hover
          exact hlong (by unfold child; rw [if_pos (Nat.lt_of_not_le hover)]; rfl)
        split at h
        · cases h
        · rename_i hslash
          split at h
          · cases h
          · rename_i hdir
            cases h
            have hslash : slash = false := by simpa using hslash
            subst hslash
            refine ⟨content, dir, name, hsource, hlocate, hsize, fun hentry => hdir ?_, rfl⟩
            rw [child_eq_ok_iff.mpr ⟨hsize, hentry⟩]
    · cases h
  · cases h
  · cases h

/-- After a file was moved to the end of a path, the path leads to it, the place that it came from
is empty, and no other place has changed. -/
theorem fileAt?_of_rename {tree tree' : FileTree} {cwd source : Place} {content : ByteArray}
    {path : String} (hsource : tree.entry? source = some (.file content))
    (h : tree.rename cwd source path = .ok tree') :
    ∃ target, fileAt? tree' cwd path = some (target, content) ∧
      ∀ p ≠ target, tree'.entry? p = if p = source then none else tree.entry? p := by
  obtain ⟨found, dir, name, hfound, hlocate, hsize, hdir, rfl⟩ := rename_ok h
  obtain rfl : found = content := by
    rw [hsource] at hfound
    cases hfound
    rfl
  have hne : source ≠ [] := by
    rintro rfl
    cases hsource
  have hother : ∀ p ≠ dir ++ [name],
      FileTree.entry? ((tree.erase source).set (dir ++ [name]) (.file found)) p =
        if p = source then none else tree.entry? p := by
    intro p hp
    rw [entry?_set_of_ne _ _ hp]
    split
    · rename_i heq
      rw [heq, entry?_erase_self _ hne]
    · rename_i hpne
      exact entry?_erase_of_ne _ hpne
  -- No directory goes, so the path still leads to the same name.
  have hkept : DirsKept tree ((tree.erase source).set (dir ++ [name]) (.file found)) := by
    intro p hp
    have hp₁ : p ≠ dir ++ [name] := fun heq => hdir (heq ▸ hp)
    have hp₂ : p ≠ source := fun heq => by simp [heq, hsource] at hp
    rw [hother p hp₁, if_neg hp₂, hp]
  refine ⟨dir ++ [name], fileAt?_eq_some_iff.mpr ⟨dir, name, ?_, ?_, rfl⟩, hother⟩
  · exact locate_of_dirsKept hkept hlocate
  · exact child_eq_ok_iff.mpr ⟨hsize, entry?_set_self _ _ (by simp)⟩

/-- The path leads to the content, and nothing else differs from the start but added directories. -/
def Replaced (tree : FileTree) (r : Replacement) (tree' : FileTree) : Prop :=
  ∃ target, fileAt? tree' r.cwd r.path = some (target, r.content) ∧
    ∀ p ≠ target, GrownAt tree tree' p

/-- The last step replaces the file, if the temporary file holds the content. -/
theorem Prepared.rename {r : Replacement} {tree tree' : FileTree} {state : Replacing}
    {place : Place} (h : Prepared tree r state) (ht : state.temporary = some place)
    (hwritten : state.tree.entry? place = some (.file r.content))
    (hmove : state.tree.rename r.cwd place r.path = .ok tree') : Replaced tree r tree' := by
  obtain ⟨hnone, -⟩ := h.entry?_temporary ht
  obtain ⟨target, hat, hother⟩ := fileAt?_of_rename hwritten hmove
  refine ⟨target, hat, fun p hp => ?_⟩
  unfold GrownAt
  rw [hother p hp]
  split
  · rename_i heq
    left
    rw [heq, hnone]
  · rename_i hne
    exact h.grownAt fun heq => hne (by rw [ht] at heq; exact (Option.some.inj heq).symm)

/-! ### All steps -/

/-- How a run ends well: the states on the way are prepared, there is no temporary file at the end,
and the file is replaced, or an error of the file system is reported and no file is touched. -/
structure EndsWell (tree : FileTree) (r : Replacement)
    (run : List Replacing × Replacing × Except BuildError Unit) : Prop where
  past : ∀ state ∈ run.1, Prepared tree r state
  temporary : run.2.1.temporary = none
  last : run.2.2 = .ok () ∧ Replaced tree r run.2.1.tree ∨
    ∃ e, run.2.2 = .error e ∧ IsFileError e ∧ Grown tree run.2.1.tree

namespace EndsWell

variable {tree : FileTree} {r : Replacement}
variable {run : List Replacing × Replacing × Except BuildError Unit}

/-- A run that succeeds has replaced the file. -/
theorem replaced (h : EndsWell tree r run) (hok : run.2.2 = .ok ()) :
    Replaced tree r run.2.1.tree := by
  rcases h.last with ⟨-, hreplaced⟩ | ⟨e, he, -, -⟩
  · exact hreplaced
  · rw [hok] at he
    cases he

/-- A run that fails reports an error of the file system and touches nothing that was there. -/
theorem grown (h : EndsWell tree r run) {e : BuildError} (he : run.2.2 = .error e) :
    IsFileError e ∧ Grown tree run.2.1.tree := by
  rcases h.last with ⟨hok, -⟩ | ⟨e', he', hfault, hgrown⟩
  · rw [he] at hok
    cases hok
  · rw [he] at he'
    cases he'
    exact ⟨hfault, hgrown⟩

end EndsWell

section Run

variable {tree : FileTree} {r : Replacement} {broken : ReplaceStep → Option StepFault}
variable {s : ReplaceStep} {rest : List ReplaceStep} {past : List Replacing} {state : Replacing}

/-- A run goes on with the state that a step leaves, or ends with this step. -/
theorem run_cons_cases (r : Replacement) (broken : ReplaceStep → Option StepFault)
    (s : ReplaceStep) (rest : List ReplaceStep) (past : List Replacing) (state : Replacing) :
    (∃ next, state.step r s = (next, .ok ()) ∧
      Replacing.run r broken (s :: rest) past state =
        Replacing.run r broken rest (state :: past) next) ∨
    ∃ next e, Stops r state s next e ∧
      Replacing.run r broken (s :: rest) past state =
        (next :: state :: past, next.cleaned, .error e) := by
  cases hbroken : broken s with
  | some stop =>
    exact .inr ⟨_, _, .inr ⟨stop, rfl, rfl⟩, by simp only [Replacing.run, hbroken, stepError]⟩
  | none =>
    rcases hstep : state.step r s with ⟨next, ⟨⟩ | e⟩
    · exact .inr ⟨next, _, .inl hstep, by simp only [Replacing.run, hbroken, hstep]⟩
    · exact .inl ⟨next, rfl, by simp only [Replacing.run, hbroken, hstep]⟩

/-- A run ends well if it does so behind its first step, where that step succeeds. Where it ends the
run, the temporary file is removed. -/
theorem endsWell_cons (hpast : ∀ state ∈ past, Prepared tree r state)
    (h : Prepared tree r state)
    (hrest : ∀ next, state.step r s = (next, .ok ()) →
      (∀ state' ∈ state :: past, Prepared tree r state') →
      EndsWell tree r (Replacing.run r broken rest (state :: past) next)) :
    EndsWell tree r (Replacing.run r broken (s :: rest) past state) := by
  have hpast' : ∀ state' ∈ state :: past, Prepared tree r state' :=
    List.forall_mem_cons.mpr ⟨h, hpast⟩
  rcases run_cons_cases r broken s rest past state with
    ⟨next, hstep, hrun⟩ | ⟨next, e, hstops, hrun⟩
  · rw [hrun]
    exact hrest next hstep hpast'
  · obtain ⟨hnext, he⟩ := h.stops hstops
    rw [hrun]
    exact ⟨List.forall_mem_cons.mpr ⟨hnext, hpast'⟩, temporary_cleaned next,
      .inr ⟨e, rfl, he, hnext.grown_cleaned⟩⟩

/-- The last step, once the temporary file holds the content. -/
theorem endsWell_move (hpast : ∀ state ∈ past, Prepared tree r state) (h : Prepared tree r state)
    {place : Place} (ht : state.temporary = some place)
    (hwritten : state.tree.entry? place = some (.file r.content)) :
    EndsWell tree r (Replacing.run r broken [.move] past state) := by
  refine endsWell_cons hpast h fun next hstep hpast' => ?_
  rcases step_move_cases (r := r) ht with ⟨tree', hrename, hmove⟩ | ⟨fault, hmove⟩
  · rw [hmove] at hstep
    cases hstep
    exact ⟨hpast', rfl, .inl ⟨rfl, h.rename ht hwritten hrename⟩⟩
  · rw [hmove] at hstep
    cases hstep

/-- The steps from the writing on, once there is a temporary file. -/
theorem endsWell_write (hpast : ∀ state ∈ past, Prepared tree r state)
    (h : Prepared tree r state) {place : Place} (ht : state.temporary = some place) :
    EndsWell tree r (Replacing.run r broken [.write, .sync, .move] past state) := by
  refine endsWell_cons hpast h fun written hwrite hpast' => ?_
  have hplace := h.temporary_ne_nil ht
  have hwritten := h.write ht r.content
  rw [step_write ht] at hwrite
  cases hwrite
  refine endsWell_cons hpast' hwritten fun synced hsync hpast'' => ?_
  rw [step_sync] at hsync
  cases hsync
  exact endsWell_move hpast'' hwritten rfl (entry?_set_self _ _ hplace)

/-- A run of all steps ends well, whichever of them are broken. -/
theorem endsWell_replaceSteps (tree : FileTree) (r : Replacement)
    (broken : ReplaceStep → Option StepFault) :
    EndsWell tree r (Replacing.run r broken replaceSteps [] ⟨tree, none⟩) := by
  have hstart := Prepared.start tree r
  refine endsWell_cons nofun hstart fun made hmade hpast => ?_
  have hgrown := hstart.grow (grown_ensureDir tree r.cwd r.dir)
  rw [step_findDir, Prod.mk.injEq] at hmade
  obtain ⟨rfl, -⟩ := hmade
  refine endsWell_cons hpast hgrown fun next hnext hpast' => ?_
  rcases step_makeTemporary_cases r _ with ⟨place, hunused, hname, hmake⟩ | ⟨fault, hmake⟩
  · rw [hmake] at hnext
    cases hnext
    exact endsWell_write hpast' (hgrown.make rfl hunused hname .empty) rfl
  · rw [hmake, Prod.mk.injEq] at hnext
    cases hnext.2

end Run

/-- No text can be written up to its last byte, as on a disk that is full. -/
def noSpace (step : ReplaceStep) : Option StepFault :=
  if step = .write then some ⟨.os 28, 1⟩ else none

/-- A replacement on a disk is a run of all steps, of which the disk may stop some. -/
theorem replaceFile_eq (disk : Disk) (cwd : Place) (path : String) (content : ByteArray) :
    disk.replaceFile cwd path content =
      let run := Replacing.run ⟨cwd, path, content⟩ (disk.stops path) replaceSteps []
        ⟨disk.files, none⟩
      ({ disk with files := run.2.1.tree }, run.2.2) :=
  rfl

/-- What a replacement of a file leaves behind: the path leads to the content, or an error of the
file system is reported. No other file is touched in either case, and none is added. -/
theorem replaceFile_cases (disk : Disk) (cwd : Place) (path : String) (content : ByteArray) :
    (∃ tree target, disk.replaceFile cwd path content = ({ disk with files := tree }, .ok ()) ∧
      fileAt? tree cwd path = some (target, content) ∧
      ∀ p ≠ target, GrownAt disk.files tree p) ∨
    ∃ tree e, disk.replaceFile cwd path content = ({ disk with files := tree }, .error e) ∧
      IsFileError e ∧ Grown disk.files tree := by
  have hends := endsWell_replaceSteps disk.files ⟨cwd, path, content⟩ (disk.stops path)
  rw [replaceFile_eq]
  rcases hrun : Replacing.run ⟨cwd, path, content⟩ (disk.stops path) replaceSteps []
    ⟨disk.files, none⟩ with ⟨past, last, result⟩
  rw [hrun] at hends
  rcases hends.last with ⟨rfl, target, hat, hgrown⟩ | ⟨e, rfl, he, hgrown⟩
  · exact .inl ⟨last.tree, target, rfl, hat, hgrown⟩
  · exact .inr ⟨last.tree, e, rfl, he, hgrown⟩

end ModBuild.Proofs.Files
