import ModBuild.Proofs.Files.Parents

/-!
# `ModBuild.Proofs.Files.Atomic`: a file is replaced as a whole

Whoever looks at a file while it is replaced finds its old content or all of the new one. This holds
after each step and in the middle of one, wherever a replacement fails. The theorems:

* `namedPlace?` is the place at the end of a path, told from the path alone, and
  `not_on_the_way` says that a path without `..` does not meet it on the way there.
* `IsWhole` is what holds at each moment, and `isWhole_of_prepared` has it from the steps.
* `IsWhole.read_cases` and `IsWhole.stays` say what a reader finds.
* `replaced_as_whole`: all moments of a replacement, and what it leaves behind at its end.

A path with `..` can run through its own end: `a/b/../b` needs a directory `b` to be there, in order
to leave it again. The first step makes it, and so the last one fails.
-/

set_option autoImplicit false

namespace ModBuild.Proofs.Files

open ModBuild ModBuild.FileTree

/-! ### The place that a path names -/

/-- The place at the end of a path, if the path ends in a name. Whether anything stands there, or on
the way there, does not matter. -/
def namedPlace? (cwd : Place) (path : String) : Option Place :=
  match aim (startOf cwd path) (Path.parts path) with
  | (dir, .name name) => some (dir ++ [name])
  | _ => none

/-- The place that a path names is its last name, in the directory that the names in front lead to.
-/
theorem namedPlace?_eq_some_iff {cwd place : Place} {path : String} :
    namedPlace? cwd path = some place ↔
      ∃ dir name, aim (startOf cwd path) (Path.parts path) = (dir, .name name) ∧
        place = dir ++ [name] := by
  unfold namedPlace?
  constructor
  · intro h
    split at h
    · rename_i dir name haim
      cases h
      exact ⟨dir, name, haim, rfl⟩
    · cases h
  · rintro ⟨dir, name, haim, rfl⟩
    simp only [haim]

/-- A file that a path leads to stands at the place that the path names. -/
theorem namedPlace?_of_fileAt? {tree : FileTree} {cwd place : Place} {path : String}
    {content : ByteArray} (h : fileAt? tree cwd path = some (place, content)) :
    namedPlace? cwd path = some place := by
  obtain ⟨dir, name, hlocate, -, rfl⟩ := fileAt?_eq_some_iff.mp h
  exact namedPlace?_eq_some_iff.mpr ⟨dir, name, aim_of_walk (walk_of_locate hlocate), rfl⟩

/-- The place that a replacement is about has the name of the file. -/
theorem getLast?_of_namedPlace? {r : Replacement} {place : Place}
    (h : namedPlace? r.cwd r.path = some place) : place.getLast? = r.name? := by
  obtain ⟨dir, name, haim, rfl⟩ := namedPlace?_eq_some_iff.mp h
  rw [List.getLast?_concat, Replacement.name?, (getLast?_of_aim haim).1]

/-! ### Paths that meet their own end on the way -/

/-- Without `..` a walk goes down. The places that it meets are no deeper than it has names. -/
theorem length_of_mem_met {dir p : Place} {names : List String} (hup : ".." ∉ names)
    (hp : p ∈ met dir names) : p.length ≤ dir.length + (names.filter (· ≠ ".")).length := by
  fun_induction met dir names with
  | case1 => cases hp
  | case2 dir rest ih =>
    simpa using ih (fun h => hup (List.mem_cons_of_mem _ h)) hp
  | case3 => exact absurd List.mem_cons_self hup
  | case4 dir name rest hdot hdots ih =>
    have hkept : name ≠ "." := hdot
    rw [List.filter_cons_of_pos (by simpa using hkept), List.length_cons]
    rcases List.mem_cons.mp hp with rfl | hp
    · simp only [List.length_append, List.length_singleton]
      omega
    · have hle := ih (fun h => hup (List.mem_cons_of_mem _ h)) hp
      simp only [List.length_append, List.length_singleton] at hle
      omega

/-- Without `..` the names aim at a place that is as deep as there are names. -/
theorem length_of_aim {dir dir' : Place} {names : List String} {name : String}
    (hup : ".." ∉ names) (h : aim dir names = (dir', .name name)) :
    dir'.length + 1 = dir.length + (names.filter (· ≠ ".")).length := by
  fun_induction aim dir names with
  | case1 | case2 | case3 => cases h
  | case4 dir name hdot hdots =>
    cases h
    have hkept : name ≠ "." := hdot
    simp [hkept]
  | case5 dir rest hrest ih =>
    simpa using ih (fun h => hup (List.mem_cons_of_mem _ h)) h
  | case6 => exact absurd List.mem_cons_self hup
  | case7 dir name rest h1 h2 h3 h4 h5 ih =>
    have hkept : name ≠ "." := h4
    have hlength := ih (fun h => hup (List.mem_cons_of_mem _ h)) h
    rw [List.filter_cons_of_pos (by simpa using hkept), List.length_cons]
    simp only [List.length_append, List.length_singleton] at hlength
    omega

/-- A path without `..` does not run through its own end. -/
theorem not_on_the_way {cwd place : Place} {path : String} (h : namedPlace? cwd path = some place)
    (hup : ".." ∉ Path.parts path) : place ∉ parentPlaces cwd path := by
  obtain ⟨dir, name, haim, rfl⟩ := namedPlace?_eq_some_iff.mp h
  obtain ⟨hlast, hname⟩ := getLast?_of_aim haim
  have hdepth := length_of_aim hup haim
  intro hmem
  unfold parentPlaces Replacement.dir at hmem
  simp only at hmem
  split at hmem
  · cases hmem
  · cases hmem
  · rename_i above habove hparent
    obtain ⟨more, hmore, hparts⟩ := parts_of_parent? hparent
    rw [← hparts] at hup hlast hdepth
    have hle := length_of_mem_met (fun h => hup (List.mem_append_left _ h)) hmem
    have hstart : startOf cwd above = startOf cwd path := by
      rw [startOf, startOf, isAbsolute_of_parent? hparent]
    -- The names behind the directory above hold the last one, which leads further down.
    have hdown : name ∈ more.filter (· ≠ ".") := by
      rw [List.getLast?_append_of_ne_nil _ hmore] at hlast
      exact List.mem_filter.mpr ⟨List.mem_of_getLast? hlast, by simpa using hname⟩
    have hpos := List.length_pos_of_mem hdown
    rw [hstart] at hle
    simp only [List.filter_append, List.length_append, List.length_singleton] at hdepth hle
    omega

/-- So a path without `..` keeps what was at its end, even if that was nothing. -/
theorem KeptAt.unchanged {tree tree' : FileTree} {cwd p : Place} {path : String}
    (h : KeptAt tree cwd path tree' p) (hp : namedPlace? cwd path = some p)
    (hup : ".." ∉ Path.parts path) : tree'.entry? p = tree.entry? p := by
  rcases h with hsame | ⟨halong, -⟩
  · exact hsame
  · exact absurd halong (not_on_the_way hp hup)

/-! ### Each moment -/

/-- What holds at each moment of a replacement. The place that the path names has the new content,
or is as it was. A temporary file is a new one, beside that place. All other places are as they
were. Directories that were missing on the way to the file may be there at any moment. -/
structure IsWhole (tree : FileTree) (r : Replacement) (state : Replacing) : Prop where
  target : ∀ p, namedPlace? r.cwd r.path = some p →
    state.tree.entry? p = some (.file r.content) ∨ KeptAt tree r.cwd r.path state.tree p
  temporary : ∀ p, state.temporary = some p →
    tree.entry? p = none ∧ namedPlace? r.cwd r.path ≠ some p
  others : ∀ p, namedPlace? r.cwd r.path ≠ some p → state.temporary ≠ some p →
    KeptAt tree r.cwd r.path state.tree p

section Moments

variable {tree : FileTree} {r : Replacement} {state : Replacing}

/-- Before the last step nothing has happened at the target. -/
theorem isWhole_of_prepared (h : Prepared tree r state) (hmade : MadeOnTheWay tree r state) :
    IsWhole tree r state := by
  -- The temporary file has another name than the place that the path names.
  have hapart : ∀ p, state.temporary = some p → namedPlace? r.cwd r.path ≠ some p := by
    intro p ht hnamed
    exact h.apart p ht (getLast?_of_namedPlace? hnamed)
  refine ⟨fun p hnamed => ?_, fun p ht => ?_, fun p _ ht => ?_⟩
  · exact .inr (hmade.keptAt (h.grownAt fun ht => hapart p ht hnamed))
  · exact ⟨(h.entry?_temporary ht).1, hapart p ht⟩
  · exact hmade.keptAt (h.grownAt ht)

/-- At the end either the new content is where the path leads, or nothing has happened there. -/
theorem isWhole_of_endsWell {run : List Replacing × Replacing × Except BuildError Unit}
    (h : EndsWell tree r run) (hmade : MadeOnTheWay tree r run.2.1) :
    IsWhole tree r run.2.1 := by
  have hfree : ∀ p, run.2.1.temporary ≠ some p := by
    intro p ht
    rw [h.temporary] at ht
    cases ht
  cases hresult : run.2.2 with
  | ok =>
    obtain ⟨target, hat, hgrown⟩ := h.replaced hresult
    have hnamed := namedPlace?_of_fileAt? hat
    refine ⟨fun p hp => ?_, fun p ht => absurd ht (hfree p), fun p hp _ => ?_⟩
    · obtain rfl := Option.some.inj (hnamed.symm.trans hp)
      exact .inl (entry?_of_fileAt? hat)
    · exact hmade.keptAt (hgrown p fun heq => hp (heq ▸ hnamed))
  | error e =>
    have hkept : ∀ p, KeptAt tree r.cwd r.path run.2.1.tree p :=
      fun p => hmade.keptAt ((h.grown hresult).2 p)
    exact ⟨fun p _ => .inr (hkept p), fun p ht => absurd ht (hfree p), fun p _ _ => hkept p⟩

/-- A reader finds the new content, or what was at the place that the path names. -/
theorem IsWhole.read_cases (h : IsWhole tree r state) {bytes : ByteArray}
    (hread : state.tree.read r.cwd r.path = .ok bytes) :
    bytes = r.content ∨
      ∃ p, namedPlace? r.cwd r.path = some p ∧ tree.entry? p = some (.file bytes) := by
  -- What a reader finds is at the place that the path names, and nowhere else.
  obtain ⟨place, hat⟩ := fileAt?_of_read hread
  have hnamed := namedPlace?_of_fileAt? hat
  have hentry := entry?_of_fileAt? hat
  rcases h.target place hnamed with hnew | hsame | ⟨-, -, hdir⟩
  · rw [hnew] at hentry
    cases hentry
    exact .inl rfl
  · exact .inr ⟨place, hnamed, hsame ▸ hentry⟩
  · rw [hdir] at hentry
    cases hentry

/-- A directory is replaced by nothing. -/
theorem IsWhole.dirsKept (h : IsWhole tree r state) {old : Place × ByteArray}
    (hat : fileAt? tree r.cwd r.path = some old) : DirsKept tree state.tree := by
  obtain ⟨place, content⟩ := old
  have hnamed := namedPlace?_of_fileAt? hat
  intro p hp
  -- At the place of the file stands no directory, and at that of the temporary file stood nothing.
  have hne : place ≠ p := by
    rintro rfl
    rw [entry?_of_fileAt? hat] at hp
    cases hp
  have htemporary : state.temporary ≠ some p := by
    intro ht
    rw [(h.temporary p ht).1] at hp
    cases hp
  have hkept := h.others p (fun hp' => hne (Option.some.inj (hnamed.symm.trans hp'))) htemporary
  rcases hkept with hsame | ⟨-, hnone, -⟩
  · rw [hsame, hp]
  · rw [hnone] at hp
    cases hp

/-- A file that was there is there at each moment, with its old content or the new one. -/
theorem IsWhole.stays (h : IsWhole tree r state) {place : Place} {old : ByteArray}
    (hat : fileAt? tree r.cwd r.path = some (place, old)) :
    fileAt? state.tree r.cwd r.path = some (place, old) ∨
      fileAt? state.tree r.cwd r.path = some (place, r.content) := by
  have hentry := entry?_of_fileAt? hat
  obtain ⟨dir, name, hlocate, hchild, rfl⟩ := fileAt?_eq_some_iff.mp hat
  have hlocate' := locate_of_dirsKept (h.dirsKept hat) hlocate
  have hsize := (child_eq_ok_iff.mp hchild).1
  -- The path still leads to the same place, where one of the two stands.
  have hfound : ∀ content, state.tree.entry? (dir ++ [name]) = some (.file content) →
      fileAt? state.tree r.cwd r.path = some (dir ++ [name], content) :=
    fun content hcontent => fileAt?_eq_some_iff.mpr
      ⟨dir, name, hlocate', child_eq_ok_iff.mpr ⟨hsize, hcontent⟩, rfl⟩
  rcases h.target _ (namedPlace?_of_fileAt? hat) with hnew | hsame | ⟨-, hnone, -⟩
  · exact .inr (hfound _ hnew)
  · exact .inl (hfound _ (hsame.trans hentry))
  · rw [hnone] at hentry
    cases hentry

end Moments

/-! ### A whole replacement -/

/-- How a replacement looks from outside. It is whole at each moment, the one at its end included,
and it leaves no temporary file. If it succeeds then the path leads to the content, and otherwise an
error of the file system is reported and no file has changed. A path without `..` keeps what was at
its end, even if that was nothing. -/
structure ReplacedAsWhole (tree : FileTree) (r : Replacement)
    (run : List Replacing × Replacing × Except BuildError Unit) : Prop where
  whole : ∀ state ∈ run.2.1 :: run.1, IsWhole tree r state
  read_cases : ∀ state ∈ run.2.1 :: run.1, ∀ bytes,
    state.tree.read r.cwd r.path = .ok bytes → bytes = r.content ∨
      ∃ p, namedPlace? r.cwd r.path = some p ∧ tree.entry? p = some (.file bytes)
  stays : ∀ state ∈ run.2.1 :: run.1, ∀ place old,
    fileAt? tree r.cwd r.path = some (place, old) →
      fileAt? state.tree r.cwd r.path = some (place, old) ∨
        fileAt? state.tree r.cwd r.path = some (place, r.content)
  temporary : run.2.1.temporary = none
  success : run.2.2 = .ok () → ∃ p, namedPlace? r.cwd r.path = some p ∧
    fileAt? run.2.1.tree r.cwd r.path = some (p, r.content)
  readBack : run.2.2 = .ok () → ∀ text : String, r.content = text.toUTF8 →
    run.2.1.tree.readText r.cwd r.path = .ok text
  failure : ∀ e, run.2.2 = .error e →
    IsFileError e ∧ ∀ p, KeptAt tree r.cwd r.path run.2.1.tree p
  straight : ".." ∉ Path.parts r.path → ∀ p, namedPlace? r.cwd r.path = some p →
    (∀ state ∈ run.2.1 :: run.1, state.tree.entry? p = some (.file r.content) ∨
      state.tree.entry? p = tree.entry? p) ∧
    ∀ e, run.2.2 = .error e → run.2.1.tree.entry? p = tree.entry? p

/-- A run of all steps replaces the file as a whole, whichever of them are broken and wherever they
stop. -/
theorem replaced_as_whole (tree : FileTree) (r : Replacement)
    (broken : ReplaceStep → Option StepFault) :
    ReplacedAsWhole tree r (Replacing.run r broken replaceSteps [] ⟨tree, none⟩) := by
  have hends := endsWell_replaceSteps tree r broken
  obtain ⟨hpast, hlast⟩ := made_of_replaceSteps tree r broken
  -- From here on only what the run keeps of the tree matters, not its steps.
  generalize Replacing.run r broken replaceSteps [] ⟨tree, none⟩ = run at hends hpast hlast ⊢
  have hwhole : ∀ state ∈ run.2.1 :: run.1, IsWhole tree r state := by
    refine List.forall_mem_cons.mpr ⟨isWhole_of_endsWell hends hlast, fun state hstate => ?_⟩
    exact isWhole_of_prepared (hends.past state hstate) (hpast state hstate)
  have hfailed : ∀ e, run.2.2 = .error e →
      IsFileError e ∧ ∀ p, KeptAt tree r.cwd r.path run.2.1.tree p := by
    intro e he
    obtain ⟨hfault, hgrown⟩ := hends.grown he
    exact ⟨hfault, fun p => hlast.keptAt (hgrown p)⟩
  exact {
    whole := hwhole
    read_cases := fun state hstate _ => (hwhole state hstate).read_cases
    stays := fun state hstate _ _ => (hwhole state hstate).stays
    temporary := hends.temporary
    success := by
      intro hok
      obtain ⟨target, hat, -⟩ := hends.replaced hok
      exact ⟨target, namedPlace?_of_fileAt? hat, hat⟩
    readBack := by
      intro hok text htext
      obtain ⟨target, hat, -⟩ := hends.replaced hok
      exact readText_of_fileAt? (htext ▸ hat)
    failure := hfailed
    -- Without a step up on the way, no directory was made for nothing.
    straight := by
      intro hup p hp
      refine ⟨fun state hstate => ?_, fun e he => ?_⟩
      · exact ((hwhole state hstate).target p hp).imp_right fun h => h.unchanged hp hup
      · exact ((hfailed e he).2 p).unchanged hp hup }

/-- A file in a directory. -/
def oldFile : FileTree :=
  ⟨[(["d"], .directory), (["d", "x"], .file "old".toUTF8)]⟩

/-- A replacement of the file. -/
def newContent : Replacement :=
  ⟨[], "d/x", "new".toUTF8⟩

/-- If nothing is in the way, the file is replaced and can be read. If the disk is full, the
replacement fails and leaves the old content and no temporary file. -/
theorem replaced_oldFile :
    ((Replacing.run newContent (fun _ => none) replaceSteps [] ⟨oldFile, none⟩).2.2 = .ok () ∧
      FileTree.readText (Replacing.run newContent (fun _ => none) replaceSteps []
        ⟨oldFile, none⟩).2.1.tree [] "d/x" = .ok "new") ∧
    (Replacing.run newContent noSpace replaceSteps [] ⟨oldFile, none⟩).2.2 =
      .error (.fileSystem "write temp file" "d/.tmp0" (.os 28)) ∧
    FileTree.entry? (Replacing.run newContent noSpace replaceSteps [] ⟨oldFile, none⟩).2.1.tree
      ["d", "x"] = some (.file "old".toUTF8) ∧
    (Replacing.run newContent noSpace replaceSteps [] ⟨oldFile, none⟩).2.1.temporary = none := by
  have hok : (Replacing.run newContent (fun _ => none) replaceSteps []
      ⟨oldFile, none⟩).2.2 = .ok () := by rfl
  have hwhole := replaced_as_whole oldFile newContent fun _ => none
  have hfull : (Replacing.run newContent noSpace replaceSteps [] ⟨oldFile, none⟩).2.2 =
      .error (.fileSystem "write temp file" "d/.tmp0" (.os 28)) := by decide +kernel
  have hwhole' := replaced_as_whole oldFile newContent noSpace
  obtain ⟨-, hunchanged⟩ := hwhole'.straight (by decide +kernel) ["d", "x"] (by decide +kernel)
  exact ⟨⟨hok, hwhole.readBack hok "new" rfl⟩, hfull, hunchanged _ hfull, hwhole'.temporary⟩

/-- On a full disk the temporary file holds the bytes in front of the last one, and it goes. -/
example :
    let (past, last, _) := Replacing.run newContent noSpace replaceSteps [] ⟨oldFile, none⟩
    past.head?.map (·.tree.entries) =
        some ((["d", ".tmp0"], .file "ne".toUTF8) :: oldFile.entries) ∧
      last.tree.entries = oldFile.entries := by
  decide +kernel

/-- A path with `..` that runs through its own end. Nothing was there, and the replacement fails,
but then there is a directory. -/
theorem directory_at_target :
    namedPlace? [] "a/b/../b" = some ["a", "b"] ∧
    FileTree.entry? ⟨[(["a"], .directory)]⟩ ["a", "b"] = none ∧
    (FileTree.replaceFile ⟨[(["a"], .directory)]⟩ [] "a/b/../b" "x".toUTF8).2 =
      .error (.fileSystem "replace file" "a/b/../b" (.os Errno.isDirectory)) ∧
    FileTree.entry? (FileTree.replaceFile ⟨[(["a"], .directory)]⟩ [] "a/b/../b" "x".toUTF8).1
      ["a", "b"] = some .directory := by
  refine ⟨by decide +kernel, by decide +kernel, by rfl, by decide +kernel⟩

end ModBuild.Proofs.Files
