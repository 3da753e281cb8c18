import Mathlib.Data.List.Infix
import Mathlib.Data.List.TakeWhile
import ModBuild.Proofs.Files.Path
import ModBuild.Proofs.Files.Replace

/-!
# `ModBuild.Proofs.Files.Parents`: the directories on the way to a file

A file is written with the directories above it, as far as they are missing. Which directories these
are is a matter of the path alone: a walk along the path meets them. The theorems:

* `parts_of_parent?`: the path of the directory above goes through the first names of a path.
* `made_of_ensureDir`: directories that were made stand on the way along the path.
* `made_of_replaceSteps`: so do those that a replacement makes on the way to its file.
* `changesOnly_replaceFile`: what a replacement changes, told place by place.
-/

set_option autoImplicit false

namespace ModBuild.Proofs.Files

open ModBuild ModBuild.FileTree

/-! ### Words between cuts -/

section Cut

variable {isCut : Char → Bool}

/-- A character at which a text is not cut belongs to the first word. -/
theorem cutAt_cons_of_uncut {c : Char} (hc : isCut c = false) (s : List Char) :
    ∃ word words, Text.cutAt isCut s = word :: words ∧
      Text.cutAt isCut (c :: s) = (c :: word) :: words := by
  have hsplit := List.takeWhile_append_dropWhile (p := fun d => !isCut d) (l := s)
  have hword : ∀ d ∈ s.takeWhile (fun d => !isCut d), isCut d = false := by
    intro d hd
    simpa using List.mem_takeWhile_imp hd
  have hword' : ∀ d ∈ c :: s.takeWhile (fun d => !isCut d), isCut d = false :=
    List.forall_mem_cons.mpr ⟨hc, hword⟩
  -- The word ends where the text does, or at the first place to cut.
  cases hrest : s.dropWhile (fun d => !isCut d) with
  | nil =>
    rw [hrest, List.append_nil] at hsplit
    refine ⟨s, [], ?_, ?_⟩
    · rw [← hsplit]
      exact cutAt_of_uncut hword
    · rw [← hsplit]
      exact cutAt_of_uncut hword'
  | cons d rest =>
    have hd : isCut d = true := by
      have hhead := List.head?_dropWhile_not (fun d => !isCut d) s
      rw [hrest] at hhead
      simpa using hhead
    rw [hrest] at hsplit
    refine ⟨s.takeWhile (fun d => !isCut d), Text.cutAt isCut rest, ?_, ?_⟩
    · conv => lhs; rw [← hsplit]
      rw [cutAt_append hd, cutAt_of_uncut hword, List.singleton_append]
    · conv => lhs; rw [← hsplit]
      rw [← List.cons_append, cutAt_append hd, cutAt_of_uncut hword', List.singleton_append]

/-- No word holds a place to cut. -/
theorem uncut_of_mem_cutAt {s word : List Char} (h : word ∈ Text.cutAt isCut s) :
    ∀ c ∈ word, isCut c = false := by
  induction s generalizing word with
  | nil =>
    have hempty : Text.cutAt isCut [] = [[]] := cutAt_of_uncut nofun
    rw [hempty, List.mem_singleton] at h
    rw [h]
    nofun
  -- A place to cut starts a new word, and any other character joins the first one.
  | cons c s ih =>
    cases hc : isCut c with
    | true =>
      rw [← List.nil_append (c :: s), cutAt_append hc, cutAt_of_uncut (s := []) nofun,
        List.singleton_append] at h
      rcases List.mem_cons.mp h with rfl | h
      · nofun
      · exact ih h
    | false =>
      obtain ⟨first, words, hs, hcut⟩ := cutAt_cons_of_uncut hc s
      rw [hcut] at h
      rw [hs] at ih
      rcases List.mem_cons.mp h with rfl | h
      · exact List.forall_mem_cons.mpr ⟨hc, ih List.mem_cons_self⟩
      · exact ih (List.mem_cons_of_mem _ h)

/-- Words put together are cut into these words. -/
theorem cutAt_intercalate {c : Char} (hc : isCut c = true) {words : List (List Char)}
    (hne : words ≠ []) (h : ∀ word ∈ words, ∀ d ∈ word, isCut d = false) :
    Text.cutAt isCut ([c].intercalate words) = words := by
  induction words with
  | nil => exact absurd rfl hne
  | cons word rest ih =>
    obtain ⟨hword, hrest⟩ := List.forall_mem_cons.mp h
    cases rest with
    | nil => rw [List.intercalate_singleton, cutAt_of_uncut hword]
    | cons other rest =>
      rw [List.intercalate_cons_cons, List.append_assoc, List.singleton_append, cutAt_append hc,
        cutAt_of_uncut hword, ih (by simp) hrest, List.singleton_append]

end Cut

/-! ### The path of the directory above -/

/-- Idle segments are dropped from the end of a path. -/
theorem dropIdle_suffix (isRelative : Bool) (segments : List (List Char)) :
    Path.dropIdle isRelative segments <:+ segments := by
  fun_induction Path.dropIdle isRelative segments with
  | case1 => exact List.suffix_refl []
  | case2 segment before hidle ih => exact ih.trans (List.suffix_cons segment before)
  | case3 => exact List.suffix_refl _

/-- The last segment that is not idle has a character. -/
theorem dropIdle_head {isRelative : Bool} {segments before : List (List Char)} {last : List Char}
    (h : Path.dropIdle isRelative segments = last :: before) : last ≠ [] := by
  fun_induction Path.dropIdle isRelative segments with
  | case1 => cases h
  | case2 segment before hidle ih => exact ih h
  | case3 segment before hidle =>
    cases h
    rintro rfl
    simp at hidle

/-- The directory above has some of the first segments of a path. The rest of them hold a name. -/
theorem kept_of_parent? {path above : String} (h : Path.parent? path = some above) :
    ∃ kept more, kept ++ more = Path.segments path ∧ (∃ name ∈ more, name ≠ []) ∧
      above.toList = (if Path.isAbsolute path then ['/'] else []) ++ ['/'].intercalate kept := by
  unfold Path.parent? at h
  simp only at h
  split at h
  · cases h
  · rename_i last before hdrop
    -- From the end of the path, idle segments, a name and idle segments again were dropped.
    have hfirst := dropIdle_suffix (!Path.isAbsolute path) (Path.segments path).reverse
    have hlast := dropIdle_head hdrop
    rw [hdrop] at hfirst
    obtain ⟨idle, hidle⟩ := hfirst
    obtain ⟨idle', hidle'⟩ := dropIdle_suffix (!Path.isAbsolute path) before
    refine ⟨(Path.dropIdle (!Path.isAbsolute path) before).reverse,
      idle'.reverse ++ [last] ++ idle.reverse, ?_, ⟨last, by simp, hlast⟩, ?_⟩
    · rw [← hidle'] at hidle
      rw [← List.reverse_reverse (Path.segments path), ← hidle]
      simp
    · obtain rfl := Option.some.inj h
      cases Path.isAbsolute path with
      | true => simp [String.toList_append, String.toList_intercalate, Function.comp_def]
      | false => simp [String.toList_intercalate, Function.comp_def]

/-- A path starts at the root exactly if the path of the directory above does. -/
theorem isAbsolute_of_parent? {path above : String} (h : Path.parent? path = some above) :
    Path.isAbsolute above = Path.isAbsolute path := by
  obtain ⟨kept, more, hsplit, ⟨last, hlast, hne⟩, htext⟩ := kept_of_parent? h
  cases habsolute : Path.isAbsolute path with
  | true =>
    rw [habsolute] at htext
    simp [Path.isAbsolute, htext]
  | false =>
    rw [habsolute] at htext
    -- The first segment of a relative path has a character, which is no slash.
    unfold Path.isAbsolute
    rw [htext]
    cases kept with
    | nil => rfl
    | cons first rest =>
      have hsegments : Path.segments path = Text.cutAt (· = '/') path.toList := by
        simp [Path.segments, habsolute]
      cases hpath : path.toList with
      | nil =>
        have hempty : Text.cutAt (· = '/') [] = [[]] := cutAt_of_uncut nofun
        rw [hsegments, hpath, hempty] at hsplit
        have hmem : last ∈ [[]] := hsplit ▸ List.mem_append_right _ hlast
        exact absurd (List.mem_singleton.mp hmem) hne
      | cons c s =>
        have hc : decide (c = '/') = false := by
          rw [Path.isAbsolute, hpath] at habsolute
          simpa using habsolute
        have hword : ∃ word words, Text.cutAt (· = '/') s = word :: words ∧
            Text.cutAt (· = '/') (c :: s) = (c :: word) :: words := cutAt_cons_of_uncut hc s
        obtain ⟨word, words, -, hcut⟩ := hword
        rw [hsegments, hpath, hcut] at hsplit
        have hfirst : first = c :: word := (List.cons.inj hsplit).1
        have hslash : c ≠ '/' := by simpa using hc
        cases rest <;> simp [hfirst, hslash]

/-- The path of the directory above goes through the first names of a path, but not all. -/
theorem parts_of_parent? {path above : String} (h : Path.parent? path = some above) :
    ∃ more, more ≠ [] ∧ Path.parts above ++ more = Path.parts path := by
  obtain ⟨kept, more, hsplit, ⟨last, hlast, hne⟩, htext⟩ := kept_of_parent? h
  have hslash : decide ('/' = '/') = true := rfl
  have huncut : ∀ word ∈ kept, ∀ c ∈ word, decide (c = '/') = false := by
    intro word hword
    exact uncut_of_mem_cutAt (hsplit ▸ List.mem_append_left more hword)
  have hsegments : Path.segments above = Text.cutAt (· = '/') (['/'].intercalate kept) := by
    unfold Path.segments
    rw [isAbsolute_of_parent? h, htext]
    cases Path.isAbsolute path <;> simp
  -- Without any segment left, the path of the directory is empty and has no names either.
  have hnames : (Path.segments above).filter (· ≠ []) = kept.filter (· ≠ []) := by
    rw [hsegments]
    cases kept with
    | nil =>
      rw [List.intercalate_nil, cutAt_of_uncut (s := []) nofun]
      rfl
    | cons first rest =>
      have hwords : Text.cutAt (· = '/') (['/'].intercalate (first :: rest)) = first :: rest :=
        cutAt_intercalate hslash (List.cons_ne_nil _ _) huncut
      rw [hwords]
  refine ⟨(more.filter (· ≠ [])).map String.ofList, ?_, ?_⟩
  · simpa using ⟨last, hlast, hne⟩
  · unfold Path.parts
    rw [hnames, ← hsplit, List.filter_append, List.map_append]

/-! ### The places on the way -/

/-- A walk along more names meets the same places first. -/
theorem met_append (dir : Place) (names more : List String) :
    met dir names <+: met dir (names ++ more) := by
  fun_induction met dir names with
  | case1 dir => exact List.nil_prefix
  | case2 dir rest ih =>
    rw [List.cons_append, met]
    exact ih
  | case3 dir rest ih =>
    rw [List.cons_append, met]
    exact ih
  | case4 dir name rest hdot hdots ih =>
    rw [List.cons_append, met]
    · exact List.prefix_cons_inj _ |>.mpr ih
    · exact hdot
    · exact hdots

/-- What is on the way to the directory above is on the way along the path. -/
theorem placesAlong_of_parent? {path above : String} (h : Path.parent? path = some above)
    (cwd : Place) : placesAlong cwd above ⊆ placesAlong cwd path := by
  obtain ⟨more, -, hmore⟩ := parts_of_parent? h
  unfold placesAlong startOf
  rw [isAbsolute_of_parent? h, ← hmore]
  exact (met_append _ _ _).subset

/-- What is on the way to one of the directories above is on the way along the path. -/
theorem placesAlong_of_mem_ancestors (cwd : Place) {path above : String}
    (h : above ∈ Path.ancestors path) : placesAlong cwd above ⊆ placesAlong cwd path := by
  have hclimb : ∀ fuel path, above ∈ Path.ancestors.climb fuel path →
      placesAlong cwd above ⊆ placesAlong cwd path := by
    intro fuel
    induction fuel with
    | zero =>
      intro path h
      cases h
    | succ fuel ih =>
      intro path h
      unfold Path.ancestors.climb at h
      split at h
      · cases h
      · rename_i next hnext
        rcases List.mem_cons.mp h with rfl | h
        · exact List.Subset.refl _
        · exact List.Subset.trans (ih next h) (placesAlong_of_parent? hnext cwd)
  exact hclimb _ path h

/-- The last place that is met is the one that the names aim at. -/
theorem getLast?_met {dir dir' : Place} {names : List String} {name : String}
    (h : aim dir names = (dir', .name name)) : (met dir names).getLast? = some (dir' ++ [name]) := by
  -- The cases in the middle pass over a segment that names nothing, or go one step up.
  fun_induction aim dir names with
  | case1 | case2 | case3 => cases h
  | case4 dir name hdot hdots =>
    cases h
    rw [met, met]
    · rfl
    · exact hdot
    · exact hdots
  | case5 dir rest hrest ih =>
    rw [met]
    exact ih h
  | case6 dir rest hrest ih =>
    rw [met]
    exact ih h
  | case7 dir name rest h1 h2 h3 h4 h5 ih =>
    rw [met, List.getLast?_cons, ih h]
    · rfl
    · exact h4
    · exact h5

/-- The place at the end of a path, if it ends at a name. -/
theorem getLast?_placesAlong {tree : FileTree} {cwd dir : Place} {path name : String}
    {slash : Bool} (h : tree.locate cwd path = .ok ⟨dir, .name name, slash⟩) :
    (placesAlong cwd path).getLast? = some (dir ++ [name]) :=
  getLast?_met (aim_of_walk (walk_of_locate h))

/-! ### Directories that were made -/

section Making

variable {tree tree' : FileTree} {cwd p : Place} {path : String}

/-- A directory that was made stands at the end of the path. -/
theorem made_of_makeDir (h : tree.makeDir cwd path = .ok tree')
    (hp : tree'.entry? p = some .directory) :
    tree.entry? p = some .directory ∨ p ∈ placesAlong cwd path := by
  unfold makeDir at h
  split at h
  · cases h
  · rename_i target hlocate
    obtain ⟨dir, last, slash⟩ := target
    simp only at h
    split at h
    · rename_i name
      split at h
      · cases h
      · cases h
        -- The one place that changed is the end of the path.
        by_cases hplace : p = dir ++ [name]
        · subst hplace
          exact .inr (List.mem_of_getLast? (getLast?_placesAlong hlocate))
        · left
          rwa [entry?_set_of_ne _ _ hplace] at hp
      · cases h
    · cases h

/-- Directories that were made stand on the way along the paths. -/
theorem made_of_makeDirs {paths : List String}
    (hp : FileTree.entry? (makeDirs cwd paths tree).1 p = some .directory) :
    tree.entry? p = some .directory ∨ ∃ path ∈ paths, p ∈ placesAlong cwd path := by
  induction paths generalizing tree with
  | nil => exact .inl hp
  | cons path above ih =>
    have hone : ∀ {tree tree' : FileTree}, tree.makeDir cwd path = .ok tree' →
        tree'.entry? p = some .directory →
        tree.entry? p = some .directory ∨ ∃ path' ∈ path :: above, p ∈ placesAlong cwd path' := by
      intro tree tree' hmake hmade
      exact (made_of_makeDir hmake hmade).imp_right fun h => ⟨path, List.mem_cons_self, h⟩
    have habove : FileTree.entry? (makeDirs cwd above tree).1 p = some .directory → _ := ih
    have hmore : (tree.entry? p = some .directory ∨ ∃ path' ∈ above, p ∈ placesAlong cwd path') →
        tree.entry? p = some .directory ∨ ∃ path' ∈ path :: above, p ∈ placesAlong cwd path' :=
      Or.imp_right fun ⟨path', hmem, h⟩ => ⟨path', List.mem_cons_of_mem _ hmem, h⟩
    unfold makeDirs at hp
    split at hp
    · rename_i hmake
      exact hone hmake hp
    · -- The directories above were made first, and then this one was tried again.
      split at hp
      · rename_i hrest
        rw [hrest] at habove
        exact hmore (habove hp)
      · rename_i hrest
        rw [hrest] at habove
        split at hp
        · rename_i hmake
          rcases hone hmake hp with hkept | hmade
          · exact hmore (habove hkept)
          · exact .inr hmade
        · exact hmore (habove hp)
    · exact .inl hp

/-- Directories that were made stand on the way along the path. -/
theorem made_of_ensureDir (hp : FileTree.entry? (tree.ensureDir cwd path).1 p = some .directory) :
    tree.entry? p = some .directory ∨ p ∈ placesAlong cwd path := by
  have hmade : FileTree.entry? (makeDirs cwd (Path.ancestors path) tree).1 p = some .directory → _ :=
    made_of_makeDirs
  have halong : (∃ above ∈ Path.ancestors path, p ∈ placesAlong cwd above) →
      p ∈ placesAlong cwd path := by
    rintro ⟨above, habove, h⟩
    exact placesAlong_of_mem_ancestors cwd habove h
  unfold ensureDir at hp
  split at hp
  · exact .inl hp
  · exact .inl hp
  · split at hp
    · rename_i hrun
      rw [hrun] at hmade
      exact (hmade hp).imp_right halong
    · rename_i hrun
      rw [hrun] at hmade
      exact (hmade hp).imp_right halong

end Making

/-! ### Directories that a replacement makes -/

section Replacing

variable {r : Replacement} {state next : Replacing} {p : Place}

/-- Where a file is put, no directory is made. -/
theorem made_of_setFile {tree : FileTree} {place : Place} {content : ByteArray}
    (hp : FileTree.entry? (tree.set place (.file content)) p = some .directory) :
    tree.entry? p = some .directory := by
  by_cases hplace : p = place
  · subst hplace
    by_cases hroot : p = []
    · subst hroot
      rfl
    · rw [entry?_set_self _ _ hroot] at hp
      cases hp
  · rwa [entry?_set_of_ne _ _ hplace] at hp

/-- To take an entry away makes no directory. -/
theorem made_of_erase {tree : FileTree} {place : Place}
    (hp : FileTree.entry? (tree.erase place) p = some .directory) :
    tree.entry? p = some .directory := by
  by_cases hplace : p = place
  · subst hplace
    by_cases hroot : p = []
    · subst hroot
      rfl
    · rw [entry?_erase_self _ hroot] at hp
      cases hp
  · rwa [entry?_erase_of_ne _ hplace] at hp

/-- To remove the temporary file makes no directory. -/
theorem made_of_cleaned (hp : state.cleaned.tree.entry? p = some .directory) :
    state.tree.entry? p = some .directory := by
  unfold Replacing.cleaned at hp
  split at hp
  · exact made_of_erase hp
  · exact hp

/-- The directories of the state are those of the tree, and others on the way to the one that the
file stands in. -/
def MadeOnTheWay (tree : FileTree) (r : Replacement) (state : Replacing) : Prop :=
  ∀ p, state.tree.entry? p = some .directory →
    tree.entry? p = some .directory ∨ p ∈ placesAlong r.cwd r.dir

/-- A step makes directories on the way to the one that the file stands in, or none. -/
theorem made_of_step (s : ReplaceStep)
    (hp : (state.step r s).1.tree.entry? p = some .directory) :
    state.tree.entry? p = some .directory ∨ p ∈ placesAlong r.cwd r.dir := by
  -- Only the first step makes directories: the others set a file, or take one away.
  cases s with
  | findDir =>
    rw [step_findDir] at hp
    simp only at hp
    exact made_of_ensureDir hp
  | makeTemporary =>
    left
    rcases step_makeTemporary_cases r state with ⟨place, -, -, hstep⟩ | ⟨fault, hstep⟩
    · rw [hstep] at hp
      exact made_of_setFile hp
    · rw [hstep] at hp
      exact hp
  | write =>
    left
    cases ht : state.temporary with
    | some place =>
      rw [step_write ht] at hp
      exact made_of_setFile hp
    | none =>
      rw [(step_of_noTemporary ht).1] at hp
      exact hp
  | sync =>
    left
    rwa [step_sync] at hp
  | move =>
    left
    cases ht : state.temporary with
    | some place =>
      rcases step_move_cases (r := r) ht with ⟨tree, hrename, hstep⟩ | ⟨fault, hstep⟩
      · obtain ⟨content, dir, name, -, -, -, -, rfl⟩ := rename_ok hrename
        rw [hstep] at hp
        exact made_of_erase (made_of_setFile hp)
      · rw [hstep] at hp
        exact hp
    | none =>
      rw [(step_of_noTemporary ht).2] at hp
      exact hp

/-- So does a step that stops on its way. -/
theorem made_of_stopped (s : ReplaceStep) (left : Nat)
    (hp : (state.stopped r s left).tree.entry? p = some .directory) :
    state.tree.entry? p = some .directory ∨ p ∈ placesAlong r.cwd r.dir := by
  rcases stopped_cases r state s left with hdirs | ⟨place, content, -, hpart⟩ | hsame
  · rw [hdirs] at hp
    refine (made_of_makeDirs hp).imp_right ?_
    rintro ⟨above, habove, halong⟩
    exact placesAlong_of_mem_ancestors r.cwd (List.mem_of_mem_drop habove) halong
  · rw [hpart] at hp
    exact .inl (made_of_setFile hp)
  · rw [hsame] at hp
    exact .inl hp

/-- So does a run of steps, in every state on the way and wherever it stops. -/
theorem made_of_run (broken : ReplaceStep → Option StepFault) (steps : List ReplaceStep)
    {tree : FileTree} {past : List Replacing} (hpast : ∀ state ∈ past, MadeOnTheWay tree r state)
    (hstate : MadeOnTheWay tree r state) :
    (∀ state' ∈ (Replacing.run r broken steps past state).1, MadeOnTheWay tree r state') ∧
      MadeOnTheWay tree r (Replacing.run r broken steps past state).2.1 := by
  induction steps generalizing past state with
  | nil => exact ⟨hpast, hstate⟩
  | cons s rest ih =>
    have hpast' : ∀ state' ∈ state :: past, MadeOnTheWay tree r state' :=
      List.forall_mem_cons.mpr ⟨hstate, hpast⟩
    -- What the next state has more than this one is on the way.
    have hnext : ∀ {next : Replacing}, (∀ p, next.tree.entry? p = some .directory →
        state.tree.entry? p = some .directory ∨ p ∈ placesAlong r.cwd r.dir) →
        MadeOnTheWay tree r next :=
      fun h p hp => (h p hp).elim (hstate p) .inr
    rcases run_cons_cases r broken s rest past state with
      ⟨next, hstep, hrun⟩ | ⟨next, e, hstep | ⟨stop, rfl, -⟩, hrun⟩
    · rw [hrun]
      exact ih hpast' (hnext fun p hp => made_of_step s (by rwa [hstep]))
    · have hmade := hnext fun p hp => made_of_step (r := r) s (by rwa [hstep])
      rw [hrun]
      exact ⟨List.forall_mem_cons.mpr ⟨hmade, hpast'⟩, fun p hp => hmade p (made_of_cleaned hp)⟩
    · have hmade := hnext fun p hp => made_of_stopped (r := r) s stop.left hp
      rw [hrun]
      exact ⟨List.forall_mem_cons.mpr ⟨hmade, hpast'⟩, fun p hp => hmade p (made_of_cleaned hp)⟩

end Replacing

/-! ### What a replacement changes -/

/-- The places of the directories on the way to the file at the end of a path. -/
def parentPlaces (cwd : Place) (path : String) : List Place :=
  placesAlong cwd (Replacement.dir ⟨cwd, path, .empty⟩)

/-- The way to the directory of a file is the way to the file, up to its last step. -/
theorem placesAlong_dir (r : Replacement) :
    placesAlong r.cwd r.dir = parentPlaces r.cwd r.path := by
  unfold parentPlaces Replacement.dir
  rfl

/-- The second tree is the first but for files at the ends of the paths, and for directories on the
way to these files where nothing was. -/
def ChangesOnly (tree : FileTree) (cwd : Place) (paths : List String) (tree' : FileTree) : Prop :=
  ∀ p, tree'.entry? p = tree.entry? p ∨ ∃ path ∈ paths,
    (placesAlong cwd path).getLast? = some p ∧ (∃ content, tree'.entry? p = some (.file content)) ∨
      p ∈ parentPlaces cwd path ∧ tree.entry? p = none ∧ tree'.entry? p = some .directory

namespace ChangesOnly

variable {tree tree' tree'' : FileTree} {cwd : Place} {paths paths' : List String}

/-- Where nothing changes, nothing changes elsewhere. -/
theorem refl (tree : FileTree) (cwd : Place) (paths : List String) :
    ChangesOnly tree cwd paths tree :=
  fun _ => .inl rfl

/-- More paths allow more changes. -/
theorem mono (h : ChangesOnly tree cwd paths tree') (hsub : paths ⊆ paths') :
    ChangesOnly tree cwd paths' tree' :=
  fun p => (h p).imp_right fun ⟨path, hmem, hchange⟩ => ⟨path, hsub hmem, hchange⟩

/-- Two changes at the same paths are one change at these paths. -/
theorem trans (h : ChangesOnly tree cwd paths tree') (h' : ChangesOnly tree' cwd paths tree'') :
    ChangesOnly tree cwd paths tree'' := by
  intro p
  rcases h' p with hsame' | ⟨path', hmem', hfile' | ⟨halong', hnone', hdir'⟩⟩
  · rw [hsame']
    exact h p
  · exact .inr ⟨path', hmem', .inl hfile'⟩
  · -- Nothing stood here between the two, so nothing had been put here.
    rcases h p with hsame | ⟨path, hmem, ⟨-, content, hfile⟩ | ⟨-, -, hdir⟩⟩
    · exact .inr ⟨path', hmem', .inr ⟨halong', hsame ▸ hnone', hdir'⟩⟩
    · rw [hnone'] at hfile
      cases hfile
    · rw [hnone'] at hdir
      cases hdir

end ChangesOnly

/-- At this place stands what stood there, unless a directory was made where nothing was, on the way
to the file at the end of the path. -/
def KeptAt (tree : FileTree) (cwd : Place) (path : String) (tree' : FileTree) (p : Place) : Prop :=
  tree'.entry? p = tree.entry? p ∨
    p ∈ parentPlaces cwd path ∧ tree.entry? p = none ∧ tree'.entry? p = some .directory

/-- Where a directory is new, the path goes through. -/
theorem MadeOnTheWay.keptAt {tree : FileTree} {r : Replacement} {state : Replacing} {p : Place}
    (h : MadeOnTheWay tree r state) (hp : GrownAt tree state.tree p) :
    KeptAt tree r.cwd r.path state.tree p := by
  rcases hp with hsame | ⟨hnone, hdir⟩
  · exact .inl hsame
  · rcases h p hdir with hold | halong
    · rw [hnone] at hold
      cases hold
    · rw [placesAlong_dir] at halong
      exact .inr ⟨halong, hnone, hdir⟩

/-- The directories of all states of a replacement, and of the last one, are those that were there
and others on the way to its file. -/
theorem made_of_replaceSteps (tree : FileTree) (r : Replacement)
    (broken : ReplaceStep → Option StepFault) :
    (∀ state ∈ (Replacing.run r broken replaceSteps [] ⟨tree, none⟩).1,
      MadeOnTheWay tree r state) ∧
      MadeOnTheWay tree r (Replacing.run r broken replaceSteps [] ⟨tree, none⟩).2.1 :=
  made_of_run broken replaceSteps (by simp) fun _ hp => .inl hp

/-- A replacement changes the file at the end of its path and nothing else, but for directories on
the way to it. -/
theorem changesOnly_replaceFile (disk : Disk) (cwd : Place) (path : String)
    (content : ByteArray) :
    ChangesOnly disk.files cwd [path] (disk.replaceFile cwd path content).1.files := by
  have hmade := (made_of_replaceSteps disk.files ⟨cwd, path, content⟩ (disk.stops path)).2
  have hkept : ∀ p, GrownAt disk.files (disk.replaceFile cwd path content).1.files p →
      KeptAt disk.files cwd path (disk.replaceFile cwd path content).1.files p :=
    fun p hp => hmade.keptAt hp
  rcases replaceFile_cases disk cwd path content with
    ⟨tree, target, hreplace, hat, hgrown⟩ | ⟨tree, e, hreplace, -, hgrown⟩
  · rw [hreplace] at hkept ⊢
    intro p
    -- The file stands at the end of the path, and what else is new are directories on the way.
    by_cases hp : p = target
    · subst hp
      obtain ⟨dir, name, hlocate, hchild, rfl⟩ := fileAt?_eq_some_iff.mp hat
      exact .inr ⟨path, List.mem_singleton_self path,
        .inl ⟨getLast?_placesAlong hlocate, content, (child_eq_ok_iff.mp hchild).2⟩⟩
    · exact (hkept p (hgrown p hp)).imp_right fun h => ⟨path, List.mem_singleton_self path, .inr h⟩
  · rw [hreplace] at hkept ⊢
    intro p
    exact (hkept p (hgrown p)).imp_right fun h => ⟨path, List.mem_singleton_self path, .inr h⟩

end ModBuild.Proofs.Files
