import ModBuild.Proofs.Files.Tree

/-!
# `ModBuild.Proofs.Files.Path`: the last name of a path

A path is text, and what it leads to depends on the names between its slashes. The theorems:

* `cutAt_append`: a text is cut on both sides of a place where it is cut.
* `getLast?_parts`: what is behind the last slash is the last name.
* `fileAt?_last`: a file that a path leads to has that name. So paths with different last names
  lead to different files, whatever stands in front.
-/

set_option autoImplicit false

namespace ModBuild.Proofs.Files

open ModBuild ModBuild.FileTree

/-! ### Texts that are cut -/

section Cut

variable {isCut : Char → Bool}

/-- One character more: the word that is being read, last character first, and the words before it,
last word first. -/
def cutStep (isCut : Char → Bool) :
    List Char × List (List Char) → Char → List Char × List (List Char)
  | (word, done), c => if isCut c then ([], word.reverse :: done) else (c :: word, done)

/-- To cut a text is to fold it from the left, with the part that is being read and those in front.
-/
theorem cutAt_eq (isCut : Char → Bool) (s : List Char) :
    Text.cutAt isCut s =
      (s.foldl (cutStep isCut) ([], [])).2.reverse ++
        [(s.foldl (cutStep isCut) ([], [])).1.reverse] := by
  have hstep : Text.cutAt isCut s =
      ((s.foldl (cutStep isCut) ([], [])).1.reverse ::
        (s.foldl (cutStep isCut) ([], [])).2).reverse := rfl
  rw [hstep, List.reverse_cons]

/-- The words that are done stay behind those that follow. -/
theorem foldl_cutStep (isCut : Char → Bool) (s word : List Char) (done : List (List Char)) :
    s.foldl (cutStep isCut) (word, done) =
      ((s.foldl (cutStep isCut) (word, [])).1, (s.foldl (cutStep isCut) (word, [])).2 ++ done) := by
  induction s generalizing word done with
  | nil => simp
  | cons c s ih =>
    simp only [List.foldl_cons, cutStep]
    split
    · rw [ih [] (word.reverse :: done), ih [] [word.reverse], List.append_assoc,
        List.singleton_append]
    · exact ih (c :: word) done

/-- A text is cut on both sides of a place where it is cut. -/
theorem cutAt_append {c : Char} (hc : isCut c = true) (a b : List Char) :
    Text.cutAt isCut (a ++ c :: b) = Text.cutAt isCut a ++ Text.cutAt isCut b := by
  simp only [cutAt_eq, List.foldl_append, List.foldl_cons]
  rcases a.foldl (cutStep isCut) ([], []) with ⟨word, done⟩
  have hstep : cutStep isCut (word, done) c = ([], word.reverse :: done) := by
    rw [cutStep, if_pos hc]
  rw [hstep, foldl_cutStep isCut b [] (word.reverse :: done)]
  simp

/-- A text without places to cut is one word. -/
theorem cutAt_of_uncut {s : List Char} (h : ∀ c ∈ s, isCut c = false) :
    Text.cutAt isCut s = [s] := by
  have hfold : ∀ word : List Char,
      s.foldl (cutStep isCut) (word, []) = (s.reverse ++ word, []) := by
    induction s with
    | nil => exact fun word => rfl
    | cons c s ih =>
      intro word
      have hc : isCut c = false := h c List.mem_cons_self
      simp only [List.foldl_cons, cutStep, hc, Bool.false_eq_true, if_false]
      rw [ih (fun d hd => h d (List.mem_cons_of_mem _ hd))]
      simp
  rw [cutAt_eq, hfold]
  simp

end Cut

/-! ### The last name -/

/-- The last segment of a path is what stands behind the last slash. -/
theorem getLast?_segments (front : String) {name : String} (hname : '/' ∉ name.toList) :
    (Path.segments (front ++ "/" ++ name)).getLast? = some name.toList := by
  have hslash : decide ('/' = '/') = true := rfl
  have hother : ∀ c ∈ name.toList, decide (c = '/') = false := by
    intro c hc
    have hne : c ≠ '/' := ne_of_mem_of_not_mem hc hname
    simpa using hne
  have huncut : Text.cutAt (· = '/') name.toList = [name.toList] := cutAt_of_uncut hother
  -- The slash at the start of a path is left out, and it may be the last one.
  have hcut : ∀ s : List Char,
      (Text.cutAt (· = '/') (s ++ '/' :: name.toList)).getLast? = some name.toList := by
    intro s
    rw [@cutAt_append (· = '/') '/' hslash, huncut, List.getLast?_concat]
  have htext : (front ++ "/" ++ name).toList = front.toList ++ '/' :: name.toList := by
    simp [String.toList_append]
  unfold Path.segments
  simp only [htext]
  split
  · cases front.toList with
    | nil =>
      rw [List.nil_append, List.drop_succ_cons, List.drop_zero, huncut]
      rfl
    | cons c s =>
      rw [List.cons_append, List.drop_succ_cons, List.drop_zero]
      exact hcut s
  · exact hcut front.toList

/-- The last part of a path is the name behind its last slash. -/
theorem getLast?_parts (front : String) {name : String} (hname : '/' ∉ name.toList)
    (hne : name ≠ "") : (Path.parts (front ++ "/" ++ name)).getLast? = some name := by
  have hlast := getLast?_segments front hname
  obtain ⟨before, hsegments⟩ := List.getLast?_eq_some_iff.mp hlast
  have hkept : name.toList ≠ [] := by simpa using hne
  unfold Path.parts
  rw [hsegments]
  simp [hkept]

/-! ### Where a path aims -/

/-- Where names lead if every directory on the way is there. -/
def aim : Place → List String → Place × LastName
  | dir, [] => (dir, .root)
  | dir, ["."] => (dir, .here)
  | dir, [".."] => (dir, .above)
  | dir, [name] => (dir, .name name)
  | dir, "." :: rest => aim dir rest
  | dir, ".." :: rest => aim dir.dropLast rest
  | dir, name :: rest => aim (dir ++ [name]) rest

/-- A walk that ends does so where its names aim. -/
theorem aim_of_walk {tree : FileTree} {dir : Place} {names : List String}
    {found : Place × LastName} (h : tree.walk dir names = .ok found) : aim dir names = found := by
  -- A walk checks that each name is a directory; where it ends, the check has made no difference.
  fun_induction FileTree.walk tree dir names with
  | case1 | case2 | case3 =>
    cases h
    rfl
  | case4 dir name hdot hdots =>
    cases h
    rw [aim]
    · exact hdot
    · exact hdots
  | case5 dir rest hrest ih =>
    rw [aim]
    · exact ih h
    · exact hrest
  | case6 dir rest hrest ih =>
    rw [aim]
    · exact ih h
    · exact hrest
  | case7 dir name rest h1 h2 h3 h4 h5 hchild ih =>
    have hstep : aim dir (name :: rest) = aim (dir ++ [name]) rest := by
      rw [aim] <;> assumption
    rw [hstep]
    exact ih h
  | case8 | case9 => cases h

/-- Names aim at the last of them. -/
theorem getLast?_of_aim {dir dir' : Place} {names : List String} {name : String}
    (h : aim dir names = (dir', .name name)) : names.getLast? = some name ∧ name ≠ "." := by
  fun_induction aim dir names with
  | case1 | case2 | case3 => cases h
  | case4 dir name hdot hdots =>
    cases h
    exact ⟨rfl, hdot⟩
  | case5 dir rest hrest ih =>
    rw [List.getLast?_cons, (ih h).1]
    exact ⟨rfl, (ih h).2⟩
  | case6 dir rest hrest ih =>
    rw [List.getLast?_cons, (ih h).1]
    exact ⟨rfl, (ih h).2⟩
  | case7 dir name rest h1 h2 h3 h4 h5 ih =>
    rw [List.getLast?_cons, (ih h).1]
    exact ⟨rfl, (ih h).2⟩

/-- A path that leads to a name ends in it. -/
theorem getLast?_of_locate {tree : FileTree} {cwd dir : Place} {path name : String} {slash : Bool}
    (h : tree.locate cwd path = .ok ⟨dir, .name name, slash⟩) :
    (Path.parts path).getLast? = some name :=
  (getLast?_of_aim (aim_of_walk (walk_of_locate h))).1

/-- The file that a path leads to has the last name of the path. -/
theorem fileAt?_last {tree : FileTree} {cwd : Place} {front name : String}
    (hname : '/' ∉ name.toList) (hne : name ≠ "") {file : Place × ByteArray}
    (h : fileAt? tree cwd (front ++ "/" ++ name) = some file) :
    file.1.getLast? = some name := by
  obtain ⟨place, content⟩ := file
  obtain ⟨dir, last, hlocate, -, rfl⟩ := fileAt?_eq_some_iff.mp h
  have hlast := getLast?_of_locate hlocate
  rw [getLast?_parts front hname hne] at hlast
  cases hlast
  exact List.getLast?_concat ..

end ModBuild.Proofs.Files
