import Mathlib.Data.List.Nodup
import Mathlib.Order.Lattice.Nat
import ModBuild.Template.Similar

/-!
# `ModBuild.Proofs.Template.Similar`: names that are close to another

`editDistance` goes through rows of numbers. What it is to compute is said without them: an edit
inserts, removes or exchanges one character anywhere in a text, and `leastEdits` is the least number
of edits that take one text to another. The names that are suggested for a mistyped one are the
first few in the order of that number. The theorems:

* `editDistance_cons_cons`: the rows follow the usual recursion on the first characters of the
  texts.
* `Edit.near`: an edit changes the distance to any third text by one at most, by induction on what
  stands in front of it. So no fewer edits will do.
* `editsIn_editDistance`: as many edits will do, by the recursion.
* `editDistance_eq_leastEdits`: the two together.
* `similarNames_eq`: the suggestions as a filter and a stable sort of the candidates. The other
  facts about them are read off it.
-/

set_option autoImplicit false

namespace ModBuild.Proofs.Template

open ModBuild.Template

/-! ### Edits -/

/-- One text comes from another by an edit of a single character. -/
inductive Edit : List Char → List Char → Prop where
  | insert (front behind : List Char) (c : Char) : Edit (front ++ behind) (front ++ c :: behind)
  | remove (front behind : List Char) (c : Char) : Edit (front ++ c :: behind) (front ++ behind)
  | exchange (front behind : List Char) (c d : Char) :
      Edit (front ++ c :: behind) (front ++ d :: behind)

/-- A number of edits take one text to another. -/
inductive EditsIn : Nat → List Char → List Char → Prop where
  | none {s : List Char} : EditsIn 0 s s
  | more {n : Nat} {s next t : List Char} (hedit : Edit s next) (hrest : EditsIn n next t) :
      EditsIn (n + 1) s t

/-- The least number of edits that take one text to another. -/
noncomputable def leastEdits (s t : List Char) : Nat :=
  sInf {n | EditsIn n s t}

variable {n : Nat} {s t u v : List Char}

/-- An edit is one behind a character as well. -/
theorem Edit.cons (c : Char) (h : Edit s t) : Edit (c :: s) (c :: t) := by
  cases h with
  | insert front behind d => exact .insert (c :: front) behind d
  | remove front behind d => exact .remove (c :: front) behind d
  | exchange front behind d e => exact .exchange (c :: front) behind d e

/-- Edits may leave the first character alone. -/
theorem EditsIn.cons (c : Char) (h : EditsIn n s t) : EditsIn n (c :: s) (c :: t) := by
  induction h with
  | none => exact .none
  | more hedit _ ih => exact .more (hedit.cons c) ih

/-! ### The recursion -/

/-- From the empty text there is one distance, the length. -/
theorem editRow_nil (t : List Char) : editRow [] t = [t.length] := by
  induction t with
  | nil => rfl
  | cons c t ih =>
    have hrow : editRow [] (c :: t) = (editRow [] t).map (· + 1) := rfl
    rw [hrow, ih, List.map_singleton, List.length_cons]

/-- The row of a text goes on with the row of the rest of it. -/
theorem editRow_cons (c : Char) (s t : List Char) :
    editRow (c :: s) t = editDistance (c :: s) t :: editRow s t := by
  suffices h : ∃ n, editRow (c :: s) t = n :: editRow s t by
    obtain ⟨n, hrow⟩ := h
    rw [editDistance, hrow, List.headD_cons]
  induction t with
  | nil => exact ⟨_, rfl⟩
  | cons d t ih =>
    obtain ⟨n, hrow⟩ := ih
    have hnext : editRow (c :: s) (d :: t) = nextRow d (c :: s) (editRow (c :: s) t) := rfl
    rw [hnext, hrow]
    exact ⟨_, rfl⟩

/-- From the empty text, every character is inserted. -/
theorem editDistance_nil_left (t : List Char) : editDistance [] t = t.length := by
  rw [editDistance, editRow_nil, List.headD_cons]

/-- To the empty text, every character is removed. -/
theorem editDistance_nil_right (s : List Char) : editDistance s [] = s.length := by
  cases s with
  | nil => rfl
  | cons c s => rfl

/-- The first characters are exchanged or kept, or one of the texts goes on without its own. -/
theorem editDistance_cons_cons (c d : Char) (s t : List Char) :
    editDistance (c :: s) (d :: t) =
      min (editDistance s t + if c = d then 0 else 1)
        (min (editDistance (c :: s) t + 1) (editDistance s (d :: t) + 1)) := by
  have hnext : editRow (c :: s) (d :: t) = nextRow d (c :: s) (editRow (c :: s) t) := rfl
  rw [editDistance, hnext, editRow_cons]
  rfl

/-- A text has no distance to itself. -/
theorem editDistance_self (s : List Char) : editDistance s s = 0 := by
  induction s with
  | nil => rfl
  | cons c s ih =>
    rw [editDistance_cons_cons, ih, if_pos rfl]
    omega

/-! ### No fewer edits will do -/

/-- A character in front of the first text adds at most one edit. -/
theorem editDistance_cons_left_le (c : Char) (s t : List Char) :
    editDistance (c :: s) t ≤ editDistance s t + 1 := by
  cases t with
  | nil => simp [editDistance_nil_right]
  | cons d t =>
    rw [editDistance_cons_cons]
    omega

/-- A character in front of the second text adds at most one edit. -/
theorem editDistance_cons_right_le (d : Char) (s t : List Char) :
    editDistance s (d :: t) ≤ editDistance s t + 1 := by
  cases s with
  | nil => simp [editDistance_nil_left]
  | cons c s =>
    rw [editDistance_cons_cons]
    omega

/-- To take a character from the front of the first text adds at most one edit. -/
theorem editDistance_le_cons_left (c : Char) (s t : List Char) :
    editDistance s t ≤ editDistance (c :: s) t + 1 := by
  induction t with
  | nil =>
    rw [editDistance_nil_right, editDistance_nil_right, List.length_cons]
    omega
  | cons d t ih =>
    have hright := editDistance_cons_right_le d s t
    rw [editDistance_cons_cons]
    omega

/-- To exchange the character in front of the first text adds at most one edit. -/
theorem editDistance_exchange_le (c d : Char) (s t : List Char) :
    editDistance (c :: s) t ≤ editDistance (d :: s) t + 1 := by
  induction t with
  | nil => simp [editDistance_nil_right]
  | cons e t ih =>
    rw [editDistance_cons_cons, editDistance_cons_cons]
    split <;> split <;> omega

/-- The first text is at most one further off than the second from any third. -/
def Near (s next : List Char) : Prop :=
  ∀ t, editDistance s t ≤ editDistance next t + 1

/-- Texts that are near are so behind a character. -/
theorem Near.cons (c : Char) (h : Near u v) : Near (c :: u) (c :: v) := by
  intro t
  induction t with
  | nil =>
    have hnil := h []
    simp only [editDistance_nil_right] at hnil
    simp only [editDistance_nil_right, List.length_cons]
    omega
  | cons d t ih =>
    have hrest := h t
    have hsame := h (d :: t)
    rw [editDistance_cons_cons, editDistance_cons_cons]
    omega

/-- Texts that are near are so behind a text. -/
theorem Near.append (front : List Char) (h : Near u v) : Near (front ++ u) (front ++ v) := by
  induction front with
  | nil => exact h
  | cons c front ih => exact ih.cons c

/-- An edit brings a text nearer to another by one at most. -/
theorem Edit.near (h : Edit s t) : Near s t := by
  cases h with
  | insert front behind c =>
    have hnear : Near behind (c :: behind) := editDistance_le_cons_left c behind
    exact hnear.append front
  | remove front behind c =>
    have hnear : Near (c :: behind) behind := editDistance_cons_left_le c behind
    exact hnear.append front
  | exchange front behind c d =>
    have hnear : Near (c :: behind) (d :: behind) := editDistance_exchange_le c d behind
    exact hnear.append front

/-- No edits from one text to another are fewer than their distance. -/
theorem EditsIn.editDistance_le (h : EditsIn n s t) : editDistance s t ≤ n := by
  induction h with
  | none => exact Nat.le_of_eq (editDistance_self _)
  | more hedit _ ih => exact Nat.le_trans (hedit.near _) (Nat.succ_le_succ ih)

/-! ### As many edits will do -/

/-- The empty text becomes another by as many edits as that has characters. -/
theorem editsIn_nil_left (t : List Char) : EditsIn t.length [] t := by
  induction t with
  | nil => exact .none
  | cons d t ih => exact .more (.insert [] [] d) (ih.cons d)

/-- A text becomes empty by as many edits as it has characters. -/
theorem editsIn_nil_right (s : List Char) : EditsIn s.length s [] := by
  induction s with
  | nil => exact .none
  | cons c s ih => exact .more (.remove [] s c) ih

/-- The distance is a number of edits. Which of the three an edit is depends on which number the
recursion takes. -/
theorem editsIn_editDistance (s t : List Char) : EditsIn (editDistance s t) s t := by
  induction s generalizing t with
  | nil =>
    rw [editDistance_nil_left]
    exact editsIn_nil_left t
  | cons c s ihs =>
    induction t with
    | nil =>
      rw [editDistance_nil_right]
      exact editsIn_nil_right (c :: s)
    | cons d t iht =>
      have hcases : editDistance (c :: s) (d :: t) = editDistance s t + (if c = d then 0 else 1) ∨
          editDistance (c :: s) (d :: t) = editDistance (c :: s) t + 1 ∨
          editDistance (c :: s) (d :: t) = editDistance s (d :: t) + 1 := by
        rw [editDistance_cons_cons]
        omega
      -- The way that is shortest says the first edit.
      rcases hcases with hfirst | hinsert | hremove
      · by_cases hcd : c = d
        · rw [hfirst, if_pos hcd, Nat.add_zero, hcd]
          exact (ihs t).cons d
        · rw [hfirst, if_neg hcd]
          exact .more (.exchange [] s c d) ((ihs t).cons d)
      · rw [hinsert]
        exact .more (.insert [] (c :: s) d) (iht.cons d)
      · rw [hremove]
        exact .more (.remove [] s c) (ihs (d :: t))

/-! ### The distance counts edits -/

/-- The distance is the least number of edits from one text to the other. -/
theorem isLeast_editDistance (s t : List Char) :
    IsLeast {n | EditsIn n s t} (editDistance s t) :=
  ⟨editsIn_editDistance s t, fun _ h => h.editDistance_le⟩

/-- The distance of two texts is the least number of edits that take one to the other. -/
theorem editDistance_eq_leastEdits (s t : List Char) : editDistance s t = leastEdits s t :=
  (isLeast_editDistance s t).csInf_eq.symm

/-! ### Suggestions -/

/-- The name is as close to the target as suggestions are. -/
def isClose (target name : String) : Bool :=
  editDistance target.toList name.toList ≤ similarityLimit target

/-- The first name is no further from the target than the second. -/
def isCloser (target a b : String) : Bool :=
  editDistance target.toList a.toList ≤ editDistance target.toList b.toList

/-- A name is sorted together with its distance, which can be computed from it again. -/
def withDistance (target name : String) : String × Nat :=
  (name, editDistance target.toList name.toList)

/-- A name is closer if it takes no more edits. -/
theorem isCloser_iff {target a b : String} :
    isCloser target a b = true ↔
      leastEdits target.toList a.toList ≤ leastEdits target.toList b.toList := by
  rw [isCloser, decide_eq_true_iff, editDistance_eq_leastEdits, editDistance_eq_leastEdits]

/-- What is closer than a closer name is closer. -/
theorem isCloser_trans (target a b c : String) (hab : isCloser target a b = true)
    (hbc : isCloser target b c = true) : isCloser target a c = true := by
  rw [isCloser_iff] at *
  exact Nat.le_trans hab hbc

/-- Of two names one is closer, or both are as close. -/
theorem isCloser_total (target a b : String) :
    (isCloser target a b || isCloser target b a) = true := by
  rw [Bool.or_eq_true, isCloser_iff, isCloser_iff]
  exact Nat.le_total _ _

section

variable (target : String) (candidates : List String)

/-- The suggestions are the first few of the close candidates, when these are sorted by distance. -/
theorem similarNames_eq :
    similarNames target candidates =
      ((candidates.filter (isClose target)).mergeSort (isCloser target)).take suggestionCount := by
  have hclose : (candidates.map (withDistance target)).filter
        (fun s => decide (s.2 ≤ similarityLimit target)) =
      (candidates.filter (isClose target)).map (withDistance target) := List.filter_map
  have hsort : ((candidates.filter (isClose target)).map (withDistance target)).mergeSort
        (fun a b => decide (a.2 ≤ b.2)) =
      ((candidates.filter (isClose target)).mergeSort (isCloser target)).map
        (withDistance target) :=
    (List.map_mergeSort (r := isCloser target) (f := withDistance target) fun _ _ _ _ => rfl).symm
  -- The distances are taken along for the comparison, and dropped at the end.
  calc similarNames target candidates
      = ((((candidates.map (withDistance target)).filter
          (fun s => decide (s.2 ≤ similarityLimit target))).mergeSort
          (fun a b => decide (a.2 ≤ b.2))).take suggestionCount).map (·.1) := rfl
    _ = ((((candidates.filter (isClose target)).mergeSort (isCloser target)).take
          suggestionCount).map (withDistance target)).map (·.1) := by
        rw [hclose, hsort, ← List.map_take]
    _ = _ := by
        rw [List.map_map]
        exact List.map_id _

/-- There are no more suggestions than their number allows. -/
theorem length_similarNames_le : (similarNames target candidates).length ≤ suggestionCount := by
  rw [similarNames_eq]
  exact List.length_take_le _ _

/-- Every suggestion is one of the candidates. -/
theorem similarNames_subset : similarNames target candidates ⊆ candidates := by
  intro name hname
  rw [similarNames_eq] at hname
  have hclose := List.mem_mergeSort.mp (List.mem_of_mem_take hname)
  exact List.mem_of_mem_filter hclose

/-- The closest suggestion comes first. -/
theorem pairwise_similarNames :
    (similarNames target candidates).Pairwise fun a b =>
      leastEdits target.toList a.toList ≤ leastEdits target.toList b.toList := by
  rw [similarNames_eq]
  have hsorted := List.pairwise_mergeSort (isCloser_trans target) (isCloser_total target)
    (candidates.filter (isClose target))
  exact (hsorted.sublist (List.take_sublist _ _)).imp isCloser_iff.mp

variable {candidates}

/-- Different candidates give different suggestions. -/
theorem nodup_similarNames (h : candidates.Nodup) : (similarNames target candidates).Nodup := by
  rw [similarNames_eq]
  have hsorted := (List.mergeSort_perm (candidates.filter (isClose target))
    (isCloser target)).nodup_iff.mpr (h.filter _)
  exact hsorted.sublist (List.take_sublist _ _)

end

end ModBuild.Proofs.Template
