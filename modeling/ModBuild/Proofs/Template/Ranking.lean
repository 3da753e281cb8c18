import Mathlib.Data.List.Sort
import ModBuild.Proofs.Template.Similar

/-!
# `ModBuild.Proofs.Template.Ranking`: in which order names are suggested

The suggestions come out of a filter and a sort that compares distances only, where equal distances
keep the order of the list. Here the order is said without the sort. Each candidate stands with its
position, and of two candidates at the same distance the earlier one comes first. So no two of them
are level, and the order is determined. The theorems:

* `pairwise_mergeSort`: a sort keeps the relation of a list between elements that it finds level.
* `isRanking_of_perm`: an order of the close candidates is checked without sorting them.
* `IsRanking.unique` and `isRanking_sorted`: there is one ranking, and the sort finds it.
* `similarNames_of_isRanking`: the suggestions are the first few of the ranking.
* `IsRanking.le_of_not_mem`: what is left out is not closer than what is suggested.
* `head?_similarNames`: a candidate that is the target comes first.
* `nodup_similarNames_of_close`: repetitions among the suggestions come from the candidates.
-/

set_option autoImplicit false

namespace ModBuild.Proofs.Template

open ModBuild ModBuild.Template

/-! ### Sorting -/

section

variable {α : Type} {le : α → α → Bool} {r : α → α → Prop} {l : List α}

/-- Of two different elements of a list one stands in front of the other. -/
theorem pair_sublist_or {a b : α} (ha : a ∈ l) (hb : b ∈ l) (hne : a ≠ b) :
    [a, b].Sublist l ∨ [b, a].Sublist l := by
  obtain ⟨front, behind, rfl⟩ := List.append_of_mem ha
  rcases List.mem_append.mp hb with hfront | hbehind
  · right
    have hpair : [b, a] = [b] ++ [a] := rfl
    rw [hpair]
    exact (List.singleton_sublist.mpr hfront).append (List.singleton_sublist.mpr List.mem_cons_self)
  · left
    have hb : b ∈ behind := (List.mem_cons.mp hbehind).resolve_left hne.symm
    exact ((List.singleton_sublist.mpr hb).cons_cons a).trans (List.sublist_append_right front _)

/-- In a list without repetitions they do not stand in front of each other. -/
theorem not_sublist_swap {a b : α} (hl : l.Nodup) (h : [a, b].Sublist l) :
    ¬ [b, a].Sublist l := by
  induction l with
  | nil => exact absurd (List.sublist_nil.mp h) (List.cons_ne_nil _ _)
  | cons c l ih =>
    obtain ⟨hc, hl⟩ := List.nodup_cons.mp hl
    intro hswap
    cases h with
    | cons _ h =>
      cases hswap with
      | cons _ hswap => exact ih hl h hswap
      | cons_cons _ _ => exact hc (h.subset (by simp))
    | cons_cons _ h =>
      cases hswap with
      | cons _ hswap => exact hc (hswap.subset (by simp))
      | cons_cons _ _ => exact hc (h.subset (by simp))

/-- A sort puts smaller elements first, and leaves those that it finds level as they stand in the
list. -/
theorem pairwise_mergeSort (htrans : ∀ a b c, le a b = true → le b c = true → le a c = true)
    (htotal : ∀ a b, (le a b || le b a) = true) (hirrefl : ∀ a, ¬ r a a) (hl : l.Pairwise r) :
    (l.mergeSort le).Pairwise fun a b => le a b = true ∧ (le b a = true → r a b) := by
  have hperm := List.mergeSort_perm l le
  have hnodup : l.Nodup := by
    refine hl.imp ?_
    rintro a b hab rfl
    exact hirrefl a hab
  have hsorted : (l.mergeSort le).Nodup := hperm.nodup_iff.mpr hnodup
  rw [List.pairwise_iff_forall_sublist]
  intro a b hpair
  have hle : le a b = true :=
    List.pairwise_iff_forall_sublist.mp (List.pairwise_mergeSort htrans htotal l) hpair
  refine ⟨hle, fun hlevel => ?_⟩
  have hne : a ≠ b := List.pairwise_iff_forall_sublist.mp hsorted hpair
  have ha : a ∈ l := hperm.mem_iff.mp (hpair.subset (by simp))
  have hb : b ∈ l := hperm.mem_iff.mp (hpair.subset (by simp))
  -- The other way round the sort would have left them so.
  rcases pair_sublist_or ha hb hne with hfront | hbehind
  · exact List.pairwise_iff_forall_sublist.mp hl hfront
  · have hkept := List.pair_sublist_mergeSort htrans htotal hlevel hbehind
    exact absurd hkept (not_sublist_swap hsorted hpair)

end

/-! ### Rankings -/

/-- A candidate with its position comes before another: it is closer to the target, or as close and
listed earlier. -/
def Before (target : String) (a b : String × Nat) : Prop :=
  leastEdits target.toList a.1.toList < leastEdits target.toList b.1.toList ∨
    leastEdits target.toList a.1.toList = leastEdits target.toList b.1.toList ∧ a.2 < b.2

/-- The candidates that are close to the target, with their positions, each behind those that come
before it. Close are names that are off by half the bytes of the target at most. -/
structure IsRanking (target : String) (candidates : List String) (order : List (String × Nat)) :
    Prop where
  listed : ∀ name i, (name, i) ∈ order ↔ candidates[i]? = some name ∧
    leastEdits target.toList name.toList ≤ target.utf8ByteSize / 2
  sorted : order.Pairwise (Before target)

variable {target name : String} {candidates : List String} {order other : List (String × Nat)}

/-- No candidate comes before itself. -/
theorem not_before_self (target : String) (e : String × Nat) : ¬ Before target e e := by
  rintro (h | ⟨-, h⟩)
  · exact Nat.lt_irrefl _ h
  · exact Nat.lt_irrefl _ h

/-- Of two candidates, at most one comes before the other. -/
theorem Before.not_before {a b : String × Nat} (h : Before target a b) : ¬ Before target b a := by
  unfold Before at h ⊢
  omega

/-- A candidate that comes before another is at least as close. -/
theorem Before.le {a b : String × Nat} (h : Before target a b) :
    leastEdits target.toList a.1.toList ≤ leastEdits target.toList b.1.toList := by
  unfold Before at h
  omega

/-- Which of two comes first can be computed. -/
instance (target : String) (a b : String × Nat) : Decidable (Before target a b) :=
  decidable_of_iff
    (editDistance target.toList a.1.toList < editDistance target.toList b.1.toList ∨
      editDistance target.toList a.1.toList = editDistance target.toList b.1.toList ∧ a.2 < b.2)
    (by rw [Before, editDistance_eq_leastEdits, editDistance_eq_leastEdits])

/-- A name is close if the edits to it are at most half as many as the target has bytes. -/
theorem isClose_iff :
    isClose target name = true ↔
      leastEdits target.toList name.toList ≤ target.utf8ByteSize / 2 := by
  have hhalf : similarityLimit target = target.utf8ByteSize / 2 := by
    unfold similarityLimit similarityPercent
    omega
  rw [isClose, decide_eq_true_iff, editDistance_eq_leastEdits, hhalf]

/-- No two candidates are level, so there is one ranking. -/
theorem IsRanking.unique (h : IsRanking target candidates order)
    (h' : IsRanking target candidates other) : order = other := by
  have hirrefl : Std.Irrefl (Before target) := ⟨not_before_self target⟩
  have hantisymm : Std.Antisymm (Before target) :=
    ⟨fun _ _ hab hba => absurd hba hab.not_before⟩
  refine h.sorted.eq_of_mem_iff h'.sorted ?_
  rintro ⟨name, i⟩
  rw [h.listed, h'.listed]

/-- The close candidates with their positions, in the order of the list. -/
def closeEntries (target : String) (candidates : List String) : List (String × Nat) :=
  candidates.zipIdx.filter fun e => isClose target e.1

/-- The close candidates with their positions, sorted by distance alone. -/
def sortedEntries (target : String) (candidates : List String) : List (String × Nat) :=
  (closeEntries target candidates).mergeSort fun a b => isCloser target a.1 b.1

/-- The close candidates are in the order that they are listed in. -/
theorem pairwise_closeEntries (target : String) (candidates : List String) :
    (closeEntries target candidates).Pairwise fun a b => a.2 < b.2 := by
  have hpositions : (candidates.zipIdx.map Prod.snd).Pairwise (· < ·) := by
    rw [List.zipIdx_map_snd]
    exact List.pairwise_lt_range'
  exact (List.pairwise_map.mp hpositions).filter _

/-- The close candidates in order are a ranking. -/
theorem isRanking_of_perm (hperm : order.Perm (closeEntries target candidates))
    (hsorted : order.Pairwise (Before target)) : IsRanking target candidates order := by
  refine ⟨fun name i => ?_, hsorted⟩
  rw [hperm.mem_iff, closeEntries, List.mem_filter, List.mk_mem_zipIdx_iff_getElem?, isClose_iff]

/-- To sort by distance is to rank, because the positions ascend in the list. -/
theorem isRanking_sorted (target : String) (candidates : List String) :
    IsRanking target candidates (sortedEntries target candidates) := by
  refine isRanking_of_perm (List.mergeSort_perm _ _) ?_
  have hsorted : (sortedEntries target candidates).Pairwise fun a b =>
      isCloser target a.1 b.1 = true ∧ (isCloser target b.1 a.1 = true → a.2 < b.2) :=
    pairwise_mergeSort (fun a b c => isCloser_trans target a.1 b.1 c.1)
      (fun a b => isCloser_total target a.1 b.1) (fun _ => Nat.lt_irrefl _)
      (pairwise_closeEntries target candidates)
  refine hsorted.imp ?_
  rintro a b ⟨hle, hlevel⟩
  rw [isCloser_iff] at hle hlevel
  rcases Nat.lt_or_eq_of_le hle with hlt | heq
  · exact .inl hlt
  · exact .inr ⟨heq, hlevel (Nat.le_of_eq heq.symm)⟩

/-- The names of the close candidates are those of the names that are close. -/
theorem map_closeEntries (target : String) (candidates : List String) :
    (closeEntries target candidates).map Prod.fst = candidates.filter (isClose target) := by
  have hfilter := List.filter_map (p := isClose target) (f := Prod.fst) (l := candidates.zipIdx)
  rw [List.zipIdx_map_fst] at hfilter
  exact hfilter.symm

/-- The names of a ranking are the close candidates, sorted by distance. -/
theorem IsRanking.map_fst (h : IsRanking target candidates order) :
    order.map Prod.fst = (candidates.filter (isClose target)).mergeSort (isCloser target) := by
  rw [h.unique (isRanking_sorted target candidates), sortedEntries,
    List.map_mergeSort (s := isCloser target) (fun _ _ _ _ => rfl), map_closeEntries]

/-- The suggestions are the first three names of the ranking. -/
theorem similarNames_of_isRanking (h : IsRanking target candidates order) :
    similarNames target candidates = (order.take 3).map Prod.fst := by
  rw [similarNames_eq, ← h.map_fst, List.map_take]
  rfl

/-- A ranking has as many entries as there are close candidates. -/
theorem IsRanking.length_eq (h : IsRanking target candidates order) :
    order.length = candidates.countP
      fun name => leastEdits target.toList name.toList ≤ target.utf8ByteSize / 2 := by
  have hlength := congrArg List.length h.map_fst
  rw [List.length_map, List.length_mergeSort, ← List.countP_eq_length_filter] at hlength
  rw [hlength]
  refine List.countP_congr fun name _ => ?_
  rw [isClose_iff, decide_eq_true_iff]

/-! ### What is left out, and what comes first -/

/-- An entry that is not among the first few is not closer than one of them. -/
theorem IsRanking.le_of_not_mem (h : IsRanking target candidates order) {i k : Nat}
    (hname : candidates[i]? = some name) (hout : (name, i) ∉ order.take k) {e : String × Nat}
    (he : e ∈ order.take k) :
    leastEdits target.toList e.1.toList ≤ leastEdits target.toList name.toList := by
  by_cases hclose : leastEdits target.toList name.toList ≤ target.utf8ByteSize / 2
  · -- It is ranked, behind the first few.
    have hmem : (name, i) ∈ order := (h.listed name i).mpr ⟨hname, hclose⟩
    rw [← List.take_append_drop k order, List.mem_append] at hmem
    exact (h.sorted.rel_of_mem_take_of_mem_drop he (hmem.resolve_left hout)).le
  · have hranked := ((h.listed e.1 e.2).mp (List.mem_of_mem_take he)).2
    omega

/-- No edit is needed between equal texts alone. -/
theorem leastEdits_eq_zero_iff {s t : List Char} : leastEdits s t = 0 ↔ s = t := by
  rw [← editDistance_eq_leastEdits]
  constructor
  · intro h
    have hedits := editsIn_editDistance s t
    rw [h] at hedits
    cases hedits
    rfl
  · rintro rfl
    exact editDistance_self s

/-- A candidate that is the target itself comes first. -/
theorem head?_similarNames (h : target ∈ candidates) :
    (similarNames target candidates).head? = some target := by
  have hranking := isRanking_sorted target candidates
  have hself : leastEdits target.toList target.toList = 0 := leastEdits_eq_zero_iff.mpr rfl
  obtain ⟨i, hi⟩ := List.mem_iff_getElem?.mp h
  have hmem : (target, i) ∈ sortedEntries target candidates :=
    (hranking.listed target i).mpr ⟨hi, by omega⟩
  -- Nothing is closer than the target itself, and at no distance there is only the target.
  rw [similarNames_of_isRanking hranking]
  generalize sortedEntries target candidates = order at hranking hmem
  cases order with
  | nil => cases hmem
  | cons first rest =>
    have hfirst : first.1 = target := by
      rcases List.mem_cons.mp hmem with heq | hrest
      · rw [← heq]
      · have hbefore := ((List.pairwise_cons.mp hranking.sorted).1 _ hrest).le
        rw [hself] at hbefore
        have hzero := leastEdits_eq_zero_iff.mp (Nat.le_zero.mp hbefore)
        exact (String.toList_inj.mp hzero).symm
    rw [List.take_succ_cons, List.map_cons, List.head?_cons, hfirst]

/-! ### Candidates that are listed more than once -/

/-- No candidate is suggested more often than it is listed. -/
theorem similarNames_subperm (target : String) (candidates : List String) :
    (similarNames target candidates).Subperm candidates := by
  rw [similarNames_eq]
  have htake := List.take_sublist suggestionCount
    ((candidates.filter (isClose target)).mergeSort (isCloser target))
  have hsorted := (List.mergeSort_perm (candidates.filter (isClose target))
    (isCloser target)).subperm
  exact htake.subperm.trans (hsorted.trans List.filter_sublist.subperm)

/-- What is suggested is close. -/
theorem isClose_of_mem_similarNames {s : String} (h : s ∈ similarNames target candidates) :
    leastEdits target.toList s.toList ≤ target.utf8ByteSize / 2 := by
  have hranking := isRanking_sorted target candidates
  rw [similarNames_of_isRanking hranking] at h
  obtain ⟨e, he, rfl⟩ := List.mem_map.mp h
  exact ((hranking.listed e.1 e.2).mp (List.mem_of_mem_take he)).2

/-- A close candidate is left out only for three entries that are as close. -/
theorem similarNames_of_left_out {left : String} (hleft : left ∈ candidates)
    (hclose : leastEdits target.toList left.toList ≤ target.utf8ByteSize / 2)
    (hout : left ∉ similarNames target candidates) :
    (similarNames target candidates).length = 3 ∧ ∀ s ∈ similarNames target candidates,
      leastEdits target.toList s.toList ≤ leastEdits target.toList left.toList := by
  have hranking := isRanking_sorted target candidates
  obtain ⟨i, hi⟩ := List.mem_iff_getElem?.mp hleft
  rw [similarNames_of_isRanking hranking] at hout ⊢
  generalize sortedEntries target candidates = order at hranking hout ⊢
  have hnot : (left, i) ∉ order.take 3 :=
    fun hmem => hout (List.mem_map.mpr ⟨_, hmem, rfl⟩)
  refine ⟨?_, fun s hs => ?_⟩
  · -- Had the ranking no more than three entries, nothing would be left out.
    have hlong : 3 < order.length := by
      by_contra hshort
      rw [List.take_of_length_le (Nat.le_of_not_lt hshort)] at hnot
      exact hnot ((hranking.listed left i).mpr ⟨hi, hclose⟩)
    rw [List.length_map, List.length_take]
    omega
  · obtain ⟨e, he, rfl⟩ := List.mem_map.mp hs
    exact hranking.le_of_not_mem hi hnot he

/-- If no close candidate is listed twice, none is suggested twice. -/
theorem nodup_similarNames_of_close (honce : ∀ name,
      leastEdits target.toList name.toList ≤ target.utf8ByteSize / 2 → candidates.count name ≤ 1) :
    (similarNames target candidates).Nodup := by
  rw [List.nodup_iff_count_le_one]
  intro name
  by_cases hmem : name ∈ similarNames target candidates
  · have hcount := (similarNames_subperm target candidates).count_le name
    exact Nat.le_trans hcount (honce name (isClose_of_mem_similarNames hmem))
  · rw [List.count_eq_zero_of_not_mem hmem]
    exact Nat.zero_le 1

end ModBuild.Proofs.Template
