import Mathlib
import ModBuild.Files.Store

/-!
# `ModBuild.Proofs.Digest.Spelling`: what algorithms are called

An algorithm has a name with one dash, `SHA-256` for instance, and is also called by that name
without the dash; the oldest is called `SHA` as well. Letters count in either case. Spellings are
read with less care: all their dashes are dropped first, wherever they stand. The theorems:

* `ofSpelling_eq_ok_iff`: a spelling stands for an algorithm exactly if the algorithm is called so
  when the dashes are left out. `ofSpelling_of_isCalled`: every algorithm is found by all that it is
  called.
* `IsCalled.of_withoutDashes`: where dashes stand as in a name, a spelling stands for nothing that
  is not called so. `not_calledAsSpelled` is a spelling with dashes elsewhere.
* `ofSpelling_by_name`: the three, with what follows for the digests of files.
-/

set_option autoImplicit false

namespace ModBuild.Proofs.Digest

open ModBuild ModBuild.Digest ModBuild.Digest.Algorithm

variable {s t : List Char} {a : Algorithm} {spelling : String}

/-! ### Letters in either case -/

/-- The texts differ at most in the case of ASCII letters. -/
def SameButCase (s t : List Char) : Prop :=
  s.map Char.toLower = t.map Char.toLower

instance (s t : List Char) : Decidable (SameButCase s t) :=
  inferInstanceAs (Decidable (s.map Char.toLower = t.map Char.toLower))

/-- Two characters have one upper case exactly if they have one lower case. -/
theorem toUpper_eq_toUpper_iff {c d : Char} : c.toUpper = d.toUpper ↔ c.toLower = d.toLower := by
  constructor
  · intro h
    rw [← Char.toLower_toUpper_eq_toLower c, h, Char.toLower_toUpper_eq_toLower]
  · intro h
    rw [← Char.toUpper_toLower_eq_toUpper c, h, Char.toUpper_toLower_eq_toUpper]

/-- It does not matter in which case texts are compared. -/
theorem sameButCase_iff_toUpper : SameButCase s t ↔ s.map Char.toUpper = t.map Char.toUpper := by
  unfold SameButCase
  induction s generalizing t with
  | nil => cases t <;> simp
  | cons c s ih =>
    cases t with
    | nil => simp
    | cons d t => simp [toUpper_eq_toUpper_iff, ih]

/-- Texts that differ in case alone are of one length. -/
theorem SameButCase.length_eq (h : SameButCase s t) : s.length = t.length := by
  simpa using congrArg List.length h

/-- Two texts are alike if they are so in front of a place and behind it. -/
theorem sameButCase_append_iff {s' t' : List Char} (hlength : s.length = t.length) :
    SameButCase (s ++ s') (t ++ t') ↔ SameButCase s t ∧ SameButCase s' t' := by
  unfold SameButCase
  rw [List.map_append, List.map_append]
  constructor
  · intro h
    exact List.append_inj h (by simpa using hlength)
  · rintro ⟨hs, ht⟩
    rw [hs, ht]

/-! ### Dashes -/

/-- A text without its dashes. -/
def withoutDashes (s : List Char) : List Char :=
  s.filter (· ≠ '-')

/-- Only a dash is a dash in upper case. -/
theorem toUpper_eq_dash_iff {c : Char} : c.toUpper = '-' ↔ c = '-' := by
  constructor
  · intro h
    by_cases hc : c.isLower
    · -- A letter in upper case is no dash.
      have hupper := Char.isUpper_toUpper_eq_isAlpha c
      rw [h, Char.isAlpha, hc, Bool.or_true] at hupper
      cases hupper
    · rwa [Char.toUpper_eq_of_not_isLower hc] at h
  · rintro rfl
    rfl

/-- Spellings are read without dashes and in upper case, in whichever order. -/
theorem map_toUpper_withoutDashes (s : List Char) :
    (withoutDashes s).map Char.toUpper = plainSpelling s := by
  unfold withoutDashes plainSpelling
  rw [List.filter_map]
  congr 1
  refine List.filter_congr fun c _ => ?_
  simp [toUpper_eq_dash_iff]

/-- Texts that differ in case alone do so without their dashes. -/
theorem SameButCase.withoutDashes (h : SameButCase s t) :
    SameButCase (withoutDashes s) (withoutDashes t) := by
  rw [sameButCase_iff_toUpper] at h ⊢
  rw [map_toUpper_withoutDashes, map_toUpper_withoutDashes, plainSpelling, plainSpelling, h]

/-- A text without dashes has none to lose. -/
theorem withoutDashes_of_not_mem (h : '-' ∉ s) : withoutDashes s = s := by
  refine List.filter_eq_self.mpr fun c hc => ?_
  have hne : c ≠ '-' := ne_of_mem_of_not_mem hc h
  simpa using hne

/-- Once the dashes are gone, there are none. -/
theorem not_mem_withoutDashes (s : List Char) : '-' ∉ withoutDashes s := by
  simp [withoutDashes]

/-- No dash stands elsewhere than behind the third character and in front of another, where names
have theirs. -/
def DashesInPlace (s : List Char) : Prop :=
  ∀ i (_ : i < s.length), s[i] = '-' → i = 3 ∧ 4 < s.length

instance (s : List Char) : Decidable (DashesInPlace s) :=
  inferInstanceAs (Decidable (∀ i (_ : i < s.length), s[i] = '-' → i = 3 ∧ 4 < s.length))

/-- Where dashes are in place, one stands behind three characters and in front of others. -/
theorem DashesInPlace.of_append {front behind : List Char}
    (h : DashesInPlace (front ++ '-' :: behind)) : front.length = 3 ∧ behind ≠ [] := by
  have hlt : front.length < (front ++ '-' :: behind).length := by simp
  obtain ⟨hlength, hlonger⟩ := h front.length hlt (by simp)
  refine ⟨hlength, ?_⟩
  rintro rfl
  simp [hlength] at hlonger

/-- So there is one dash, if any. -/
theorem DashesInPlace.cases (h : DashesInPlace s) :
    withoutDashes s = s ∨ ∃ front behind, s = front ++ '-' :: behind ∧ front.length = 3 ∧
      behind ≠ [] ∧ withoutDashes s = front ++ behind := by
  by_cases hdash : '-' ∈ s
  · obtain ⟨front, behind, rfl, hfront⟩ := List.eq_append_cons_of_mem hdash
    obtain ⟨hlength, hne⟩ := h.of_append
    have hbehind : '-' ∉ behind := by
      intro hmem
      -- What is in front of a second dash is longer than what is in front of the first.
      obtain ⟨between, rest, rfl, -⟩ := List.eq_append_cons_of_mem hmem
      rw [← List.cons_append, ← List.append_assoc] at h
      have hlonger := h.of_append.1
      rw [List.length_append, List.length_cons] at hlonger
      omega
    refine .inr ⟨front, behind, rfl, hlength, hne, ?_⟩
    rw [withoutDashes, List.filter_append, List.filter_cons_of_neg (by decide)]
    exact congrArg₂ _ (withoutDashes_of_not_mem hfront) (withoutDashes_of_not_mem hbehind)
  · exact .inl (withoutDashes_of_not_mem hdash)

/-! ### What algorithms are called -/

/-- What an algorithm is called without any dash. -/
def plainNames (a : Algorithm) : List (List Char) :=
  a.name.toList.erase '-' :: if a = sha1 then ["SHA".toList] else []

/-- The algorithm is called so: by its name, or by its name without the dash, or the oldest by its
short name; letters in either case. -/
def IsCalled (a : Algorithm) (s : List Char) : Prop :=
  SameButCase s a.name.toList ∨ ∃ t ∈ plainNames a, SameButCase s t

instance (a : Algorithm) (s : List Char) : Decidable (IsCalled a s) :=
  inferInstanceAs (Decidable (_ ∨ _))

/-- The names without a dash are those of the algorithms, and the short one of SHA-1. -/
theorem mem_plainNames_iff :
    t ∈ plainNames a ↔ t = a.name.toList.erase '-' ∨ a = sha1 ∧ t = "SHA".toList := by
  by_cases ha : a = sha1 <;> simp [plainNames, ha]

/-- The name of an algorithm has a single dash to lose. -/
theorem withoutDashes_name (a : Algorithm) :
    withoutDashes a.name.toList = a.name.toList.erase '-' := by
  cases a <;> decide

/-- Names without dashes are in upper case. -/
theorem plain_of_mem_plainNames (h : t ∈ plainNames a) :
    withoutDashes t = t ∧ t.map Char.toUpper = t := by
  have hall : ∀ a : Algorithm, ∀ t ∈ plainNames a,
      withoutDashes t = t ∧ t.map Char.toUpper = t := by
    intro a
    cases a <;> decide
  exact hall a t h

/-- What is called so is called so without the dashes. -/
theorem IsCalled.exists_plain (h : IsCalled a s) :
    ∃ t ∈ plainNames a, SameButCase (withoutDashes s) t := by
  rcases h with hname | ⟨t, ht, hsame⟩
  · refine ⟨a.name.toList.erase '-', List.mem_cons_self, ?_⟩
    rw [← withoutDashes_name]
    exact hname.withoutDashes
  · refine ⟨t, ht, ?_⟩
    rw [← (plain_of_mem_plainNames ht).1]
    exact hsame.withoutDashes

/-- A spelling without its dashes is a name of an algorithm exactly if it is one of the names
without a dash. -/
theorem isCalled_withoutDashes_iff :
    IsCalled a (withoutDashes s) ↔ plainSpelling s ∈ plainNames a := by
  have hplain : ∀ t ∈ plainNames a, SameButCase (withoutDashes s) t ↔ plainSpelling s = t := by
    intro t ht
    rw [sameButCase_iff_toUpper, map_toUpper_withoutDashes, (plain_of_mem_plainNames ht).2]
  constructor
  · intro h
    obtain ⟨t, ht, hsame⟩ := h.exists_plain
    rw [withoutDashes_of_not_mem (not_mem_withoutDashes s), hplain t ht] at hsame
    exact hsame ▸ ht
  · intro h
    exact .inr ⟨_, h, (hplain _ h).mpr rfl⟩

/-- A name has its dash behind the third character. -/
theorem name_eq (a : Algorithm) :
    a.name.toList = a.name.toList.take 3 ++ '-' :: a.name.toList.drop 4 ∧
      a.name.toList.erase '-' = a.name.toList.take 3 ++ a.name.toList.drop 4 := by
  cases a <;> decide

/-- Where the dashes of a text stand as in a name, it does not matter whether they are counted. -/
theorem IsCalled.of_withoutDashes (hplace : DashesInPlace s) (h : IsCalled a (withoutDashes s)) :
    IsCalled a s := by
  rcases hplace.cases with hnone | ⟨front, behind, rfl, hlength, hne, hplain⟩
  · rwa [hnone] at h
  · obtain ⟨t, ht, hsame⟩ := h.exists_plain
    rw [withoutDashes_of_not_mem (not_mem_withoutDashes _), hplain] at hsame
    rcases mem_plainNames_iff.mp ht with rfl | ⟨-, rfl⟩
    · -- The dash stands in the text where it stands in the name.
      refine .inl ?_
      have hthree : front.length = (a.name.toList.take 3).length := by
        rw [hlength]
        cases a <;> rfl
      rw [(name_eq a).2, sameButCase_append_iff hthree] at hsame
      rw [(name_eq a).1, sameButCase_append_iff hthree]
      exact ⟨hsame.1, congrArg (_ :: ·) hsame.2⟩
    · -- The short name has nothing behind the dash.
      have hthree : (front ++ behind).length = 3 := hsame.length_eq
      rw [List.length_append, hlength] at hthree
      exact absurd (List.length_eq_zero_iff.mp (by omega)) hne

/-! ### Reading a spelling -/

/-- The match on the plain spelling, as membership. -/
theorem ofSpelling_eq_ok_iff_mem :
    ofSpelling spelling = .ok a ↔ plainSpelling spelling.toList ∈ plainNames a := by
  constructor
  · intro h
    have hread : ∀ {plain : String}, String.ofList (plainSpelling spelling.toList) = plain →
        plainSpelling spelling.toList = plain.toList := by
      rintro plain rfl
      rw [String.toList_ofList]
    unfold ofSpelling at h
    -- One case for each spelling that is listed, with what the text is in it.
    split at h <;> cases h <;> rename_i hplain <;> rw [hread hplain] <;> decide
  · intro h
    unfold ofSpelling
    rcases mem_plainNames_iff.mp h with hname | ⟨rfl, hshort⟩
    · rw [hname]
      cases a <;> rfl
    · rw [hshort]
      rfl

/-- A spelling stands for an algorithm that is called so without the dashes. -/
theorem ofSpelling_eq_ok_iff :
    ofSpelling spelling = .ok a ↔ IsCalled a (withoutDashes spelling.toList) := by
  rw [ofSpelling_eq_ok_iff_mem, isCalled_withoutDashes_iff]

/-- An algorithm is found by all that it is called. -/
theorem ofSpelling_of_isCalled (h : IsCalled a spelling.toList) : ofSpelling spelling = .ok a := by
  obtain ⟨t, ht, hsame⟩ := h.exists_plain
  exact ofSpelling_eq_ok_iff.mpr (.inr ⟨t, ht, hsame⟩)

/-- Any other spelling is an error that names it. -/
theorem ofSpelling_of_not_isCalled (h : ∀ a, ¬ IsCalled a (withoutDashes spelling.toList)) :
    ofSpelling spelling = .error (.unsupportedAlgorithm spelling) := by
  cases hread : ofSpelling spelling with
  | ok a => exact absurd (ofSpelling_eq_ok_iff.mp hread) (h a)
  | error e =>
    unfold ofSpelling at hread
    split at hread <;> cases hread
    rfl

/-! ### Digests of files -/

variable {tree : FileTree} {cwd : Place} {path : String} {content : ByteArray}

/-- A file is not read for an algorithm that is not known. -/
theorem hashFile_of_error {e : BuildError} (h : ofSpelling spelling = .error e) (tree : FileTree)
    (cwd : Place) (path : String) : tree.hashFile cwd path spelling = .error e := by
  rw [FileTree.hashFile, h]

/-- A file that can be read has a digest by each algorithm that is known. -/
theorem hashFile_of_read (h : ofSpelling spelling = .ok a)
    (hread : tree.read cwd path = .ok content) :
    tree.hashFile cwd path spelling = .ok (a.hexDigest content) := by
  simp only [FileTree.hashFile, h, hread]

/-- Which algorithm a spelling stands for, and what becomes of the digest of a file. Each algorithm
is found by all that it is called; what is found by a spelling is called so without the dashes, and
with them too if they stand where names have theirs. Any other spelling is an error that names it,
whatever there is at the path, if anything is. Spellings of one algorithm give one digest of one
content, wherever it is read. -/
theorem ofSpelling_by_name (spelling : String) :
    (∀ a, IsCalled a spelling.toList → ofSpelling spelling = .ok a) ∧
    (∀ a, ofSpelling spelling = .ok a ↔ IsCalled a (withoutDashes spelling.toList)) ∧
    (DashesInPlace spelling.toList →
      ∀ a, ofSpelling spelling = .ok a ↔ IsCalled a spelling.toList) ∧
    ((∀ a, ¬ IsCalled a (withoutDashes spelling.toList)) →
      ∀ (tree : FileTree) cwd path,
        tree.hashFile cwd path spelling = .error (.unsupportedAlgorithm spelling)) ∧
    ∀ a other, IsCalled a (withoutDashes spelling.toList) →
      IsCalled a (withoutDashes other.toList) →
      ∀ (tree tree' : FileTree) cwd cwd' path path' content,
        tree.read cwd path = .ok content → tree'.read cwd' path' = .ok content →
        ∃ digest, tree.hashFile cwd path spelling = .ok digest ∧
          tree'.hashFile cwd' path' other = .ok digest := by
  refine ⟨fun a => ofSpelling_of_isCalled, fun a => ofSpelling_eq_ok_iff, fun hplace a => ?_,
    fun hnone => hashFile_of_error (ofSpelling_of_not_isCalled hnone), ?_⟩
  · -- With the dashes in place, to leave them out makes no other spelling a name.
    constructor
    · intro h
      exact (ofSpelling_eq_ok_iff.mp h).of_withoutDashes hplace
    · exact ofSpelling_of_isCalled
  · intro a other hcalled hother tree tree' cwd cwd' path path' content hread hread'
    exact ⟨a.hexDigest content, hashFile_of_read (ofSpelling_eq_ok_iff.mpr hcalled) hread,
      hashFile_of_read (ofSpelling_eq_ok_iff.mpr hother) hread'⟩

/-- A file with three bytes. -/
def threeBytes : FileTree :=
  ⟨[(["f"], .file "abc".toUTF8)]⟩

/-- A name in other letters, and one with dashes around it, give one digest. What only looks like a
name is refused even where there is no file. -/
theorem ofSpelling_looseNames :
    (∀ a, ofSpelling "sHa-256" = .ok a ↔ IsCalled a "sHa-256".toList) ∧
      ofSpelling "sHa-256" = .ok sha256 ∧
      FileTree.hashFile .empty [] "f" "SHA-3" = .error (.unsupportedAlgorithm "SHA-3") ∧
      ∃ digest, threeBytes.hashFile [] "f" "sHa-256" = .ok digest ∧
        threeBytes.hashFile [] "/f" "-SHA256-" = .ok digest := by
  have hread : threeBytes.read [] "f" = .ok "abc".toUTF8 := by decide +kernel
  have hread' : threeBytes.read [] "/f" = .ok "abc".toUTF8 := by decide +kernel
  obtain ⟨hcalled, -, hplace, -, hdigest⟩ := ofSpelling_by_name "sHa-256"
  obtain ⟨-, -, -, hrefused, -⟩ := ofSpelling_by_name "SHA-3"
  refine ⟨hplace (by decide), hcalled sha256 (by decide), hrefused ?_ .empty [] "f", ?_⟩
  · intro a
    cases a <;> decide
  · exact hdigest sha256 "-SHA256-" (by decide) (by decide) threeBytes threeBytes [] [] "f" "/f" _
      hread hread'

/-- An algorithm is found by spellings that it is not called by: dashes may stand anywhere. -/
theorem not_calledAsSpelled :
    ¬ ∀ spelling a, ofSpelling spelling = .ok a ↔ IsCalled a spelling.toList := by
  intro hall
  have hread : ofSpelling "SHA-2-56" = .ok sha256 := by decide
  have hcalled : ¬ IsCalled sha256 "SHA-2-56".toList := by decide
  exact hcalled ((hall _ _).mp hread)

end ModBuild.Proofs.Digest
