import Mathlib.Data.List.Sort
import ModBuild.Proofs.Template.Cut
import ModBuild.Proofs.Template.Table
import ModBuild.Template.Expand

/-!
# `ModBuild.Proofs.Template.Writes`: what a run of writes leaves in a table

Values are registered one at a time or several together, and a write with a bad name changes
nothing. What a run of writes leaves is the last value for each name among the writes that
succeed. The order in which the names came does not show, neither in the listings nor in what a
template expands to.

* `apply_of_wellNamed` and `apply_of_not_wellNamed`: one write goes through as a whole, or fails at
  the first bad name.
* `find?_written`: a run of writes, by induction on the writes.
* `lookup_eq_some_iff_mem` and `eq_of_lookup_eq`: entries in ascending order are determined by what
  is found among them.
* `lt_utf8Bytes`: the order of names is the order of their bytes.
* `written_holds_last`: all of this for tables that start empty.
-/

set_option autoImplicit false

namespace ModBuild.Proofs.Template

open ModBuild ModBuild.Template

/-! ### Names -/

/-- The text is one or more letters `A` to `Z` and underscores, between two `@`. -/
def IsTokenName (name : String) : Prop :=
  ∃ letters, letters ≠ [] ∧ (∀ a ∈ letters, a = '_' ∨ 'A' ≤ a ∧ a ≤ 'Z') ∧
    name.toList = '@' :: letters ++ ['@']

/-- Names of tokens are the names that a table takes. -/
theorem isTokenName_iff {name : String} : IsTokenName name ↔ isName name.toList = true := by
  rw [isName_iff]
  constructor
  · rintro ⟨letters, hne, hclass, htext⟩
    exact ⟨letters, isTokenLetters_iff.mpr ⟨hne, hclass⟩, htext⟩
  · rintro ⟨letters, hletters, htext⟩
    obtain ⟨hne, hclass⟩ := isTokenLetters_iff.mp hletters
    exact ⟨letters, hne, hclass, htext⟩

instance (name : String) : Decidable (IsTokenName name) :=
  decidable_of_iff _ isTokenName_iff.symm

/-- The UTF-8 bytes of a text. -/
def utf8Bytes (text : String) : List UInt8 :=
  text.toUTF8.data.toList

/-- A character of ASCII is one byte. -/
theorem flatMap_utf8EncodeChar {s : List Char} (h : ∀ c ∈ s, c.toNat < 128) :
    s.flatMap String.utf8EncodeChar = s.map (·.val.toUInt8) := by
  induction s with
  | nil => rfl
  | cons c rest ih =>
    have hsize : c.utf8Size = 1 := by
      have hc := h c List.mem_cons_self
      rw [Char.utf8Size_eq_one_iff]
      exact UInt32.le_iff_toNat_le.mpr (Nat.le_of_lt_succ hc)
    rw [List.flatMap_cons, String.utf8EncodeChar_eq_singleton hsize,
      ih fun d hd => h d (List.mem_cons_of_mem _ hd)]
    rfl

/-- Characters up to 127 are one byte each. -/
theorem utf8Bytes_ofList {s : List Char} (h : ∀ c ∈ s, c.toNat < 128) :
    utf8Bytes (String.ofList s) = s.map (·.val.toUInt8) := by
  rw [utf8Bytes, String.toUTF8, String.toByteArray_ofList, List.utf8Encode,
    List.data_toByteArray, flatMap_utf8EncodeChar h]

/-- ASCII texts are in the order of their bytes. -/
theorem lt_map_toUInt8 {s t : List Char} (hs : ∀ c ∈ s, c.toNat < 128)
    (ht : ∀ c ∈ t, c.toNat < 128) (h : s < t) :
    s.map (·.val.toUInt8) < t.map (·.val.toUInt8) := by
  induction s generalizing t with
  | nil =>
    cases t with
    | nil => exact absurd h (List.lt_irrefl _)
    | cons d t => exact List.nil_lt_cons _ _
  | cons c s ih =>
    cases t with
    | nil => exact absurd h (List.not_lt_nil _)
    | cons d t =>
      rw [List.map_cons, List.map_cons, List.cons_lt_cons_iff]
      rcases List.cons_lt_cons_iff.mp h with hlt | ⟨rfl, hrest⟩
      · left
        -- Both are single bytes, so their codes are compared as they are.
        have hc : c.val.toNat < 128 := hs c List.mem_cons_self
        have hd : d.val.toNat < 128 := ht d List.mem_cons_self
        have hval : c.val.toNat < d.val.toNat := UInt32.lt_iff_toNat_lt.mp (Char.lt_def.mp hlt)
        rw [UInt8.lt_iff_toNat_lt, UInt32.toNat_toUInt8, UInt32.toNat_toUInt8]
        omega
      · exact .inr ⟨rfl, ih (fun e he => hs e (List.mem_cons_of_mem _ he))
          (fun e he => ht e (List.mem_cons_of_mem _ he)) hrest⟩

/-- Names are ASCII. -/
theorem IsTokenName.ascii {name : String} (h : IsTokenName name) :
    ∀ c ∈ name.toList, c.toNat < 128 := by
  obtain ⟨letters, -, hclass, htext⟩ := h
  intro c hc
  rw [htext] at hc
  simp only [List.cons_append, List.mem_cons, List.mem_append, List.not_mem_nil, or_false] at hc
  rcases hc with rfl | hletter | rfl
  · decide
  · rcases hclass c hletter with rfl | ⟨-, hle⟩
    · decide
    · have hval : c.toNat ≤ 'Z'.toNat := UInt32.le_iff_toNat_le.mp (Char.le_def.mp hle)
      exact Nat.lt_of_le_of_lt hval (by decide)
  · decide

/-- The order of names is the order of their bytes. -/
theorem lt_utf8Bytes {a b : String} (ha : IsTokenName a) (hb : IsTokenName b) (h : a < b) :
    utf8Bytes a < utf8Bytes b := by
  rw [← String.ofList_toList (s := a), ← String.ofList_toList (s := b),
    utf8Bytes_ofList ha.ascii, utf8Bytes_ofList hb.ascii]
  exact lt_map_toUInt8 ha.ascii hb.ascii h

/-! ### Entries in ascending order -/

section Ascending

variable {α : Type} {entries a b : List (String × α)}

/-- Entries in ascending order are found exactly under their names. -/
theorem lookup_eq_some_iff_mem (h : entries.Pairwise (fun a b => a.1 < b.1)) {name : String}
    {value : α} : entries.lookup name = some value ↔ (name, value) ∈ entries := by
  induction entries with
  | nil => simp
  | cons head rest ih =>
    obtain ⟨n, v⟩ := head
    rw [List.pairwise_cons] at h
    rw [lookup_cons, List.mem_cons, Prod.mk.injEq]
    by_cases hname : name = n
    · -- The entries behind have greater names.
      have hbehind : (name, value) ∉ rest := by
        intro hmem
        exact String.lt_irrefl n (hname ▸ h.1 _ hmem)
      simp [hname, hname ▸ hbehind, eq_comm]
    · simp [hname, ih h.2]

/-- No name is listed twice. -/
theorem nodup_names_of_ascending (h : entries.Pairwise (fun a b => a.1 < b.1)) :
    (entries.map (·.1)).Nodup := by
  refine List.pairwise_map.mpr (h.imp ?_)
  rintro a b hlt heq
  exact String.lt_irrefl _ (heq ▸ hlt)

/-- Entries in ascending order are the same if the same is found among them. -/
theorem eq_of_lookup_eq (ha : a.Pairwise (fun a b => a.1 < b.1))
    (hb : b.Pairwise (fun a b => a.1 < b.1)) (h : ∀ name, a.lookup name = b.lookup name) :
    a = b := by
  have hirrefl : Std.Irrefl fun x y : String × α => x.1 < y.1 := ⟨fun _ => String.lt_irrefl _⟩
  have hantisymm : Std.Antisymm fun x y : String × α => x.1 < y.1 :=
    ⟨fun _ _ hxy hyx => absurd (String.lt_trans hxy hyx) (String.lt_irrefl _)⟩
  refine ha.eq_of_mem_iff hb ?_
  rintro ⟨name, value⟩
  rw [← lookup_eq_some_iff_mem ha, ← lookup_eq_some_iff_mem hb, h name]

end Ascending

/-- The value under a name is the one that is listed with it. -/
theorem find?_eq_some_iff_mem {table : Table} {name value : String} :
    table.find? name = some value ↔ (name, value) ∈ table.entries :=
  lookup_eq_some_iff_mem table.ascending

/-- Tables that say the same of every name are equal. -/
theorem eq_of_find?_eq {a b : Table} (h : ∀ name, a.find? name = b.find? name) : a = b := by
  have hentries : a.entries = b.entries := eq_of_lookup_eq a.ascending b.ascending h
  cases a
  cases b
  cases hentries
  rfl

/-! ### One write -/

/-- What is asked of a table: to register one value, or several together. -/
inductive Write where
  | one (name value : String)
  | several (pairs : List (String × String))
  deriving DecidableEq

namespace Write

/-- The values of a write, in the order in which they are given. -/
def pairs : Write → List (String × String)
  | one name value => [(name, value)]
  | several pairs => pairs

/-- What the table answers to a write. -/
def apply (table : Table) : Write → Except BuildError Table
  | one name value => table.insert name value
  | several pairs => table.insertAll pairs

/-- Every name of the write has the form of a name. -/
def WellNamed (write : Write) : Prop :=
  ∀ e ∈ write.pairs, IsTokenName e.1

instance (write : Write) : Decidable write.WellNamed :=
  inferInstanceAs (Decidable (∀ e ∈ write.pairs, IsTokenName e.1))

end Write

/-- The first of the names that does not have the form of one. -/
def FirstBad (pairs : List (String × String)) (bad : String) : Prop :=
  ∃ before value after, pairs = before ++ (bad, value) :: after ∧
    (∀ e ∈ before, IsTokenName e.1) ∧ ¬ IsTokenName bad

/-- A write with good names goes through as a whole. The later of two values for a name stays, and
all other names keep theirs. -/
theorem apply_of_wellNamed {write : Write} (h : write.WellNamed) (table : Table) :
    ∃ table', write.apply table = .ok table' ∧ ∀ name,
      table'.find? name = (write.pairs.reverse.lookup name).or (table.find? name) := by
  cases write with
  | one name value =>
    have hname : isName name.toList = true :=
      isTokenName_iff.mp (h (name, value) (List.mem_singleton_self _))
    refine ⟨table.put name value hname, dif_pos hname, fun other => ?_⟩
    rw [find?_put, Write.pairs, List.reverse_singleton, lookup_cons]
    split <;> simp
  | several pairs =>
    have hnames : pairs.find? (fun e => !isName e.1.toList) = none := by
      rw [List.find?_eq_none]
      intro e he
      simpa using isTokenName_iff.mp (h e he)
    cases hok : table.insertAll pairs with
    | error e =>
      unfold Table.insertAll at hok
      split at hok
      · rename_i hsome
        rw [hnames] at hsome
        cases hsome
      · cases hok
    | ok table' => exact ⟨table', hok, find?_insertAll hok⟩

/-- A write with a bad name fails at the first one, and leaves nothing behind. -/
theorem apply_of_not_wellNamed {write : Write} (h : ¬ write.WellNamed) (table : Table) :
    ∃ bad, FirstBad write.pairs bad ∧ write.apply table = .error (.invalidName bad) := by
  cases write with
  | one name value =>
    have hbad : ¬ IsTokenName name := by simpa [Write.WellNamed, Write.pairs] using h
    refine ⟨name, ⟨[], value, [], rfl, nofun, hbad⟩, ?_⟩
    exact dif_neg (fun hname => hbad (isTokenName_iff.mpr hname))
  | several pairs =>
    show ∃ bad, FirstBad pairs bad ∧ table.insertAll pairs = .error (.invalidName bad)
    unfold Table.insertAll
    split
    · rename_i bad value hfound
      obtain ⟨hbad, before, after, hsplit, hbefore⟩ := List.find?_eq_some_iff_append.mp hfound
      refine ⟨bad, ⟨before, value, after, hsplit, fun e he => ?_, fun hname => ?_⟩, rfl⟩
      · exact isTokenName_iff.mpr (by simpa using hbefore e he)
      · rw [isTokenName_iff.mp hname] at hbad
        cases hbad
    · rename_i hnone
      refine absurd (fun e he => isTokenName_iff.mpr ?_) h
      simpa using List.find?_eq_none.mp hnone e he

/-! ### A run of writes -/

/-- The table behind a run of writes. A write that fails leaves the table as it was. -/
def written (table : Table) : List Write → Table
  | [] => table
  | write :: rest => written ((write.apply table).toOption.getD table) rest

/-- The values of the writes that succeed, in the order in which they are given. -/
def kept : List Write → List (String × String)
  | [] => []
  | write :: rest => (if write.WellNamed then write.pairs else []) ++ kept rest

/-- What is found behind a run is the last value that was kept, or else what was there. -/
theorem find?_written (table : Table) (writes : List Write) (name : String) :
    (written table writes).find? name =
      ((kept writes).reverse.lookup name).or (table.find? name) := by
  induction writes generalizing table with
  | nil => simp [written, kept]
  | cons write rest ih =>
    rw [written, ih, kept]
    by_cases h : write.WellNamed
    · obtain ⟨table', hok, hfind⟩ := apply_of_wellNamed h table
      rw [hok, if_pos h, List.reverse_append, List.lookup_append, Option.or_assoc]
      exact congrArg _ (hfind name)
    · obtain ⟨bad, -, hfail⟩ := apply_of_not_wellNamed h table
      rw [hfail, if_neg h, List.nil_append]
      rfl

/-- The last of the values that are given for a name. -/
def IsLastValue (pairs : List (String × String)) (name value : String) : Prop :=
  ∃ before after, pairs = before ++ (name, value) :: after ∧ ∀ e ∈ after, e.1 ≠ name

/-- From the end, what is found is the last value of a name. -/
theorem lookup_reverse_iff {pairs : List (String × String)} {name value : String} :
    pairs.reverse.lookup name = some value ↔ IsLastValue pairs name value := by
  rw [List.lookup_eq_some_iff]
  constructor
  · rintro ⟨before, after, heq, hbefore⟩
    refine ⟨after.reverse, before.reverse, ?_, fun e he => ?_⟩
    · rw [← List.reverse_reverse pairs, heq]
      simp
    · have hne := hbefore e (List.mem_reverse.mp he)
      exact fun h => by simp [h] at hne
  · rintro ⟨before, after, rfl, hafter⟩
    refine ⟨after.reverse, before.reverse, by simp, fun e he => ?_⟩
    have hne := hafter e (List.mem_reverse.mp he)
    exact bne_iff_ne.mpr (Ne.symm hne)

/-- From the end, a name is found exactly if there is a value for it. -/
theorem isSome_lookup_reverse_iff {pairs : List (String × String)} {name : String} :
    (pairs.reverse.lookup name).isSome = true ↔ ∃ e ∈ pairs, e.1 = name := by
  constructor
  · intro h
    obtain ⟨value, hvalue⟩ := Option.isSome_iff_exists.mp h
    obtain ⟨before, after, rfl, -⟩ := lookup_reverse_iff.mp hvalue
    exact ⟨(name, value), by simp, rfl⟩
  · rintro ⟨e, he, rfl⟩
    cases hvalue : pairs.reverse.lookup e.1 with
    | some value => rfl
    | none =>
      have hne := List.lookup_eq_none_iff.mp hvalue e (List.mem_reverse.mpr he)
      exact absurd rfl (bne_iff_ne.mp hne)

/-- The table is read as the last values of some pairs, and nothing else. -/
structure HoldsLast (table : Table) (pairs : List (String × String)) : Prop where
  find?_iff : ∀ name value, table.find? name = some value ↔ IsLastValue pairs name value
  contains_iff : ∀ name, table.contains name = true ↔ ∃ e ∈ pairs, e.1 = name
  mem_names_iff : ∀ name, name ∈ table.names ↔ ∃ e ∈ pairs, e.1 = name
  mem_entries_iff : ∀ name value,
    (name, value) ∈ table.entries ↔ IsLastValue pairs name value
  /-- The entries are listed under the same names, so the order below is theirs as well. -/
  names_entries : table.entries.map (·.1) = table.names
  /-- Each name is listed once, since the order is strict. -/
  ascending : table.names.Pairwise (fun a b => utf8Bytes a < utf8Bytes b)
  wellNamed : ∀ name ∈ table.names, IsTokenName name

/-- The listings say no more than what is found under the names. -/
theorem holdsLast_of_find? {table : Table} {pairs : List (String × String)}
    (h : ∀ name, table.find? name = pairs.reverse.lookup name) : HoldsLast table pairs := by
  have hfind : ∀ name value, table.find? name = some value ↔ IsLastValue pairs name value := by
    intro name value
    rw [h, lookup_reverse_iff]
  have hcontains : ∀ name, table.contains name = true ↔ ∃ e ∈ pairs, e.1 = name := by
    intro name
    rw [Table.contains, h, isSome_lookup_reverse_iff]
  have hentries : ∀ name value, (name, value) ∈ table.entries ↔ table.find? name = some value :=
    fun name value => find?_eq_some_iff_mem.symm
  have hwellNamed : ∀ name ∈ table.names, IsTokenName name := by
    intro name hname
    obtain ⟨e, he, rfl⟩ := List.mem_map.mp hname
    exact isTokenName_iff.mpr (table.named e he)
  -- What is listed and what is found are the same entries, and they ascend by name.
  refine ⟨hfind, hcontains, fun name => ?_, fun name value => ?_, rfl, ?_, hwellNamed⟩
  · rw [← hcontains, Table.contains, Option.isSome_iff_exists, Table.names, List.mem_map]
    constructor
    · rintro ⟨⟨n, value⟩, he, rfl⟩
      exact ⟨value, (hentries n value).mp he⟩
    · rintro ⟨value, hvalue⟩
      exact ⟨(name, value), (hentries name value).mpr hvalue, rfl⟩
  · rw [hentries, hfind]
  · have hnames : table.names.Pairwise (· < ·) := List.pairwise_map.mpr table.ascending
    refine hnames.imp_of_mem fun ha hb hlt => ?_
    exact lt_utf8Bytes (hwellNamed _ ha) (hwellNamed _ hb) hlt

/-! ### Result -/

/-- Whatever is written to an empty table, with good names or bad ones, the table holds the last
value for each name among the writes that succeed, and lists its names once and in the order of
their bytes. A further write keeps all of its values if all of its names are good, and otherwise
fails at the first bad name. Two tables that say the same of every name are the same table, and
every template expands alike from them, also where it fails and names are suggested. -/
theorem written_holds_last (writes : List Write) :
    HoldsLast (written .empty writes) (kept writes) ∧
    (∀ write : Write, write.WellNamed → ∃ table,
      write.apply (written .empty writes) = .ok table ∧
        HoldsLast table (kept writes ++ write.pairs)) ∧
    (∀ write : Write, ¬ write.WellNamed → ∃ bad, FirstBad write.pairs bad ∧
      write.apply (written .empty writes) = .error (.invalidName bad)) ∧
    ∀ others : List Write,
      (written .empty writes = written .empty others ∧
        ∀ template, expand (written .empty writes) template =
          expand (written .empty others) template) ↔
      ∀ name, (written .empty writes).find? name = (written .empty others).find? name := by
  have hfind : ∀ name, (written .empty writes).find? name = (kept writes).reverse.lookup name := by
    intro name
    rw [find?_written]
    exact Option.or_none
  refine ⟨holdsLast_of_find? hfind, fun write hwrite => ?_, fun write hwrite => ?_, fun others => ?_⟩
  · obtain ⟨table, hok, hafter⟩ := apply_of_wellNamed hwrite (written .empty writes)
    refine ⟨table, hok, holdsLast_of_find? fun name => ?_⟩
    rw [hafter, hfind, List.reverse_append, List.lookup_append]
  · exact apply_of_not_wellNamed hwrite (written .empty writes)
  · constructor
    · rintro ⟨heq, -⟩ name
      rw [heq]
    · intro hsame
      have heq := eq_of_find?_eq hsame
      exact ⟨heq, fun template => by rw [heq]⟩

/-- Two names, the first of them last. Between them several values are refused together. -/
def refusedOnce : List Write :=
  [.one "@B@" "1", .several [("@A@", "2"), ("@c@", "3"), ("", "4")],
    .several [("@A@", "5"), ("@B@", "@A@"), ("@A@", "6")]]

/-- The same names in the other order, at once. -/
def atOnce : List Write :=
  [.several [("@A@", "6"), ("@B@", "@A@")]]

/-- Neither the values that were refused nor the order of the others shows. -/
theorem written_refusedOnce :
    (written .empty refusedOnce).names = ["@A@", "@B@"] ∧
      HoldsLast (written .empty refusedOnce) (kept refusedOnce) ∧
      (∃ bad, FirstBad [("@A@", "2"), ("@c@", "3"), ("", "4")] bad ∧
        (written .empty refusedOnce).insertAll [("@A@", "2"), ("@c@", "3"), ("", "4")] =
          .error (.invalidName bad)) ∧
      ∀ template, expand (written .empty refusedOnce) template =
        expand (written .empty atOnce) template := by
  have hentries : (written .empty refusedOnce).entries = (written .empty atOnce).entries := by
    decide +kernel
  have hbad : ¬ (Write.several [("@A@", "2"), ("@c@", "3"), ("", "4")]).WellNamed := by
    decide +kernel
  obtain ⟨hholds, -, hrefused, hsame⟩ := written_holds_last refusedOnce
  refine ⟨by decide +kernel, hholds, hrefused _ hbad, ?_⟩
  refine ((hsame atOnce).mpr fun name => ?_).2
  rw [Table.find?, Table.find?, hentries]

end ModBuild.Proofs.Template
