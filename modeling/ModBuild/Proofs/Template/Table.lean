import ModBuild.Template.Table

/-!
# `ModBuild.Proofs.Template.Table`: what a table says after changes

A table is read through `find?`. To register a value changes what it says about one name, and the
order of the entries does not show.

* `find?_put`: one value registered.
* `find?_insertAll`: several values registered, of which the last for a name stays.
-/

set_option autoImplicit false

namespace ModBuild.Proofs.Template

open ModBuild ModBuild.Template

/-- What is looked up is the first entry if it has the name, or else one behind it. -/
theorem lookup_cons {α : Type} (name : String) (value : α) (entries : List (String × α))
    (other : String) :
    ((name, value) :: entries).lookup other =
      if other = name then some value else entries.lookup other := by
  rw [List.lookup_cons]
  by_cases h : other = name
  · rw [if_pos h, beq_iff_eq.mpr h]
  · rw [if_neg h, beq_eq_false_iff_ne.mpr h]

/-- The entry that is put in is found under its name, and nothing else changes. -/
theorem lookup_putEntry {α : Type} (name : String) (value : α) (entries : List (String × α))
    (other : String) :
    (putEntry name value entries).lookup other =
      if other = name then some value else entries.lookup other := by
  induction entries with
  | nil => exact lookup_cons name value [] other
  | cons head rest ih =>
    obtain ⟨n, v⟩ := head
    unfold putEntry
    split
    · exact lookup_cons name value ((n, v) :: rest) other
    · split
      · rename_i heq
        -- The entry takes the place of one with the same name.
        rw [lookup_cons, lookup_cons, ← heq]
        by_cases h : other = name
        · rw [if_pos h, if_pos h]
        · rw [if_neg h, if_neg h, if_neg h]
      · rename_i hne
        rw [lookup_cons, lookup_cons, ih]
        by_cases hn : other = n
        · have hother : ¬ other = name := fun h => hne (h.symm.trans hn)
          rw [if_pos hn, if_pos hn, if_neg hother]
        · rw [if_neg hn, if_neg hn]

/-- A name that is put in a table has the value that was put there, and the others keep theirs. -/
theorem find?_put (table : Table) (name value : String) (h : isName name.toList = true)
    (other : String) :
    (table.put name value h).find? other = if other = name then some value else table.find? other :=
  lookup_putEntry name value table.entries other

/-- Of several values for a name the last is the one that is found. -/
theorem find?_putAll (table : Table) (pairs : List (String × String))
    (h : ∀ e ∈ pairs, isName e.1.toList = true) (name : String) :
    (table.putAll pairs h).find? name = (pairs.reverse.lookup name).or (table.find? name) := by
  induction pairs generalizing table with
  | nil => simp [Table.putAll]
  | cons head rest ih =>
    obtain ⟨n, v⟩ := head
    rw [Table.putAll, ih, find?_put, List.reverse_cons, List.lookup_append, Option.or_assoc,
      lookup_cons]
    by_cases hn : name = n
    · rw [if_pos hn, if_pos hn, Option.some_or]
    · rw [if_neg hn, if_neg hn, List.lookup_nil, Option.none_or]

/-- After values are registered, the table says what it said before about all other names. -/
theorem find?_insertAll {table table' : Table} {pairs : List (String × String)}
    (h : table.insertAll pairs = .ok table') (name : String) :
    table'.find? name = (pairs.reverse.lookup name).or (table.find? name) := by
  unfold Table.insertAll at h
  split at h
  · cases h
  · cases h
    rw [find?_putAll]

end ModBuild.Proofs.Template
