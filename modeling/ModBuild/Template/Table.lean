import ModBuild.Entries
import ModBuild.Error
import ModBuild.Template.Token

/-!
# `ModBuild.Template.Table`: replacements by name

A table holds one value for each registered name. Names are tokens, checked when they are
registered; values are kept as they are and may hold tokens themselves. The entries are in ascending
order of their names, so two tables with the same content are equal.

* `Table.insert` registers one replacement, `Table.insertAll` several or none.
* `Table.find?` is the view through which the rest of the library reads a table.
-/

set_option autoImplicit false

namespace ModBuild.Template

/-- Replacements by name. -/
structure Table where
  entries : List (String × String)
  /-- The names ascend, so none occurs twice. -/
  ascending : entries.Pairwise (fun a b => a.1 < b.1)
  /-- Every name is one token. -/
  named : ∀ e ∈ entries, isName e.1.toList = true

namespace Table

instance : DecidableEq Table := fun a b =>
  if h : a.entries = b.entries then
    .isTrue (by cases a; cases b; cases h; rfl)
  else
    .isFalse (fun e => h (e ▸ rfl))

/-- The table with no replacements. -/
def empty : Table :=
  ⟨[], .nil, by simp⟩

/-- The value registered under a name. -/
def find? (table : Table) (name : String) : Option String :=
  table.entries.lookup name

/-- The name is registered. -/
def contains (table : Table) (name : String) : Bool :=
  (table.find? name).isSome

/-- The registered names in ascending order. -/
def names (table : Table) : List String :=
  table.entries.map (·.1)

/-- The number of registered names. -/
def size (table : Table) : Nat :=
  table.entries.length

/-- The table with a value under a name that is known to be a token. -/
def put (table : Table) (name value : String) (h : isName name.toList = true) : Table where
  entries := putEntry name value table.entries
  ascending := putEntry_pairwise name value table.ascending
  named e he := by
    rcases mem_putEntry he with rfl | he
    · exact h
    · exact table.named e he

/-- Registers a value, in place of the one its name had. -/
def insert (table : Table) (name value : String) : Except BuildError Table :=
  if h : isName name.toList then .ok (table.put name value h)
  else .error (.invalidName name)

/-- Registers values in order, all with names that are known to be tokens. -/
def putAll (table : Table) :
    (pairs : List (String × String)) → (∀ e ∈ pairs, isName e.1.toList = true) → Table
  | [], _ => table
  | (name, value) :: rest, h =>
    (table.put name value (h (name, value) List.mem_cons_self)).putAll rest
      (fun e he => h e (List.mem_cons_of_mem _ he))

/-- Registers several values or, if a name is no token, none. The first such name is the one
reported. Of two values for one name the later stays. -/
def insertAll (table : Table) (pairs : List (String × String)) : Except BuildError Table :=
  match h : pairs.find? (fun e => !isName e.1.toList) with
  | some (name, _) => .error (.invalidName name)
  | none => .ok (table.putAll pairs (by simpa using h))

end Table

end ModBuild.Template
