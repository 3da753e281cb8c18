import ModBuild.Toml.Node

/-!
# `ModBuild.Toml.Record`: settings of a given form

A record is read from a table, whose members may come in any order, or from a list of its fields in
order. Members that are no fields are passed over, but have to be values that there are. A time
counts as a table with no fields.

* `Node.fields?` gives the values of the fields that are there.
-/

set_option autoImplicit false

namespace ModBuild.Toml.Node

mutual

/-- The value can be read, whatever it is for: no number in it is too great. -/
def readable : Node → Bool
  | .text _ => true
  | .scalar value => value ≠ .tooGreat
  | .list items => allReadable items
  | .tables parts => allReadable parts
  | .table _ members => membersReadable members

/-- All of the values can be read. -/
def allReadable : List Node → Bool
  | [] => true
  | item :: rest => readable item && allReadable rest

/-- The values of all members can be read. -/
def membersReadable : List (String × Node) → Bool
  | [] => true
  | (_, value) :: rest => readable value && membersReadable rest

end

/-- The values of the fields of a record, by name. -/
def fields? (names : List String) : Node → Option (List (String × Node))
  | .table _ members =>
    let (known, unknown) := members.partition fun m => names.contains m.1
    if membersReadable unknown then some known else none
  | .list items => some (names.zip items)
  | .tables parts => some (names.zip parts.reverse)
  | .scalar .time => some []
  | _ => none

/-- A field that holds a text, which may be missing. -/
def text? (fields : List (String × Node)) (name : String) : Option (Option String) :=
  match fields.lookup name with
  | none => some none
  | some (.text value) => some (some value)
  | some _ => none

/-- A field that holds a number below a bound, which may be missing. -/
def naturalBelow? (bound : Nat) (fields : List (String × Node)) (name : String) :
    Option (Option Nat) :=
  match fields.lookup name with
  | none => some none
  | some (.scalar (.integer n)) => if 0 ≤ n && n < bound then some (some n.toNat) else none
  | some _ => none

end ModBuild.Toml.Node
