import ModBuild.Toml.Scalar

/-!
# `ModBuild.Toml.Node`: settings as a tree

The settings of a document form tables within tables. How a table came about decides what may still
be added to it: one that is only on the way to another may get a heading of its own, one that came
from dots within a key may not, and one in braces is closed.

* `Node.assign?` sets a value, `Node.open?` starts a table and `Node.openNext?` the next of several.
-/

set_option autoImplicit false

namespace ModBuild.Toml

/-- How a table came about. -/
inductive Kind where
  /-- It is on the way to a table with a heading. -/
  | implied
  /-- It is on the way of a key with dots. -/
  | dotted
  /-- It has a heading, or is the document itself. -/
  | headed
  /-- It stands in braces. -/
  | closed
  deriving DecidableEq

/-- A value, a list or a table. -/
inductive Node where
  | text (text : String)
  | scalar (scalar : Scalar)
  | list (items : List Node)
  /-- Tables under one heading in double brackets, the last one first. -/
  | tables (tables : List Node)
  | table (kind : Kind) (members : List (String × Node))

namespace Node

/-- Members with a new value for a name that is among them. -/
def replaced (name : String) (node : Node) (members : List (String × Node)) :
    List (String × Node) :=
  members.map fun m => if m.1 = name then (name, node) else m

/-- Goes down a path of names and changes the table there. Tables that are missing on the way are
made. A key with dots does not go into tables with a heading. -/
def within? (dotted : Bool) (change : Node → Option Node) : List String → Node → Option Node
  | [], node => change node
  | name :: path, .table kind members =>
    match members.lookup name with
    | none =>
      let fresh : Node := .table (if dotted then .dotted else .implied) []
      (within? dotted change path fresh).map fun child => .table kind (members ++ [(name, child)])
    | some (.table childKind inner) =>
      if childKind = .closed || (dotted && childKind = .headed) then none
      else
        (within? dotted change path (.table childKind inner)).map fun child =>
          .table kind (replaced name child members)
    | some (.tables (last :: before)) =>
      (within? dotted change path last).map fun last =>
        .table kind (replaced name (.tables (last :: before)) members)
    | some _ => none
  | _, _ => none

/-- Sets a name that has no value yet. A table from dots takes names behind dots alone, and other
tables take none of them. -/
def setNew (dotted : Bool) (name : String) (value : Node) : Node → Option Node
  | .table kind members =>
    if (kind = .dotted) = dotted && (members.lookup name).isNone then
      some (.table kind (members ++ [(name, value)]))
    else none
  | _ => none

/-- Sets the value of a key, the last of whose names is `name`. -/
def assign? (node : Node) (path : List String) (name : String) (value : Node) : Option Node :=
  within? true (setNew (path ≠ []) name value) path node

/-- Gives a heading to a table that has none. -/
def headed (name : String) : Node → Option Node
  | .table kind members =>
    match members.lookup name with
    | none => some (.table kind (members ++ [(name, .table .headed [])]))
    | some (.table .implied inner) =>
      some (.table kind (replaced name (.table .headed inner) members))
    | some _ => none
  | _ => none

/-- Starts the table of a heading. -/
def open? (node : Node) (path : List String) (name : String) : Option Node :=
  within? false (headed name) path node

/-- Adds a table to those of a heading. -/
def headedNext (name : String) : Node → Option Node
  | .table kind members =>
    let fresh : Node := .table .headed []
    match members.lookup name with
    | none => some (.table kind (members ++ [(name, .tables [fresh])]))
    | some (.tables before) =>
      some (.table kind (replaced name (.tables (fresh :: before)) members))
    | some _ => none
  | _ => none

/-- Starts the next table of a heading in double brackets. -/
def openNext? (node : Node) (path : List String) (name : String) : Option Node :=
  within? false (headedNext name) path node

end Node

end ModBuild.Toml
