/-!
# `ModBuild.Template.Similar`: names close to a mistyped one

The distance of two texts is the least number of characters to insert, delete or exchange that turns
one into the other. It is computed a row at a time: the row of a text against `candidate` holds the
distances of all its ends, longest first.

* `editDistance` is the distance, the head of the last row.
* `similarNames` picks the closest names, for an error that suggests them.
-/

set_option autoImplicit false

namespace ModBuild.Template

/-- The row of a text against the empty text: every end is as far off as it is long. -/
def baseRow : List Char → List Nat
  | [] => [0]
  | _ :: rest => (rest.length + 1) :: baseRow rest

/-- The row against a text with `c` in front of it, from the row against that text. An entry comes
from the one below it, from the one it replaces and from the one below that. -/
def nextRow (c : Char) : List Char → List Nat → List Nat
  | [], row => row.map (· + 1)
  | t :: rest, here :: row =>
    let below := nextRow c rest row
    let exchanged := row.headD 0 + if t = c then 0 else 1
    min exchanged (min (here + 1) (below.headD 0 + 1)) :: below
  | _ :: _, [] => []

/-- The row of a text against a candidate. -/
def editRow (target candidate : List Char) : List Nat :=
  candidate.foldr (fun c row => nextRow c target row) (baseRow target)

/-- The least number of single-character edits between two texts. -/
def editDistance (target candidate : List Char) : Nat :=
  (editRow target candidate).headD 0

/-- How far off a suggestion may be, in percent of the bytes of the text it is for. -/
def similarityPercent : Nat := 50

/-- How many suggestions are made at most. -/
def suggestionCount : Nat := 3

/-- The greatest distance of a suggestion for a text. -/
def similarityLimit (target : String) : Nat :=
  target.utf8ByteSize * similarityPercent / 100

/-- The names among the candidates that are close to a text, closest first. Equally close names
keep their order. -/
def similarNames (target : String) (candidates : List String) : List String :=
  let scored := candidates.map (fun name => (name, editDistance target.toList name.toList))
  let close := scored.filter (fun s => s.2 ≤ similarityLimit target)
  ((close.mergeSort (fun a b => a.2 ≤ b.2)).take suggestionCount).map (·.1)

end ModBuild.Template
