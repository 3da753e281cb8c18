/-!
# `ModBuild.Text.Ranges`: tables over code points

Properties of characters are given by the Unicode standard as tables. Here a table is a text of
entries between blanks, an entry is a few hexadecimal numbers between dots, and the entries ascend
by their first number.

* `tableOf` reads such a text.
* `rowAt?` finds the entry at or before a code point by bisection.
* `inRanges` and `mappedCodes` read tables of ranges and of mappings.
-/

set_option autoImplicit false

namespace ModBuild.Text

/-- The value of a hexadecimal digit, upper case or lower. -/
def hexDigit? (c : Char) : Option Nat :=
  if '0' ≤ c && c ≤ '9' then some (c.toNat - '0'.toNat)
  else if 'a' ≤ c && c ≤ 'f' then some (c.toNat - 'a'.toNat + 10)
  else if 'A' ≤ c && c ≤ 'F' then some (c.toNat - 'A'.toNat + 10)
  else none

/-- The number that hexadecimal digits stand for. Other characters count as 0. -/
def hexNumber (digits : List Char) : Nat :=
  digits.foldl (fun n c => n * 16 + (hexDigit? c).getD 0) 0

/-- Cuts a text at every character of a class; the pieces between two of them may be empty. -/
def cutAt (isCut : Char → Bool) (s : List Char) : List (List Char) :=
  let (last, done) := s.foldl
    (fun (word, done) c => if isCut c then ([], word.reverse :: done) else (c :: word, done))
    (([] : List Char), ([] : List (List Char)))
  (last.reverse :: done).reverse

/-- The rows of a table. -/
def tableOf (text : String) : Array (Array Nat) :=
  let entries := (cutAt (fun c => c = ' ' || c = '\n') text.toList).filter (· ≠ [])
  (entries.map fun e => ((cutAt (· = '.') e).map hexNumber).toArray).toArray

/-- The first number of a row. -/
def rowStart (row : Array Nat) : Nat :=
  row.getD 0 0

/-- The second number of a row, which is the first where there is none. -/
def rowStop (row : Array Nat) : Nat :=
  row.getD 1 (rowStart row)

/-- Bisects the rows `lo` to `hi` for the last one that starts at `code` or before it, where `found`
is the last one known to. -/
def bisect (rows : Array (Array Nat)) (code : Nat) (found : Option (Array Nat)) (lo hi : Nat) :
    Option (Array Nat) :=
  if lo < hi then
    let mid := (lo + hi) / 2
    let row := rows.getD mid #[]
    if rowStart row ≤ code then bisect rows code (some row) (mid + 1) hi
    else bisect rows code found lo mid
  else found
termination_by hi - lo

/-- The last row of a table that starts at a code point or before it. -/
def rowAt? (rows : Array (Array Nat)) (code : Nat) : Option (Array Nat) :=
  bisect rows code none 0 rows.size

/-- A code point is in one of the ranges that the rows give by their first two numbers. -/
def inRanges (rows : Array (Array Nat)) (c : Char) : Bool :=
  match rowAt? rows c.toNat with
  | some row => c.toNat ≤ rowStop row
  | none => false

/-- What a mapping makes of a code point. A row of `runs` maps code points a fixed step apart to as
many as far apart: the first, the last, the step, and the image of the first. A row of `special`
maps one code point to several. -/
def mappedCodes (runs special : Array (Array Nat)) (code : Nat) : List Nat :=
  match rowAt? special code with
  | some row => if rowStart row = code then row.toList.drop 1 else single
  | none => single
where
  /-- The image of the code point by the run that holds it. -/
  single : List Nat :=
    match rowAt? runs code with
    | some row =>
      if code ≤ rowStop row && (code - rowStart row) % row.getD 2 1 = 0 then
        [row.getD 3 0 + (code - rowStart row)]
      else [code]
    | none => [code]

end ModBuild.Text
