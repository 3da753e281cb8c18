import ModBuild.Entries
import ModBuild.Number.Shortest

/-!
# `ModBuild.Json.Value`: JSON documents as values

Members of an object ascend by their names. Whole numbers are kept exactly as far as 64 bits go,
others as floating-point numbers.
-/

set_option autoImplicit false

namespace ModBuild.Json

/-- A number of a document. -/
inductive Number where
  /-- A whole number from 0 on. -/
  | natural (n : Nat)
  /-- The whole number `-n` below 0. -/
  | negative (n : Nat)
  | float (x : Number.Binary64)
  deriving DecidableEq

/-- A document or a part of one. -/
inductive Value where
  | null
  | bool (b : Bool)
  | number (n : Number)
  | string (s : String)
  | array (items : List Value)
  | object (members : List (String × Value))

/-- Floating-point numbers are written out in full from `0.00001` up to 16 digits before the
point. -/
def floatStyle : Number.DecimalStyle :=
  ⟨-5, 15⟩

/-- The text of a number. -/
def Number.text : Number → String
  | natural n => toString n
  | negative n => "-" ++ toString n
  | float x => x.write floatStyle

end ModBuild.Json
