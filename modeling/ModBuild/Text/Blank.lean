import ModBuild.Text.Ranges

/-!
# `ModBuild.Text.Blank`: white space

The characters of Unicode that count as white space.
-/

set_option autoImplicit false

namespace ModBuild.Text

/-- The ranges of white space. -/
def blankRanges : Array (Array Nat) :=
  tableOf "9.D 20 85 A0 1680 2000.200A 2028.2029 202F 205F 3000"

/-- The character is white space. -/
def isBlank (c : Char) : Bool :=
  inRanges blankRanges c

/-- The text holds nothing but white space. -/
def isAllBlank (text : String) : Bool :=
  text.toList.all isBlank

end ModBuild.Text
