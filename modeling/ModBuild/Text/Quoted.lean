import ModBuild.Text.Printable

/-!
# `ModBuild.Text.Quoted`: texts in quotes

A text that an error shows is put between double quotes. A quote or a backslash in it gets a
backslash in front, the usual blanks have escapes of their own, and a character that would not show
is spelled out by its number.
-/

set_option autoImplicit false

namespace ModBuild.Text

/-- The lower-case hexadecimal digits of a number, with no zeros in front. -/
def hexDigits (n : Nat) : String :=
  String.ofList (Nat.toDigits 16 n)

/-- A character as it stands between the quotes. -/
def quotedChar (c : Char) : String :=
  if c = '"' then "\\\""
  else if c = '\\' then "\\\\"
  else if c = '\t' then "\\t"
  else if c = '\r' then "\\r"
  else if c = '\n' then "\\n"
  else if c.toNat = 0 then "\\0"
  else if isPrintable c then String.ofList [c]
  else "\\u\x7b" ++ hexDigits c.toNat ++ "\x7d"

/-- A text between double quotes. -/
def quoted (s : String) : String :=
  s.toList.foldl (fun q c => q ++ quotedChar c) "\"" ++ "\""

end ModBuild.Text
